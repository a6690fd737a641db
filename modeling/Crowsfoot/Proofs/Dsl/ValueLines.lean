import Crowsfoot.Proofs.Dsl.ShownLines

/-!
# Lines of enum values

Every value of an enum is written on a line of its own, under its identifier; a
value that is no identifier follows as a literal.  The identifier is always
read back.  But a literal shows the line boundaries outside ASCII as they are,
and what stands behind one is read as further values, unless it is blank or
looks like a comment or a block attribute.
-/

namespace Crowsfoot

open Crowsfoot.Text

namespace Dsl

theorem firstWord_of_isName {name : List Char} (isName : IsName name) {rest : List Char}
    (stops : Stops (!isBlank ·) rest) : firstWord (name ++ rest) = name := by
  have solid : ∀ c ∈ name, (!isBlank c) = true := by
    intro c member
    rw [isBlank_of_isWord (isName.word c member)]
    rfl
  rw [firstWord, splitWord, dropWhile_of_stops (isName.stops rest)]
  exact takeWhile_append_of_stops solid stops

/-- A line declares what its shown part declares, and what stands behind. -/
theorem valuesIn_eq_append (text : List Char) :
    valuesIn text = valuesIn (shownPart text) ++
      valuesIn ((text.dropWhile (!isLineBoundary ·)).drop 1) := by
  rw [valuesIn, declarations_eq_append, List.map_append]
  rfl

/-- A name with an attribute behind it is one value, whatever stands behind a
line boundary in the attribute. -/
theorem valuesIn_attribute {name : List Char} (isName : IsName name) (rest : List Char) :
    valuesIn (' ' :: ' ' :: (name ++ ' ' :: '@' :: rest)) =
      String.ofList name :: valuesIn ((rest.dropWhile (!isLineBoundary ·)).drop 1) := by
  have front : ∀ c ∈ ' ' :: ' ' :: (name ++ [' ', '@']), isLineBoundary c = false := by
    intro c member
    simp only [List.mem_cons, List.mem_append, List.not_mem_nil, or_false] at member
    rcases member with rfl | rfl | inName | rfl | rfl
    · rfl
    · rfl
    · exact isLineBoundary_of_isWord (isName.word c inName)
    · rfl
    · rfl
  have passed := shown_of_oneLine front
  have split : ' ' :: ' ' :: (name ++ ' ' :: '@' :: rest) =
      (' ' :: ' ' :: (name ++ [' ', '@'])) ++ rest := by
    simp
  have shown : shownPart (' ' :: ' ' :: (name ++ ' ' :: '@' :: rest)) =
      ' ' :: ' ' :: (name ++ ' ' :: '@' :: shownPart rest) := by
    rw [split, shownPart_append front]
    simp
  have trims : trimEnd isBlank (name ++ ' ' :: '@' :: shownPart rest) =
      name ++ ' ' :: '@' :: trimEnd isBlank (shownPart rest) := by
    have kept : trimEnd isBlank ('@' :: shownPart rest) = '@' :: trimEnd isBlank (shownPart rest) :=
      trimEnd_cons rfl _
    have remains : trimEnd isBlank ('@' :: shownPart rest) ≠ [] := by simp [kept]
    have whole := trimEnd_append remains (name ++ [' '])
    rw [kept] at whole
    simpa using whole
  have restOneLine : ∀ c ∈ ' ' :: '@' :: shownPart rest, isLineBoundary c = false := by
    intro c member
    simp only [List.mem_cons] at member
    rcases member with rfl | rfl | inRest
    · rfl
    · rfl
    · exact oneLine_shownPart rest c inRest
  have first : valuesIn (' ' :: ' ' :: (name ++ ' ' :: '@' :: shownPart rest)) =
      [String.ofList name] := by
    rw [valuesIn, declarations_line isName restOneLine trims, List.map_singleton,
      firstWord_of_isName isName (stops_cons_iff.mpr rfl)]
  rw [valuesIn_eq_append, shown, first, split, List.dropWhile_append_of_pos passed,
    List.singleton_append]

/-- A text declares no values exactly if each of its lines is blank or passed
over. -/
theorem valuesIn_eq_nil_iff {text : List Char} :
    valuesIn text = [] ↔ ∀ line ∈ pieces isLineBoundary text,
      strip line = [] ∨ isAside (strip line) = true := by
  rw [valuesIn, List.map_eq_nil_iff, declarations, strippedLines, strippedPieces,
    List.filter_eq_nil_iff]
  constructor
  · intro none line inPieces
    by_cases blank : strip line = []
    · exact .inl blank
    · have filled : (!(strip line).isEmpty) = true := by simpa using blank
      have passed := none _ (List.mem_filter.mpr ⟨List.mem_map_of_mem inPieces, filled⟩)
      exact .inr (by simpa using passed)
  · intro passed stripped kept
    obtain ⟨inStripped, filled⟩ := List.mem_filter.mp kept
    obtain ⟨line, inPieces, rfl⟩ := List.mem_map.mp inStripped
    rcases passed line inPieces with blank | aside
    · simp [blank] at filled
    · simp [aside]

/-- The literal of a value, with the parenthesis that closes its attribute. -/
def closedLiteral (value : String) : List Char :=
  Json.quoteChars value.toList ++ [')']

/-- What stands behind the first line boundary in the literal of a value. -/
def hiddenLiteral (value : String) : List Char :=
  ((closedLiteral value).dropWhile (!isLineBoundary ·)).drop 1

/-- The values that are declared behind the first line boundary in the literal
of a value. -/
def strayValues (value : String) : List String :=
  valuesIn (hiddenLiteral value)

/-- A value whose literal declares nothing: the lines behind the first line
boundary in it are blank or passed over. -/
def StaysOnLine (value : String) : Prop :=
  ∀ line ∈ pieces isLineBoundary (hiddenLiteral value),
    strip line = [] ∨ isAside (strip line) = true

instance (value : String) : Decidable (StaysOnLine value) :=
  inferInstanceAs (Decidable (∀ line ∈ pieces isLineBoundary (hiddenLiteral value),
    strip line = [] ∨ isAside (strip line) = true))

/-- Exactly the values that stay on their lines have no stray values. -/
theorem strayValues_eq_nil_iff (value : String) : strayValues value = [] ↔ StaysOnLine value :=
  valuesIn_eq_nil_iff

/-- A literal that shows no line boundary stays on its line. -/
theorem staysOnLine_of_oneLine {value : String} (oneLine : OneLine value) :
    StaysOnLine value := by
  have uncut : ∀ c ∈ closedLiteral value, isLineBoundary c = false := by
    intro c member
    rcases List.mem_append.mp member with inLiteral | closing
    · exact quoteChars_oneLine oneLine c inLiteral
    · rw [List.mem_singleton.mp closing]
      rfl
  have rest := dropWhile_append_of_stops (shown_of_oneLine uncut) (stops_nil _)
  rw [List.append_nil] at rest
  have nothing : hiddenLiteral value = [] := by
    rw [hiddenLiteral, rest, List.drop_nil]
  intro line inPieces
  rw [nothing] at inPieces
  exact .inl (by rw [List.mem_singleton.mp inPieces]; rfl)

/-! ## Lines of values -/

/-- A value that stands on its line as it is gives back its name. -/
theorem valuesIn_bareLine {value : String} (same : value.toList = identifierChars value.toList) :
    valuesIn ("  " ++ value).toList = [readName (identifier value)] := by
  have isName := isName_identifierChars value.toList
  have bare : declarations (' ' :: ' ' ::
      (withoutFinalLineFeed (identifierChars value.toList) ++ [])) =
      [withoutFinalLineFeed (identifierChars value.toList) ++ []] := by
    apply declarations_line isName (by simp)
    rw [List.append_nil]
    exact trimEnd_of_solid
      (solid_of_notBlank fun c member => isBlank_of_isWord (isName.word c member))
  have word := firstWord_of_isName isName (stops_nil _)
  rw [List.append_nil] at bare word
  have line : declarations ("  " ++ value).toList =
      [withoutFinalLineFeed (identifierChars value.toList)] := by
    have gap : ("  " ++ value).toList = ' ' :: ' ' :: identifierChars value.toList := by
      simp [← same]
    rw [gap]
    -- A final line feed ends the line; nothing is declared behind it.
    rcases withoutFinalLineFeed_cases (identifierChars value.toList) with whole | ended
    · rw [← whole] at bare ⊢
      exact bare
    · rw [ended, withoutFinalLineFeed_append, ← List.cons_append, ← List.cons_append,
        declarations_append_cons (rfl : isLineBoundary '\n' = true), bare]
      rfl
  rw [valuesIn, line, List.map_singleton, word, readName, toList_identifier]

/-- A value that stands behind its name gives back this name, and what its
literal declares. -/
theorem valuesIn_mappedLine {value : String}
    (changed : identifierChars value.toList ≠ value.toList) :
    valuesIn ("  " ++ identifier value ++ " " ++ mapAttribute "@" value).toList =
      readName (identifier value) :: strayValues value := by
  have isName := isName_identifierChars value.toList
  have oneName : withoutFinalLineFeed (identifierChars value.toList) =
      identifierChars value.toList :=
    withoutFinalLineFeed_of_notMem (lineFeed_notMem_of_changed changed)
  rw [oneName] at isName
  have line : ("  " ++ identifier value ++ " " ++ mapAttribute "@" value).toList =
      ' ' :: ' ' :: (identifierChars value.toList ++
        ' ' :: '@' :: ("map(".toList ++ closedLiteral value)) := by
    simp [mapAttribute, closedLiteral]
  have opening : ∀ c ∈ "map(".toList, (!isLineBoundary c) = true := by decide
  rw [line, valuesIn_attribute isName, List.dropWhile_append_of_pos opening, readName,
    toList_identifier, oneName, strayValues, hiddenLiteral, closedLiteral]

/-- The line of a value gives back the name that it begins with, and what its
literal declares. -/
theorem valuesIn_valueLine (value : String) :
    valuesIn (valueLine value).toList = readName (identifier value) :: strayValues value := by
  unfold valueLine
  split
  · rename_i same
    have written := beq_iff_eq.mp same
    have noStray := (strayValues_eq_nil_iff value).mpr
      (staysOnLine_of_oneLine (oneLine_of_same written))
    rw [noStray]
    apply valuesIn_bareLine
    have spelled := congrArg String.toList written
    rwa [toList_identifier, eq_comm] at spelled
  · rename_i changed
    apply valuesIn_mappedLine
    intro same
    rw [identifier, same, String.ofList_toList] at changed
    simp at changed

/-- The values that are read of a written enum: of each value its identifier, and
what its literal declares. -/
def readValues (enumeration : Enumeration) : List String :=
  enumeration.values.flatMap fun value => readName (identifier value) :: strayValues value

theorem values_enumSource (format : String) (enumeration : Enumeration) :
    (enumSource format enumeration).block.enumeration.values = readValues enumeration := by
  rw [enumeration_values, enumSource, List.flatMap_map, readValues]
  apply List.flatMap_congr
  intro value inValues
  exact valuesIn_valueLine value

/-- The identifier of a value that does not end in a line feed is read as it
is. -/
theorem readName_identifier_of_last {value : String} (last : value.toList.getLast? ≠ some '\n') :
    readName (identifier value) = identifier value := by
  have oneLine : '\n' ∉ identifierChars value.toList := by
    by_cases same : identifierChars value.toList = value.toList
    · have isName := isName_identifierChars value.toList
      rcases withoutFinalLineFeed_cases (identifierChars value.toList) with whole | ended
      · rw [whole]
        exact isName.oneLine
      · rw [← same, ended, List.getLast?_concat] at last
        contradiction
    · exact lineFeed_notMem_of_changed same
  rw [readName, toList_identifier, withoutFinalLineFeed_of_notMem oneLine, identifier]

section Values

variable {enumeration : Enumeration}
  (last : ∀ value ∈ enumeration.values, value.toList.getLast? ≠ some '\n')
include last

/-- The identifiers of the values are read, in their order. -/
theorem identifiers_sublist_readValues :
    (enumeration.values.map identifier).Sublist (readValues enumeration) := by
  unfold readValues
  generalize enumeration.values = values at last
  induction values with
  | nil => exact List.Sublist.refl _
  | cons value later ih =>
      have here := readName_identifier_of_last (last value List.mem_cons_self)
      have behind := ih fun other member => last other (List.mem_cons_of_mem _ member)
      rw [List.map_cons, List.flatMap_cons, here, List.cons_append]
      exact (behind.trans (List.sublist_append_right _ _)).cons_cons _

/-- Nothing else is read exactly if every value stays on its line. -/
theorem readValues_eq_identifiers_iff :
    readValues enumeration = enumeration.values.map identifier ↔
      ∀ value ∈ enumeration.values, StaysOnLine value := by
  rw [readValues, List.map_eq_flatMap, flatMap_eq_flatMap_iff]
  · apply forall₂_congr
    intro value inValues
    rw [readName_identifier_of_last (last value inValues), List.cons.injEq,
      strayValues_eq_nil_iff]
    exact and_iff_right rfl
  · intro value _
    simp only [List.length_cons, List.length_nil]
    omega

end Values

end Dsl

open Dsl

/-- A written document is read again with the values of all its enums: for each
enum the identifiers of its values in their order, if no value ends in a line
feed, and nothing else exactly if every value stays on its line. -/
theorem Document.values_ofDsl_toDsl (document : Document) (header origin : String)
    (oneLine : '\n' ∉ header.toList) :
    ∃ read, Document.ofDsl (document.toDsl header origin) = .ok read ∧
      read.enums.map Enumeration.values = document.enums.map readValues ∧
      ∀ enumeration ∈ document.enums,
        (∀ value ∈ enumeration.values, value.toList.getLast? ≠ some '\n') →
          (enumeration.values.map identifier).Sublist (readValues enumeration) ∧
          (readValues enumeration = enumeration.values.map identifier ↔
            ∀ value ∈ enumeration.values, StaysOnLine value) := by
  refine ⟨_, document.ofDsl_toDsl oneLine origin, ?_, ?_⟩
  · rw [List.map_map]
    exact List.map_congr_left fun enumeration _ => values_enumSource document.format enumeration
  · exact fun enumeration _ last =>
      ⟨identifiers_sublist_readValues last, readValues_eq_identifiers_iff last⟩

/-- A document whose values are no identifiers: with blanks, quotes, a comment
mark and braces in them, with a line feed, and empty. -/
def shipmentDocument : Document where
  format := "sql"
  enums :=
    [{ name := "state", values := ["in transit", "2nd try", "\"lost\" // \x7b", "a\nb", ""] },
      { name := "carrier", values := ["road", "rail\u2028// or ship"] }]

/-- All of its values are read back, and nothing else. -/
theorem values_ofDsl_toDsl_shipmentDocument :
    '\n' ∉ defaultHeader.toList ∧
      ∃ read, Document.ofDsl (shipmentDocument.toDsl defaultHeader "") = .ok read ∧
        read.enums.map Enumeration.values =
          [["in_transit", "_2nd_try", "lost", "a_b", "_"], ["road", "rail_or_ship"]] := by
  have oneLine : '\n' ∉ defaultHeader.toList := by decide
  obtain ⟨read, succeeds, values, exact⟩ :=
    shipmentDocument.values_ofDsl_toDsl defaultHeader "" oneLine
  have stays : ∀ enumeration ∈ shipmentDocument.enums, ∀ value ∈ enumeration.values,
      value.toList.getLast? ≠ some '\n' ∧ StaysOnLine value := by
    decide +kernel
  have same : shipmentDocument.enums.map readValues =
      shipmentDocument.enums.map fun enumeration => enumeration.values.map identifier := by
    apply List.map_congr_left
    intro enumeration member
    exact ((exact enumeration member fun value inValues => (stays _ member value inValues).1).2).mpr
      fun value inValues => (stays _ member value inValues).2
  refine ⟨oneLine, read, succeeds, ?_⟩
  rw [values, same]
  decide +kernel

/-- A document with a value that a visible line boundary cuts. -/
def cutValueDocument : Document where
  format := "sql"
  enums := [{ name := "t", values := ["a\u2028b"] }]

/-- What stands behind the boundary is read as a second value. -/
theorem values_ofDsl_toDsl_cutValueDocument :
    (cutValueDocument.enums.map fun enumeration => enumeration.values.map identifier) =
        [["a_b"]] ∧
      ∃ read, Document.ofDsl (cutValueDocument.toDsl defaultHeader "") = .ok read ∧
        read.enums.map Enumeration.values = [["a_b", "b\")"]] := by
  have oneLine : '\n' ∉ defaultHeader.toList := by decide
  refine ⟨by decide +kernel, _, cutValueDocument.ofDsl_toDsl oneLine "", ?_⟩
  decide +kernel

end Crowsfoot
