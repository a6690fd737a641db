import Crowsfoot.Proofs.Parts
import Crowsfoot.Proofs.Text.CharacterClass
import Crowsfoot.Proofs.Text.Recognizers

/-!
# Lines and joined texts

Cutting a text at its separators undoes joining, piece by piece, and trimming
leaves a text alone that begins and ends with something solid.
-/

namespace Crowsfoot.Text

/-- A text that neither begins nor ends with a blank. -/
structure Solid (text : List Char) : Prop where
  first : Stops isBlank text
  last : Stops isBlank text.reverse

/-- Nothing is trimmed from a text whose ends are kept. -/
theorem trim_of_stops {drops : Char → Bool} {text : List Char} (first : Stops drops text)
    (last : Stops drops text.reverse) : trim drops text = text := by
  rw [trim, trimEnd, dropWhile_of_stops first, dropWhile_of_stops last, List.reverse_reverse]

theorem strip_of_solid {text : List Char} (solid : Solid text) : strip text = text :=
  trim_of_stops solid.first solid.last

/-- Blanks in front are removed. -/
theorem strip_append_of_blank {gap : List Char} (blank : ∀ c ∈ gap, isBlank c = true)
    (text : List Char) : strip (gap ++ text) = strip text := by
  rw [strip, trim, List.dropWhile_append_of_pos blank]
  rfl

theorem strip_cons_of_blank {c : Char} (blank : isBlank c = true) (text : List Char) :
    strip (c :: text) = strip text := by
  rw [strip, trim, List.dropWhile_cons_of_pos blank]
  rfl

/-- Blanks behind are removed. -/
theorem strip_append_blank {gap : List Char} (blank : ∀ c ∈ gap, isBlank c = true)
    (text : List Char) : strip (text ++ gap) = strip text := by
  have reversed : ∀ c ∈ gap.reverse, isBlank c = true :=
    fun c member => blank c (List.mem_reverse.mp member)
  have dropped : gap.dropWhile isBlank = [] := skipBlanks_of_blank blank
  rw [strip, strip, trim, trim, List.dropWhile_append]
  split
  · rename_i allBlank
    rw [List.isEmpty_iff.mp allBlank, dropped]
  · rw [trimEnd, trimEnd, List.reverse_append, List.dropWhile_append_of_pos reversed]

/-- A text ends as its last part does. -/
theorem stops_reverse_append {takes : Char → Bool} {back : List Char}
    (last : Stops takes back.reverse) (nonempty : back ≠ []) (front : List Char) :
    Stops takes (front ++ back).reverse := by
  rw [List.reverse_append]
  exact last.append (by simpa using nonempty) _

/-- The end of a text ends as the text does. -/
theorem stops_reverse_of_suffix {takes : Char → Bool} {text rest : List Char}
    (last : Stops takes text.reverse) (suffix : rest <:+ text) : Stops takes rest.reverse := by
  obtain ⟨front, rfl⟩ := suffix
  rw [List.reverse_append] at last
  cases reversed : rest.reverse with
  | nil => exact stops_nil _
  | cons c later =>
      rw [reversed] at last
      exact last

theorem Solid.append {front back : List Char} (first : Stops isBlank front)
    (last : Stops isBlank back.reverse) (frontNonempty : front ≠ [])
    (backNonempty : back ≠ []) : Solid (front ++ back) where
  first := first.append frontNonempty back
  last := stops_reverse_append last backNonempty front

/-- A character that is kept stays where it is when the end is trimmed. -/
theorem trimEnd_cons {drops : Char → Bool} {c : Char} (kept : drops c = false)
    (rest : List Char) : trimEnd drops (c :: rest) = c :: trimEnd drops rest := by
  rw [trimEnd, trimEnd, List.reverse_cons, List.dropWhile_append]
  split
  · rename_i all
    rw [List.isEmpty_iff.mp all]
    simp [kept]
  · simp

theorem trimEnd_append {drops : Char → Bool} {back : List Char} (kept : trimEnd drops back ≠ [])
    (front : List Char) : trimEnd drops (front ++ back) = front ++ trimEnd drops back := by
  have remains : (back.reverse.dropWhile drops).isEmpty = false := by
    simpa [trimEnd] using kept
  rw [trimEnd, List.reverse_append, List.dropWhile_append, remains]
  simp [trimEnd]

/-- What is trimmed from the end is dropped character by character. -/
theorem exists_trimEnd_append (drops : Char → Bool) (text : List Char) :
    ∃ gap, text = trimEnd drops text ++ gap ∧ ∀ c ∈ gap, drops c = true := by
  refine ⟨(text.reverse.takeWhile drops).reverse, ?_, ?_⟩
  · rw [trimEnd, ← List.reverse_append, List.takeWhile_append_dropWhile, List.reverse_reverse]
  · intro c member
    exact (List.all_eq_true.mp List.all_takeWhile) c (List.mem_reverse.mp member)

/-- No other characters are trimmed. -/
theorem mem_trimEnd_iff {c : Char} {drops : Char → Bool} (kept : drops c = false)
    {text : List Char} : c ∈ trimEnd drops text ↔ c ∈ text := by
  obtain ⟨gap, cut, dropped⟩ := exists_trimEnd_append drops text
  have absent : c ∉ gap := by
    intro member
    rw [dropped c member] at kept
    contradiction
  have members : c ∈ text ↔ c ∈ trimEnd drops text ∨ c ∈ gap := by
    rw [← List.mem_append, ← cut]
  rw [members, or_iff_left absent]

/-- What is stripped at both ends is blank. -/
theorem exists_strip_append (text : List Char) :
    ∃ front back, text = front ++ (strip text ++ back) ∧ (∀ c ∈ front, isBlank c = true) ∧
      ∀ c ∈ back, isBlank c = true := by
  obtain ⟨back, cut, blank⟩ := exists_trimEnd_append isBlank (text.dropWhile isBlank)
  refine ⟨text.takeWhile isBlank, back, ?_, List.all_eq_true.mp List.all_takeWhile, blank⟩
  rw [strip, trim, ← cut, List.takeWhile_append_dropWhile]

/-- The ends of a trimmed text are kept. -/
theorem stops_trim (drops : Char → Bool) (text : List Char) :
    Stops drops (trim drops text) ∧ Stops drops (trim drops text).reverse := by
  constructor
  · obtain ⟨gap, cut, -⟩ := exists_trimEnd_append drops (text.dropWhile drops)
    have begins := stops_dropWhile drops text
    rw [trim]
    cases kept : trimEnd drops (text.dropWhile drops) with
    | nil => exact stops_nil _
    | cons c later =>
        rw [kept] at cut
        rw [cut] at begins
        exact stops_cons_iff.mpr (stops_cons_iff.mp begins)
  · rw [trim, trimEnd, List.reverse_reverse]
    exact stops_dropWhile _ _

theorem solid_strip (text : List Char) : Solid (strip text) where
  first := (stops_trim isBlank text).1
  last := (stops_trim isBlank text).2

/-- No other characters are stripped. -/
theorem count_strip {c : Char} (solid : isBlank c = false) (text : List Char) :
    (strip text).count c = text.count c := by
  obtain ⟨front, back, cut, frontBlank, backBlank⟩ := exists_strip_append text
  have absent {gap : List Char} (blank : ∀ d ∈ gap, isBlank d = true) : gap.count c = 0 := by
    rw [List.count_eq_zero]
    intro member
    rw [blank c member] at solid
    contradiction
  have counts := congrArg (List.count c) cut
  rw [List.count_append, List.count_append, absent frontBlank, absent backBlank] at counts
  omega

/-- The end of a solid text stays where it is. -/
theorem trimEnd_of_solid {text : List Char} (solid : Solid text) :
    trimEnd isBlank text = text := by
  rw [trimEnd, dropWhile_of_stops solid.last, List.reverse_reverse]

theorem trimEnd_append_of_solid {back : List Char} (solid : Solid back) (nonempty : back ≠ [])
    (front : List Char) : trimEnd isBlank (front ++ back) = front ++ back := by
  have kept := trimEnd_of_solid solid
  have remains : trimEnd isBlank back ≠ [] := by rwa [kept]
  rw [trimEnd_append remains, kept]

theorem length_trimEnd_le (drops : Char → Bool) (text : List Char) :
    (trimEnd drops text).length ≤ text.length := by
  have dropped := (List.dropWhile_suffix drops (l := text.reverse)).length_le
  simpa [trimEnd] using dropped

theorem length_trim_le (drops : Char → Bool) (text : List Char) :
    (trim drops text).length ≤ text.length :=
  Nat.le_trans (length_trimEnd_le _ _) (length_dropWhile_le _ _)

theorem solid_of_notBlank {text : List Char} (solid : ∀ c ∈ text, isBlank c = false) :
    Solid text := by
  constructor
  · exact fun c member => solid c (List.mem_of_mem_head? member)
  · exact fun c member => solid c (List.mem_reverse.mp (List.mem_of_mem_head? member))

/-! ## Pieces -/

section Pieces

variable {isSeparator : Char → Bool}

/-- A text without separators is one piece. -/
theorem pieces_of_none {text : List Char} (absent : ∀ c ∈ text, isSeparator c = false) :
    pieces isSeparator text = [text] := by
  induction text with
  | nil => rfl
  | cons c rest ih =>
      have restAbsent : ∀ d ∈ rest, isSeparator d = false :=
        fun d member => absent d (List.mem_cons_of_mem _ member)
      rw [pieces, if_neg (by simp [absent c List.mem_cons_self]), ih restAbsent]

/-- The pieces of two texts with a separator between them. -/
theorem pieces_append_cons {separator : Char} (separates : isSeparator separator = true)
    (front back : List Char) :
    pieces isSeparator (front ++ separator :: back) =
      pieces isSeparator front ++ pieces isSeparator back := by
  induction front with
  | nil => simp [pieces, separates]
  | cons c rest ih =>
      by_cases cut : isSeparator c = true
      · simp [pieces, cut, ih]
      · rw [List.cons_append, pieces, if_neg cut, ih, pieces, if_neg cut]
        cases parts : pieces isSeparator rest with
        | nil => exact absurd parts (pieces_ne_nil _ _)
        | cons piece later => rfl

theorem strippedPieces_append_cons {separator : Char}
    (separates : isSeparator separator = true) (front back : List Char) :
    strippedPieces isSeparator (front ++ separator :: back) =
      strippedPieces isSeparator front ++ strippedPieces isSeparator back := by
  simp [strippedPieces, pieces_append_cons separates]

/-- A text without separators is one stripped piece, unless it is blank. -/
theorem strippedPieces_of_none {text : List Char} (nonempty : strip text ≠ [])
    (absent : ∀ c ∈ text, isSeparator c = false) :
    strippedPieces isSeparator text = [strip text] := by
  rw [strippedPieces, pieces_of_none absent]
  simp [nonempty]

/-- What is no separator stands in a piece. -/
theorem exists_mem_pieces {text : List Char} {c : Char} (member : c ∈ text)
    (other : isSeparator c = false) : ∃ piece ∈ pieces isSeparator text, c ∈ piece := by
  induction text with
  | nil => contradiction
  | cons d rest ih =>
      have among : c = d ∨ ∃ piece ∈ pieces isSeparator rest, c ∈ piece :=
        (List.mem_cons.mp member).imp id ih
      by_cases cut : isSeparator d = true
      · rw [pieces, if_pos cut]
        rcases among with rfl | ⟨piece, inPieces, inPiece⟩
        · rw [cut] at other
          contradiction
        · exact ⟨piece, List.mem_cons_of_mem _ inPieces, inPiece⟩
      · rw [pieces, if_neg cut]
        cases parts : pieces isSeparator rest with
        | nil => exact absurd parts (pieces_ne_nil _ _)
        | cons first later =>
            rw [parts] at among
            rcases among with rfl | ⟨piece, inPieces, inPiece⟩
            · exact ⟨_, List.mem_cons_self, List.mem_cons_self⟩
            · rcases List.mem_cons.mp inPieces with rfl | inLater
              · exact ⟨_, List.mem_cons_self, List.mem_cons_of_mem _ inPiece⟩
              · exact ⟨piece, List.mem_cons_of_mem _ inLater, inPiece⟩

/-- Text in which something solid stands besides separators has a piece. -/
theorem strippedPieces_ne_nil {text : List Char} {c : Char} (member : c ∈ text)
    (solid : isBlank c = false) (other : isSeparator c = false) :
    strippedPieces isSeparator text ≠ [] := by
  obtain ⟨piece, inPieces, inPiece⟩ := exists_mem_pieces member other
  have kept : c ∈ strip piece := by
    rw [← List.count_pos_iff, count_strip solid]
    exact List.count_pos_iff.mpr inPiece
  have nonempty : (!(strip piece).isEmpty) = true := by
    rw [List.isEmpty_eq_false_iff.mpr (List.ne_nil_of_mem kept)]
    rfl
  exact List.ne_nil_of_mem (List.mem_filter.mpr ⟨List.mem_map_of_mem inPieces, nonempty⟩)

end Pieces

/-- The first character of a class in a text. -/
theorem exists_first {inClass : Char → Bool} {text : List Char} {c : Char} (member : c ∈ text)
    (inside : inClass c = true) :
    ∃ front first back, text = front ++ first :: back ∧ inClass first = true ∧
      ∀ d ∈ front, inClass d = false := by
  induction text with
  | nil => contradiction
  | cons d rest ih =>
      cases here : inClass d with
      | true => exact ⟨[], d, rest, rfl, here, by simp⟩
      | false =>
          rcases List.mem_cons.mp member with rfl | later
          · rw [inside] at here
            contradiction
          · obtain ⟨front, first, back, rfl, found, absent⟩ := ih later
            refine ⟨d :: front, first, back, rfl, found, ?_⟩
            intro e inFront
            rcases List.mem_cons.mp inFront with rfl | inLater
            · exact here
            · exact absent e inLater

/-- A joined text has its separator before every part but the first. -/
theorem toList_joined_cons (separator first : String) (later : List String) :
    (joined separator (first :: later)).toList =
      first.toList ++ later.flatMap fun text => separator.toList ++ text.toList := by
  induction later generalizing first with
  | nil => simp [joined]
  | cons next more ih => simp [joined, ih]

/-- A joined text has its separator behind every part before a certain one,
and before every part behind it. -/
theorem toList_joined_append_cons (separator : String) (before : List String) (text : String)
    (after : List String) :
    (joined separator (before ++ text :: after)).toList =
      (before.flatMap fun part => part.toList ++ separator.toList) ++ text.toList ++
        after.flatMap fun part => separator.toList ++ part.toList := by
  induction before with
  | nil => rw [List.nil_append, toList_joined_cons, List.flatMap_nil, List.nil_append]
  | cons first later ih =>
      have shape : joined separator (first :: later ++ text :: after) =
          first ++ separator ++ joined separator (later ++ text :: after) := by
        cases later <;> rfl
      rw [shape, String.toList_append, String.toList_append, ih]
      simp

/-- A joined text begins and ends as its parts do. -/
theorem Solid.joined {separator : String} {texts : List String}
    (each : ∀ text ∈ texts, Solid text.toList ∧ text.toList ≠ []) :
    Solid (joined separator texts).toList := by
  constructor
  · cases texts with
    | nil => exact stops_nil _
    | cons first later =>
        obtain ⟨solid, nonempty⟩ := each first List.mem_cons_self
        rw [toList_joined_cons]
        exact solid.first.append nonempty _
  · rcases List.eq_nil_or_concat texts with rfl | ⟨before, last, rfl⟩
    · exact stops_nil _
    · obtain ⟨solid, nonempty⟩ := each last (by simp)
      rw [List.concat_eq_append, toList_joined_append_cons, List.flatMap_nil, List.append_nil]
      exact stops_reverse_append solid.last nonempty _

/-- A search passes a joined text if it passes every part and the separator. -/
theorem Passes.joined {α : Type} {recognise : List Char → Option α} {separator : String}
    {texts : List String} (separates : Passes recognise separator.toList)
    (each : ∀ text ∈ texts, Passes recognise text.toList) :
    Passes recognise (joined separator texts).toList := by
  cases texts with
  | nil => exact Passes.nil
  | cons first later =>
      rw [toList_joined_cons]
      apply Passes.append (each first List.mem_cons_self)
      apply Passes.flatMap
      intro text member
      exact separates.append (each text (List.mem_cons_of_mem _ member))

/-- A joined text that is cut at a character, which does not stand in the separator, is cut
in one of its parts. -/
theorem exists_of_joined_eq {separator : String} {c : Char} (absent : c ∉ separator.toList)
    {texts : List String} {front back : List Char}
    (cut : (joined separator texts).toList = front ++ c :: back) :
    ∃ before text after begun rest, texts = before ++ text :: after ∧
      text.toList = begun ++ c :: rest ∧
      front = (before.flatMap fun text => text.toList ++ separator.toList) ++ begun ∧
      back = rest ++ after.flatMap fun text => separator.toList ++ text.toList := by
  induction texts generalizing front with
  | nil => simp [joined] at cut
  | cons first later ih =>
      cases later with
      | nil => exact ⟨[], first, [], front, back, rfl, cut, rfl, by simp⟩
      | cons next more =>
          have spelled : (joined separator (first :: next :: more)).toList =
              first.toList ++ (separator.toList ++ (joined separator (next :: more)).toList) := by
            simp [joined]
          rw [spelled] at cut
          rcases append_eq_append_cons cut with ⟨rest, here, rfl⟩ | ⟨behindFirst, rfl, behind⟩
          · refine ⟨[], first, next :: more, front, rest, rfl, here, rfl, ?_⟩
            rw [toList_joined_cons, List.flatMap_cons, List.append_assoc]
          · rcases append_eq_append_cons behind with
              ⟨rest, inSeparator, -⟩ | ⟨inside, rfl, cutLater⟩
            · rw [inSeparator] at absent
              simp at absent
            · obtain ⟨before, text, after, begun, rest, parts, inText, rfl, rfl⟩ := ih cutLater
              refine ⟨first :: before, text, after, begun, rest, ?_, inText, ?_, rfl⟩
              · rw [parts, List.cons_append]
              · simp

/-- What is kept of a joined text is kept of its parts, if nothing of the separator is. -/
theorem filter_joined {keeps : Char → Bool} {separator : String}
    (absent : separator.toList.filter keeps = []) (texts : List String) :
    (joined separator texts).toList.filter keeps =
      texts.flatMap fun text => text.toList.filter keeps := by
  cases texts with
  | nil => rfl
  | cons first later =>
      rw [toList_joined_cons, List.filter_append, List.filter_flatMap, List.flatMap_cons]
      simp [absent]

/-- Every character of a joined text comes from its separator or a part. -/
theorem mem_of_mem_joined {separator : String} {texts : List String} {c : Char}
    (member : c ∈ (joined separator texts).toList) :
    c ∈ separator.toList ∨ ∃ text ∈ texts, c ∈ text.toList := by
  cases texts with
  | nil => simp [joined] at member
  | cons first later =>
      rw [toList_joined_cons] at member
      rcases List.mem_append.mp member with inFirst | inLater
      · exact .inr ⟨first, List.mem_cons_self, inFirst⟩
      · obtain ⟨text, textMember, inText⟩ := List.mem_flatMap.mp inLater
        rcases List.mem_append.mp inText with inSeparator | inside
        · exact .inl inSeparator
        · exact .inr ⟨text, List.mem_cons_of_mem _ textMember, inside⟩

end Crowsfoot.Text
