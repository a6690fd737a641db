import Crowsfoot.Proofs.Assoc
import Crowsfoot.Proofs.Dsl.BlockScan
import Crowsfoot.Proofs.Dsl.DefaultForms
import Crowsfoot.Proofs.Text.Lines

/-!
# Written lines and the scan

Every line of a written block moves the scan through plain text: braces,
quotes and slashes of the source stand inside string literals only.  No
condition on the source is needed.
-/

namespace Crowsfoot.Dsl

open Crowsfoot.Text

theorem Moves.joined {separator : String} {texts : List String}
    (separates : Moves .plain separator.toList .plain)
    (each : ∀ text ∈ texts, Moves .plain text.toList .plain) :
    Moves .plain (joined separator texts).toList .plain := by
  cases texts with
  | nil => exact Moves.nil .plain
  | cons first later =>
      rw [toList_joined_cons]
      apply Moves.append (each first List.mem_cons_self)
      apply Moves.flatMap
      intro text member
      exact separates.append (each text (List.mem_cons_of_mem _ member))

/-- A character of a numeral has no meaning to the scan. -/
theorem isQuiet_of_isDecimal {c : Char} (decimal : isDecimal c = true) : isQuiet c = true := by
  simp only [isQuiet, Bool.and_eq_true, bne_iff_ne, ne_eq]
  exact ⟨⟨⟨ne_of_class decimal rfl, ne_of_class decimal rfl⟩, ne_of_class decimal rfl⟩,
    ne_of_class decimal rfl⟩

/-- A numeral has digits, one point and one sign, and nothing else. -/
theorem isDecimal_of_mem_number {text : List Char} (number : isNumber text = true) {c : Char}
    (member : c ∈ text) : isDecimal c = true ∨ c = '.' ∨ c = '-' := by
  have unsignedMember : c ∈ unsigned text ∨ c = '-' := by
    unfold unsigned
    split
    · rcases List.mem_cons.mp member with sign | later
      · exact .inr sign
      · exact .inl later
    · exact .inl member
  rcases unsignedMember with digits | sign
  · rw [← List.takeWhile_append_dropWhile (p := isDecimal) (l := unsigned text)] at digits
    rcases List.mem_append.mp digits with whole | fraction
    · exact .inl (List.all_eq_true.mp List.all_takeWhile c whole)
    · have rest_of_read : ∀ taken rest, run? isDecimal (unsigned text) = some (taken, rest) →
          (unsigned text).dropWhile isDecimal = rest := by
        intro taken rest read
        unfold run? at read
        split at read
        · simp at read
        · exact (Prod.mk.inj (Option.some.inj read)).2
      unfold isNumber at number
      split at number
      · simp at number
      · rename_i read
        rw [rest_of_read _ _ read] at fraction
        contradiction
      · rename_i read
        rw [rest_of_read _ _ read] at fraction
        rcases List.mem_cons.mp fraction with point | later
        · exact .inr (.inl point)
        · simp only [Bool.and_eq_true, List.all_eq_true] at number
          exact .inl (number.2 c later)
      · simp at number
  · exact .inr (.inr sign)

/-- A written default moves through plain text. -/
theorem DefaultForm.moves {text : String} (form : DefaultForm text) :
    Moves .plain text.toList .plain := by
  cases form with
  | word member =>
      have quietWords : ∀ word ∈ defaultWords, ∀ c ∈ word.toList, isQuiet c = true := by decide
      exact Moves.quiet (quietWords text member)
  | number number =>
      rw [String.toList_ofList]
      apply Moves.quiet
      intro c member
      rcases isDecimal_of_mem_number number member with decimal | rfl | rfl
      · exact isQuiet_of_isDecimal decimal
      · rfl
      · rfl
  | literal content => exact Moves.quote content
  | call closed =>
      rw [String.toList_append, String.toList_append]
      have opened : Moves .plain "dbgenerated(".toList .plain := Moves.quiet (by decide)
      have ended : Moves .plain ")".toList .plain := Moves.quiet (by decide)
      exact (opened.append (Moves.quote _)).append ended

theorem Moves.nameList (names : List String) :
    Moves .plain (nameList names).toList .plain := by
  apply Moves.joined (Moves.quiet (by decide))
  intro text member
  obtain ⟨name, -, rfl⟩ := List.mem_map.mp member
  exact Moves.identifier name

theorem Moves.relationAttribute (key : ForeignKey) :
    Moves .plain (Dsl.relationAttribute key).toList .plain := by
  have fields : Moves .plain "@relation(fields: [".toList .plain :=
    Moves.quiet (by decide +kernel)
  have references : Moves .plain "], references: [".toList .plain :=
    Moves.quiet (by decide +kernel)
  have ended : Moves .plain "])".toList .plain := Moves.quiet (by decide)
  unfold Dsl.relationAttribute
  simp only [String.toList_append]
  exact (((fields.append (Moves.nameList _)).append references).append
    (Moves.nameList _)).append ended

theorem Moves.mapAttribute {mark : String} (markMoves : Moves .plain mark.toList .plain)
    (name : String) : Moves .plain (Dsl.mapAttribute mark name).toList .plain := by
  have opened : Moves .plain "map(".toList .plain := Moves.quiet (by decide)
  have ended : Moves .plain ")".toList .plain := Moves.quiet (by decide)
  simp only [Dsl.mapAttribute, String.toList_append]
  exact ((markMoves.append opened).append (Moves.quote name)).append ended

/-- Every attribute of a column moves through plain text. -/
theorem Moves.columnAttribute {format : String} {column : Column} {key? : Option ForeignKey}
    {text : String} (member : text ∈ columnAttributes format column key?) :
    Moves .plain text.toList .plain := by
  simp only [columnAttributes, List.mem_append, List.mem_map, Option.mem_toList] at member
  rcases member with (((id | unique) | ⟨argument, written, rfl⟩) | ⟨key, -, rfl⟩) | map
  · split at id
    · rw [List.mem_singleton.mp id]
      exact Moves.quiet (by decide)
    · simp at id
  · split at unique
    · rw [List.mem_singleton.mp unique]
      exact Moves.quiet (by decide)
    · simp at unique
  · simp only [String.toList_append]
    have opened : Moves .plain "@default(".toList .plain := Moves.quiet (by decide)
    have ended : Moves .plain ")".toList .plain := Moves.quiet (by decide)
    exact (opened.append (defaultForm_of_columnDefault? written).moves).append ended
  · exact Moves.relationAttribute key
  · split at map
    · rw [List.mem_singleton.mp map]
      exact Moves.mapAttribute (Moves.quiet (by decide)) _
    · simp at map

/-! ## Types -/

/-- Every identifier of an enum is the block name of an enum. -/
theorem exists_of_lookup_enumNames {document : Document} {token name : String}
    (found : (enumNames document).lookup token = some name) :
    ∃ enumeration ∈ document.enums, name = blockName document.format enumeration.name := by
  obtain ⟨enumeration, inEnums, same⟩ :=
    List.mem_map.mp (Assoc.mem_of_mem_ofList (Assoc.mem_of_lookup found))
  exact ⟨enumeration, inEnums, (Prod.mk.inj same).2.symm⟩

theorem Moves.typeName (document : Document) (column : Column) :
    Moves .plain (typeName document column).toList .plain := by
  unfold Dsl.typeName
  split
  · rename_i name found
    obtain ⟨enumeration, -, rfl⟩ := exists_of_lookup_enumNames found
    exact Moves.identifier _
  · split
    · exact Moves.identifier _
    · have quietNames : ∀ kind ∈ ScalarKind.all, ∀ c ∈ kind.dslName.toList,
          isQuiet c = true := by decide
      exact Moves.quiet (quietNames _ (ScalarKind.mem_all _))

theorem Moves.columnLine (document : Document) (column : Column) (key? : Option ForeignKey) :
    Moves .plain (columnLine document column key?).toList .plain := by
  have gap : Moves .plain "  ".toList .plain := Moves.quiet (by decide)
  have blank : Moves .plain " ".toList .plain := Moves.quiet (by decide)
  have modifier : Moves .plain (modifierText column).toList .plain := by
    unfold modifierText
    split
    · exact Moves.quiet (by decide)
    · split
      · exact Moves.quiet (by decide)
      · exact Moves.nil .plain
  have attributes : Moves .plain
      (if (columnAttributes document.format column key?).isEmpty then ""
        else " " ++ Text.joined " " (columnAttributes document.format column key?)).toList
      .plain := by
    split
    · exact Moves.nil .plain
    · rw [String.toList_append]
      exact blank.append (Moves.joined blank fun text member => Moves.columnAttribute member)
  simp only [Dsl.columnLine, String.toList_append]
  exact ((((gap.append (Moves.identifier _)).append blank).append
    (Moves.typeName document column)).append modifier).append attributes

theorem Moves.relationLine (format : String) (key : ForeignKey) :
    Moves .plain (relationLine format key).toList .plain := by
  have gap : Moves .plain "  ".toList .plain := Moves.quiet (by decide)
  have blank : Moves .plain " ".toList .plain := Moves.quiet (by decide)
  simp only [Dsl.relationLine, String.toList_append]
  exact ((((gap.append (Moves.identifier _)).append blank).append
    (Moves.identifier _)).append blank).append (Moves.relationAttribute key)

theorem Moves.valueLine (value : String) : Moves .plain (valueLine value).toList .plain := by
  have gap : Moves .plain "  ".toList .plain := Moves.quiet (by decide)
  have blank : Moves .plain " ".toList .plain := Moves.quiet (by decide)
  unfold Dsl.valueLine
  split
  · rename_i same
    have written := Moves.identifier value
    rw [beq_iff_eq.mp same] at written
    rw [String.toList_append]
    exact gap.append written
  · simp only [String.toList_append]
    exact ((gap.append (Moves.identifier _)).append blank).append
      (Moves.mapAttribute (Moves.quiet (by decide)) _)

/-- Every line of a model moves the scan through plain text. -/
theorem Moves.modelLine {document : Document} {table : Table} {line : String}
    (member : line ∈ modelLines document table) : Moves .plain line.toList .plain := by
  simp only [modelLines, List.mem_append, List.mem_map] at member
  rcases member with (⟨column, -, rfl⟩ | ⟨key, -, rfl⟩) | map
  · exact Moves.columnLine _ _ _
  · exact Moves.relationLine _ _
  · unfold mapLines at map
    split at map
    · simp only [List.mem_cons, List.not_mem_nil, or_false] at map
      rcases map with rfl | rfl
      · exact Moves.nil .plain
      · rw [String.toList_append]
        exact (Moves.quiet (by decide)).append (Moves.mapAttribute (Moves.quiet (by decide)) _)
    · simp at map

/-- Every line of an enum moves the scan through plain text. -/
theorem Moves.enumLine {enumeration : Enumeration} {line : String}
    (member : line ∈ enumeration.values.map Dsl.valueLine) :
    Moves .plain line.toList .plain := by
  obtain ⟨value, -, rfl⟩ := List.mem_map.mp member
  exact Moves.valueLine value

end Crowsfoot.Dsl
