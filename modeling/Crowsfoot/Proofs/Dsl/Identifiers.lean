import Crowsfoot.Proofs.Dsl.ValueLines

/-!
# Identifiers and the lines that they begin

A name is written under an identifier: word characters, of which the first is no
decimal digit.  The one exception is an identifier with a line feed behind it,
which is written as it stands, and then its line ends before the type.  Every
other column is read back under its identifier from the first line that is
written for it.
-/

namespace Crowsfoot.Dsl

open Crowsfoot.Text

/-- A line that begins with a name shows one column of this name.  If its type
keeps a line feed, the modifier and the attributes are cut off. -/
theorem names_shownPart_fieldChars {name type : List Char} (nameIsName : IsName name)
    (typeIsName : IsName (withoutFinalLineFeed type)) (modified : Modifier)
    {attributes : List String}
    (solid : ∀ text ∈ attributes, Solid text.toList ∧ text.toList ≠ []) :
    (columnsIn (shownPart (fieldChars name type modified attributes))).map Column.name =
      [String.ofList name] := by
  rcases withoutFinalLineFeed_cases type with same | ended
  · rw [← same] at typeIsName
    rw [columnsIn_shownPart_fieldChars nameIsName typeIsName modified solid]
    rfl
  · generalize withoutFinalLineFeed type = base at typeIsName ended
    have cut : fieldChars name type modified attributes =
        (' ' :: ' ' :: (name ++ ' ' :: (base ++ modifierChars .none))) ++
          '\n' :: (modifierChars modified ++
            if attributes.isEmpty then [] else ' ' :: (joined " " attributes).toList) := by
      simp [fieldChars, ended, modifierChars]
    have front := fieldFront_oneLine nameIsName typeIsName .none
    rw [cut, (shownPart_of_cut front rfl _).1, columnsIn_bare nameIsName typeIsName .none]
    rfl

/-- A line whose name keeps a line feed ends behind the name and shows no
column. -/
theorem columnsIn_shownPart_of_keepsLineFeed {name : List Char} (keeps : KeepsLineFeed name)
    (type : List Char) (modified : Modifier) (attributes : List String) :
    columnsIn (shownPart (fieldChars name type modified attributes)) = [] := by
  obtain ⟨base, valid, rfl⟩ := keeps
  have cut : fieldChars (base ++ ['\n']) type modified attributes =
      (' ' :: ' ' :: base) ++ '\n' :: ' ' :: (type ++ (modifierChars modified ++
        if attributes.isEmpty then [] else ' ' :: (joined " " attributes).toList)) := by
    simp [fieldChars]
  have front : ∀ c ∈ ' ' :: ' ' :: base, isLineBoundary c = false := by
    simp only [List.forall_mem_cons]
    exact ⟨rfl, rfl, fun c member => isLineBoundary_of_isWord (valid.word c member)⟩
  have solid : Solid base :=
    solid_of_notBlank fun c member => isBlank_of_isWord (valid.word c member)
  have stripped : strip (' ' :: ' ' :: base) = base := by
    rw [strip_cons_of_blank rfl, strip_cons_of_blank rfl, strip_of_solid solid]
  have nameRead : name? base = some (base, []) := by
    have read := run?_append valid.nonempty valid.word (stops_nil isWord)
    rwa [List.append_nil] at read
  have unread : column? base = none := by
    simp [column?, fieldLine?, nameRead, blanks?]
  rw [cut, (shownPart_of_cut front rfl _).1, columnsIn_of_oneLine front, stripped, unread]
  rfl

/-- The first line that is written for a column declares it under its identifier,
or nothing if its name keeps a line feed. -/
theorem names_shownPart_columnLine (document : Document) (column : Column)
    (key? : Option ForeignKey) :
    (columnsIn (shownPart (columnLine document column key?).toList)).map Column.name =
      if KeepsLineFeed column.name.toList then [] else [identifier column.name] := by
  have line : (columnLine document column key?).toList =
      fieldChars (identifierChars column.name.toList) (typeName document column).toList
        (modifierOf column) (columnAttributes document.format column key?) := by
    rw [toList_columnLine, toList_identifier]
    rfl
  rw [line]
  by_cases keeps : KeepsLineFeed column.name.toList
  · rw [if_pos keeps, identifierChars_eq_self_iff.mpr (.inr keeps), List.map_eq_nil_iff]
    exact columnsIn_shownPart_of_keepsLineFeed keeps _ _ _
  · rw [if_neg keeps]
    exact names_shownPart_fieldChars (isIdentifier_identifierChars_iff.mpr keeps).toIsName
      (isName_read_typeName document column) _
      fun text member => solid_of_mem_columnAttributes member

/-! ## Columns on one line -/

theorem uncut_identifier_iff {name : String} :
    Uncut (identifier name).toList ↔ ¬KeepsLineFeed name.toList := by
  rw [toList_identifier]
  constructor
  · intro uncut keeps
    rw [identifierChars_eq_self_iff.mpr (.inr keeps)] at uncut
    exact absurd (uncut '\n' keeps.mem) (by decide)
  · intro notKept c member
    exact isLineBoundary_of_isWord ((isIdentifier_identifierChars_iff.mpr notKept).word c member)

/-- All that is written of a column besides its name stays on one line: its type,
its default, and its foreign key. -/
structure UncutBesideName (document : Document) (column : Column) (key? : Option ForeignKey) :
    Prop where
  type : Uncut (typeName document column).toList
  default : ∀ text ∈ columnDefault? document.format column, Uncut text.toList
  key : ∀ key ∈ key?, Uncut (relationAttribute key).toList

/-- The line of a column is cut by its name exactly if the name keeps a line feed
or its literal shows a line boundary. -/
theorem uncut_columnLine_iff (document : Document) (column : Column)
    (key? : Option ForeignKey) :
    Uncut (columnLine document column key?).toList ↔
      ¬KeepsLineFeed column.name.toList ∧ OneLine column.name ∧
        UncutBesideName document column key? := by
  have modifier : Uncut (modifierChars (modifierOf column)) :=
    fun c member => (modifierChars_solid _ c member).2
  have blank : isLineBoundary ' ' = false := rfl
  have attributes : Uncut (if (columnAttributes document.format column key?).isEmpty then []
      else ' ' :: (joined " " (columnAttributes document.format column key?)).toList) ↔
        ∀ text ∈ columnAttributes document.format column key?, Uncut text.toList := by
    cases columnAttributes document.format column key? with
    | nil => exact iff_of_true (List.forall_mem_nil _) (List.forall_mem_nil _)
    | cons first later =>
        rw [← uncut_joined_iff (by decide : Uncut " ".toList)]
        exact uncut_cons_iff.trans (and_iff_right blank)
  rw [toList_columnLine, uncut_cons_iff, uncut_cons_iff, uncut_append_iff, uncut_cons_iff,
    uncut_append_iff, uncut_append_iff, attributes, uncut_columnAttributes_iff,
    uncut_identifier_iff]
  constructor
  · rintro ⟨-, -, name, -, type, -, default, key, literal⟩
    exact ⟨name, literal, type, default, key⟩
  · rintro ⟨name, literal, type, default, key⟩
    exact ⟨blank, blank, name, blank, type, modifier, default, key, literal⟩

/-- What is written for a column on one line declares this column only. -/
theorem names_columnsIn_of_uncut {document : Document} {column : Column}
    {key? : Option ForeignKey} (uncut : Uncut (columnLine document column key?).toList) :
    (columnsIn (columnLine document column key?).toList).map Column.name =
      [identifier column.name] := by
  have shown := names_shownPart_columnLine document column key?
  rwa [if_neg ((uncut_columnLine_iff document column key?).mp uncut).1,
    (shownPart_of_oneLine uncut).1] at shown

/-- The identifier of a name has the form of identifiers exactly if the name does
not keep a line feed, it is the name itself exactly for identifiers and for such
names, and it is its own identifier.  The first line that is written for a column
of this name is read back under the identifier, unless the name keeps a line feed;
and the column is written on one line exactly if neither its name, nor the literal
of its name, nor anything else of it shows a line boundary. -/
theorem isIdentifier_identifier_iff (name : String) :
    (IsIdentifier (identifier name).toList ↔ ¬KeepsLineFeed name.toList) ∧
      (identifier name = name ↔ IsIdentifier name.toList ∨ KeepsLineFeed name.toList) ∧
      identifier (identifier name) = identifier name ∧
      ∀ (document : Document) (column : Column) (key? : Option ForeignKey), column.name = name →
        (columnsIn (shownPart (columnLine document column key?).toList)).map Column.name =
            (if KeepsLineFeed name.toList then [] else [identifier name]) ∧
          (Uncut (columnLine document column key?).toList ↔
            ¬KeepsLineFeed name.toList ∧ OneLine name ∧ UncutBesideName document column key?) ∧
          (Uncut (columnLine document column key?).toList →
            (columnsIn (columnLine document column key?).toList).map Column.name =
              [identifier name]) := by
  refine ⟨?_, identifier_eq_self_iff, ?_, ?_⟩
  · rw [toList_identifier]
    exact isIdentifier_identifierChars_iff
  · rw [← String.toList_inj, toList_identifier, toList_identifier, identifierChars_identifierChars]
  · rintro document column key? rfl
    exact ⟨names_shownPart_columnLine document column key?,
      uncut_columnLine_iff document column key?, names_columnsIn_of_uncut⟩

/-- An optional column whose name is no identifier: it begins with a digit, and a
blank and line feeds stand in it. -/
def ordinalColumn : Column where
  name := "2nd\nname\n"
  typeToken := "text"
  defaultText := some "'// @id'"

/-- Its line shows the whole column. -/
theorem isIdentifier_identifier_ordinalColumn :
    Uncut (columnLine { format := "sql" } ordinalColumn none).toList ∧
      (columnsIn (columnLine { format := "sql" } ordinalColumn none).toList).map Column.name =
        ["_2nd_name"] := by
  obtain ⟨-, -, -, lines⟩ := isIdentifier_identifier_iff ordinalColumn.name
  obtain ⟨-, uncut, read⟩ := lines { format := "sql" } ordinalColumn none rfl
  have notKept : ¬KeepsLineFeed ordinalColumn.name.toList := by decide +kernel
  have oneLine : OneLine ordinalColumn.name := by decide +kernel
  have beside : UncutBesideName { format := "sql" } ordinalColumn none :=
    ⟨by decide +kernel, by decide +kernel, by simp⟩
  have whole := uncut.mpr ⟨notKept, oneLine, beside⟩
  have name : identifier ordinalColumn.name = "_2nd_name" := by decide +kernel
  exact ⟨whole, name ▸ read whole⟩

/-- A column whose name is an identifier with a line feed behind it. -/
def brokenColumn : Column where
  name := "a\n"
  typeToken := "text"

/-- A column whose name shows a line boundary as a literal. -/
def shownColumn : Column where
  name := "a\u2028b Int @"
  typeToken := "text"

/-- The identifier of the first name is none, and its column is lost; what the
literal of the second name shows is read as another column. -/
theorem not_isIdentifier_identifier_brokenColumn :
    identifier "a\n" = "a\n" ∧ ¬IsIdentifier (identifier "a\n").toList ∧
      columnsIn (columnLine { format := "json" } brokenColumn none).toList = [] ∧
      (columnsIn (columnLine { format := "json" } shownColumn none).toList).map Column.name =
        ["a_b_Int", "b"] := by
  decide +kernel

end Crowsfoot.Dsl
