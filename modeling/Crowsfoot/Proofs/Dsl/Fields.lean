import Crowsfoot.Proofs.Dsl.Blocks

/-!
# Reading written lines

The body of a block is read line by line.  A line that begins with two names
declares one column, whatever attributes follow, as long as no line boundary
stands in them; blanks at its end are left out.
-/

namespace Crowsfoot.Dsl

open Crowsfoot.Text

theorem declarations_append_cons {boundary : Char} (cuts : isLineBoundary boundary = true)
    (front back : List Char) :
    declarations (front ++ boundary :: back) = declarations front ++ declarations back := by
  rw [declarations, strippedLines, strippedPieces_append_cons cuts, List.filter_append]
  rfl

/-- A body declares what its lines declare. -/
theorem declarations_body (source : BlockSource) :
    declarations source.body = source.lines.flatMap fun line => declarations line.toList := by
  have afterLineFeed (text : List Char) : declarations ('\n' :: text) = declarations text :=
    declarations_append_cons (rfl : isLineBoundary '\n' = true) [] text
  rw [BlockSource.body]
  induction source.lines with
  | nil => exact afterLineFeed []
  | cons line later ih =>
      obtain ⟨tail, begun⟩ : ∃ tail, (later.flatMap fun line => '\n' :: line.toList) ++ ['\n'] =
          '\n' :: tail := by
        cases later with
        | nil => exact ⟨_, rfl⟩
        | cons next more => exact ⟨_, rfl⟩
      rw [begun, afterLineFeed] at ih
      rw [List.flatMap_cons, List.append_assoc, begun, List.cons_append, afterLineFeed,
        declarations_append_cons (rfl : isLineBoundary '\n' = true), ih, List.flatMap_cons]

/-- The columns that a line of a model declares. -/
def columnsIn (line : List Char) : List Column :=
  (declarations line).filterMap column?

/-- The values that a line of an enum declares. -/
def valuesIn (line : List Char) : List String :=
  (declarations line).map fun line => String.ofList (firstWord line)

theorem table_columns (source : BlockSource) :
    source.block.table.columns = source.lines.flatMap fun line => columnsIn line.toList := by
  change (declarations source.body).filterMap column? = _
  rw [declarations_body, List.filterMap_flatMap]
  rfl

theorem table_block (source : BlockSource) :
    source.block.table =
      { name := readName source.name
        columns := source.lines.flatMap fun line => columnsIn line.toList } := by
  rw [← table_columns]
  rfl

theorem enumeration_values (source : BlockSource) :
    source.block.enumeration.values = source.lines.flatMap fun line => valuesIn line.toList := by
  change (declarations source.body).map (fun line => String.ofList (firstWord line)) = _
  rw [declarations_body, List.map_flatMap]
  rfl

theorem enumeration_block (source : BlockSource) :
    source.block.enumeration =
      { name := readName source.name
        values := source.lines.flatMap fun line => valuesIn line.toList } := by
  rw [← enumeration_values]
  rfl

/-- A line is cut at every boundary in it. -/
theorem columnsIn_append_cons {boundary : Char} (cuts : isLineBoundary boundary = true)
    (front back : List Char) :
    columnsIn (front ++ boundary :: back) = columnsIn front ++ columnsIn back := by
  rw [columnsIn, declarations_append_cons cuts, List.filterMap_append]
  rfl

/-- A line without boundaries declares at most one column. -/
theorem columnsIn_of_oneLine {line : List Char} (oneLine : ∀ c ∈ line, isLineBoundary c = false) :
    columnsIn line = (column? (strip line)).toList := by
  have noAside (stripped : List Char) (aside : isAside stripped = true) :
      column? stripped = none := by
    have begun : stripped.head? = some '/' ∨ stripped.head? = some '@' := by
      simp only [isAside, Bool.or_eq_true, Option.isSome_iff_exists, literal?_eq_some_iff] at aside
      rcases aside with ⟨rest, rfl⟩ | ⟨rest, rfl⟩
      · exact .inl rfl
      · exact .inr rfl
    rcases begun with slash | sign
    · obtain ⟨rest, rfl⟩ := List.head?_eq_some_iff.mp slash
      rfl
    · obtain ⟨rest, rfl⟩ := List.head?_eq_some_iff.mp sign
      rfl
  rw [columnsIn, declarations, strippedLines]
  by_cases empty : strip line = []
  · rw [strippedPieces, pieces_of_none oneLine, empty]
    simp [empty]
    rfl
  · rw [strippedPieces_of_none empty oneLine]
    cases aside : isAside (strip line) with
    | true => simp [aside, noAside _ aside]
    | false =>
        simp only [List.filter_cons, aside, Bool.not_false, if_true, List.filter_nil,
          List.filterMap_cons]
        cases column? (strip line) <;> rfl

/-! ## Parts of a field -/

/-- The characters of a modifier. -/
def modifierChars : Modifier → List Char
  | .none => []
  | .list => ['[', ']']
  | .optional => ['?']

/-- The column that is made of the parts of a field. -/
def readColumn (name type : List Char) (modified : Modifier) (attributes : List Char) :
    Column where
  name := String.ofList name
  typeToken := String.ofList type
  constraints := String.ofList attributes
  nullable := modified == .optional
  primaryKey := isPrimaryKey (String.ofList attributes)
  unique := isUnique (String.ofList attributes)
  isList := modified == .list
  defaultText := argument? (String.ofList attributes) "@default"

@[simp]
theorem readColumn_constraints (name type : List Char) (modified : Modifier)
    (attributes : List Char) :
    (readColumn name type modified attributes).constraints = String.ofList attributes :=
  rfl

theorem column?_of_fieldLine? {line name type attributes : List Char} {modified : Modifier}
    (parts : fieldLine? line = some (name, type, modified, attributes)) :
    column? line = some (readColumn name type modified attributes) := by
  simp [column?, parts, readColumn]

/-- A name ends before the modifier and the blank that can follow it. -/
theorem stops_modifier (modified : Modifier) {tail : List Char} (stops : Stops isWord tail) :
    Stops isWord (modifierChars modified ++ tail) := by
  cases modified with
  | none => exact stops
  | list => exact stops_cons_iff.mpr rfl
  | optional => exact stops_cons_iff.mpr rfl

theorem modifier_append_blank (modified : Modifier) (rest : List Char) :
    modifier (modifierChars modified ++ ' ' :: rest) = (modified, ' ' :: rest) := by
  cases modified <;> rfl

theorem modifier_modifierChars (modified : Modifier) :
    modifier (modifierChars modified) = (modified, []) := by
  cases modified <;> rfl

/-- Modifiers are neither blanks nor ends of lines. -/
theorem modifierChars_solid (modified : Modifier) : ∀ c ∈ modifierChars modified,
    isBlank c = false ∧ isLineBoundary c = false := by
  cases modified <;> decide

section Line

variable {name type : List Char} (nameIsName : IsName name) (typeIsName : IsName type)
  (modified : Modifier)
include nameIsName typeIsName

/-- The two names of a line are read, and the modifier behind them. -/
theorem fieldLine?_eq (tail : List Char) (stops : Stops isWord (modifierChars modified ++ tail)) :
    fieldLine? (name ++ ' ' :: (type ++ (modifierChars modified ++ tail))) =
      match modifier (modifierChars modified ++ tail) with
      | (modified, []) => some (name, type, modified, [])
      | (modified, rest) =>
          (blanks? rest).map fun attributes => (name, type, modified, attributes) := by
  have nameRead : name? (name ++ ' ' :: (type ++ (modifierChars modified ++ tail))) =
      some (name, ' ' :: (type ++ (modifierChars modified ++ tail))) :=
    run?_append nameIsName.nonempty nameIsName.word (stops_cons_iff.mpr rfl)
  have typeStops := typeIsName.stops (modifierChars modified ++ tail)
  have typeRead : name? (type ++ (modifierChars modified ++ tail)) =
      some (type, modifierChars modified ++ tail) :=
    run?_append typeIsName.nonempty typeIsName.word stops
  simp only [fieldLine?, nameRead, blanks?_cons (c := ' ') rfl typeStops, typeRead,
    Option.bind_eq_bind, Option.bind_some]
  rcases modifier (modifierChars modified ++ tail) with ⟨found, _ | ⟨c, rest⟩⟩
  · rfl
  · dsimp only
    cases blanks? (c :: rest) <;> rfl

theorem fieldLine?_bare :
    fieldLine? (name ++ ' ' :: (type ++ modifierChars modified)) =
      some (name, type, modified, []) := by
  have whole := fieldLine?_eq nameIsName typeIsName modified []
    (stops_modifier modified (stops_nil _))
  rwa [List.append_nil, modifier_modifierChars] at whole

theorem fieldLine?_attributes {attributes : List Char} (starts : Stops isBlank attributes) :
    fieldLine? (name ++ ' ' :: (type ++ (modifierChars modified ++ ' ' :: attributes))) =
      some (name, type, modified, attributes) := by
  have whole := fieldLine?_eq nameIsName typeIsName modified (' ' :: attributes)
    (stops_modifier modified (stops_cons_iff.mpr rfl))
  have attributesRead : blanks? (' ' :: attributes) = some attributes := blanks?_cons rfl starts
  rw [modifier_append_blank] at whole
  rw [whole]
  simp only [attributesRead, Option.map_some]

omit typeIsName in
/-- A line that begins with a name is no comment and no block attribute. -/
theorem isAside_of_isName (rest : List Char) : isAside (name ++ rest) = false := by
  obtain ⟨c, later, rfl⟩ := List.exists_cons_of_ne_nil nameIsName.nonempty
  have word := nameIsName.word c List.mem_cons_self
  have notSlash : c ≠ '/' := ne_of_class word rfl
  have notMark : c ≠ '@' := ne_of_class word rfl
  simp [isAside, literal?, notSlash, notMark]

omit typeIsName in
/-- A line that begins with a name, behind two blanks, is one declaration; the
blanks at its end are left out. -/
theorem declarations_line {rest : List Char} (oneLine : ∀ c ∈ rest, isLineBoundary c = false)
    {trimmed : List Char} (trims : trimEnd isBlank (name ++ rest) = name ++ trimmed) :
    declarations (' ' :: ' ' :: (name ++ rest)) = [name ++ trimmed] := by
  have starts := nameIsName.stops rest
  have stripped : strip (' ' :: ' ' :: (name ++ rest)) = name ++ trimmed := by
    have gap : strip ([' ', ' '] ++ (name ++ rest)) = strip (name ++ rest) :=
      strip_append_of_blank (by decide) _
    rw [List.cons_append, List.singleton_append] at gap
    rw [gap, strip, trim, dropWhile_of_stops starts, trims]
  have nonempty : strip (' ' :: ' ' :: (name ++ rest)) ≠ [] := by
    rw [stripped]
    exact List.append_ne_nil_of_left_ne_nil nameIsName.nonempty _
  have absent : ∀ c ∈ ' ' :: ' ' :: (name ++ rest), isLineBoundary c = false := by
    intro c member
    simp only [List.mem_cons, List.mem_append] at member
    rcases member with rfl | rfl | inName | inRest
    · rfl
    · rfl
    · exact isLineBoundary_of_isWord (nameIsName.word c inName)
    · exact oneLine c inRest
  rw [declarations, strippedLines, strippedPieces_of_none nonempty absent, stripped]
  simp [isAside_of_isName nameIsName]

/-- A line without attributes declares a column. -/
theorem columnsIn_bare :
    columnsIn (' ' :: ' ' :: (name ++ ' ' :: (type ++ modifierChars modified))) =
      [readColumn name type modified []] := by
  have typeSolid : ∀ c ∈ type ++ modifierChars modified,
      isBlank c = false ∧ isLineBoundary c = false := by
    intro c member
    rcases List.mem_append.mp member with inType | inModifier
    · have word := typeIsName.word c inType
      exact ⟨isBlank_of_isWord word, isLineBoundary_of_isWord word⟩
    · exact modifierChars_solid modified c inModifier
  have nonempty : type ++ modifierChars modified ≠ [] :=
    List.append_ne_nil_of_left_ne_nil typeIsName.nonempty _
  have trims : trimEnd isBlank (name ++ ' ' :: (type ++ modifierChars modified)) =
      name ++ ' ' :: (type ++ modifierChars modified) := by
    have solid : Solid (type ++ modifierChars modified) :=
      solid_of_notBlank fun c member => (typeSolid c member).1
    have whole := trimEnd_append_of_solid solid nonempty (name ++ [' '])
    simpa using whole
  have oneLine : ∀ c ∈ ' ' :: (type ++ modifierChars modified), isLineBoundary c = false := by
    intro c member
    rcases List.mem_cons.mp member with rfl | later
    · rfl
    · exact (typeSolid c later).2
  rw [columnsIn, declarations_line nameIsName oneLine trims, List.filterMap_cons,
    column?_of_fieldLine? (fieldLine?_bare nameIsName typeIsName modified)]
  rfl

/-- A line with attributes declares a column. -/
theorem columnsIn_attributes {attributes : List Char} (starts : Stops isBlank attributes)
    (nonempty : attributes ≠ []) (attributesOneLine : ∀ c ∈ attributes, isLineBoundary c = false) :
    columnsIn (' ' :: ' ' ::
        (name ++ ' ' :: (type ++ (modifierChars modified ++ ' ' :: attributes)))) =
      [readColumn name type modified (trimEnd isBlank attributes)] := by
  obtain ⟨first, rest, rfl⟩ := List.exists_cons_of_ne_nil nonempty
  have kept : trimEnd isBlank (first :: rest) = first :: trimEnd isBlank rest :=
    trimEnd_cons (stops_cons_iff.mp starts) rest
  have trims : trimEnd isBlank
      (name ++ ' ' :: (type ++ (modifierChars modified ++ ' ' :: first :: rest))) =
        name ++ ' ' :: (type ++ (modifierChars modified ++
          ' ' :: trimEnd isBlank (first :: rest))) := by
    have remains : trimEnd isBlank (first :: rest) ≠ [] := by simp [kept]
    have whole := trimEnd_append remains
      (name ++ ' ' :: (type ++ (modifierChars modified ++ [' '])))
    simpa using whole
  have oneLine : ∀ c ∈ ' ' :: (type ++ (modifierChars modified ++ ' ' :: first :: rest)),
      isLineBoundary c = false := by
    intro c member
    rcases List.mem_cons.mp member with rfl | later
    · rfl
    rcases List.mem_append.mp later with inType | later
    · exact isLineBoundary_of_isWord (typeIsName.word c inType)
    rcases List.mem_append.mp later with inModifier | later
    · exact (modifierChars_solid modified c inModifier).2
    rcases List.mem_cons.mp later with rfl | inAttributes
    · rfl
    · exact attributesOneLine c inAttributes
  have trimmedStarts : Stops isBlank (trimEnd isBlank (first :: rest)) := by
    rw [kept]
    exact stops_cons_iff.mpr (stops_cons_iff.mp starts)
  rw [columnsIn, declarations_line nameIsName oneLine trims, List.filterMap_cons,
    column?_of_fieldLine? (fieldLine?_attributes nameIsName typeIsName modified trimmedStarts)]
  rfl

end Line

end Crowsfoot.Dsl
