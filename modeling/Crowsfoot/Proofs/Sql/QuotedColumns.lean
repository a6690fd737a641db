import Crowsfoot.Proofs.Sql.Balance
import Crowsfoot.Proofs.Sql.Comments

/-!
# Quoted column names

Double quotes hide a column name from the scan that cuts a body at its commas,
from the words of constraints and from the type.  They do not hide it from the
scan that finds the end of the body, nor from the search for foreign keys.  So
quoted names are read back exactly if their quotes and parentheses are balanced
and none of them speaks of a foreign key.
-/

namespace Crowsfoot

open Crowsfoot.Text
open Crowsfoot.Sql

namespace Sql

/-- A name for double quotes: it is not empty, and shows no mark of a name or of a
comment. -/
structure QuotedName where
  name : String
  nonempty : name.toList ≠ []
  unmarked : ∀ c ∈ name.toList, isNameMark c = false
  uncommented : ∀ mark ∈ commentMarks, contains mark.toList name.toList = false

/-- No word of an index begins with a double quote. -/
theorem contains_indexWords_quoted (rest : List Char) :
    indexWords.contains (lower (String.ofList ('\x22' :: rest))) = false := by
  have plain : ∀ word ∈ indexWords, word.toList.head? ≠ some '\x22' := by decide
  have lowered : (lower (String.ofList ('\x22' :: rest))).toList.head? = some '\x22' := by
    rw [lower, String.toList_ofList, lowerChars, String.toList_ofList]
    rfl
  rw [Bool.eq_false_iff, ne_eq, List.contains_iff_mem]
  intro member
  exact plain _ member lowered

namespace QuotedName

variable (name : QuotedName)

/-- The definition of a column of texts. -/
def definition : String :=
  "\x22" ++ name.name ++ "\x22 TEXT"

/-- The column that is defined. -/
def column : Column where
  name := name.name
  typeToken := "TEXT"

theorem toList_definition :
    name.definition.toList = '\x22' :: (name.name.toList ++ '\x22' :: " TEXT".toList) := by
  simp [definition]

theorem unquoted : '\x22' ∉ name.name.toList := by
  intro member
  have mark := name.unmarked _ member
  contradiction

/-- The commas of a quoted name cut no body. -/
theorem isWhole_definition : IsWhole name.definition.toList := by
  have type : Carries false 0 " TEXT".toList false 0 := Carries.plain (by decide)
  have spelled : name.definition.toList =
      '\x22' :: (name.name.toList ++ ['\x22']) ++ " TEXT".toList := by
    simp [definition]
  rw [spelled]
  exact (isWhole_quoted name.unquoted).append type.isWhole

theorem solid_definition : Solid name.definition.toList ∧ name.definition.toList ≠ [] := by
  rw [toList_definition]
  refine ⟨?_, List.cons_ne_nil _ _⟩
  constructor
  · exact stops_cons_iff.mpr rfl
  · have type : Stops isBlank " TEXT".toList.reverse := stops_cons_iff.mpr rfl
    have whole : '\x22' :: (name.name.toList ++ '\x22' :: " TEXT".toList) =
        ('\x22' :: (name.name.toList ++ ['\x22'])) ++ " TEXT".toList := by
      simp
    rw [whole]
    exact stops_reverse_append type (by simp) _

theorem strip_definition : strip name.definition.toList = name.definition.toList :=
  strip_of_solid name.solid_definition.1

/-- The search for foreign keys looks into quoted names. -/
theorem mentionsForeignKey_definition :
    mentionsForeignKey name.definition.toList = mentionsForeignKey name.name.toList := by
  have parts (front back : List Char) : mentionsForeignKey (front ++ '\x22' :: back) =
      (mentionsForeignKey front || mentionsForeignKey back) :=
    occurs_keywords?_append_cons (by decide) (by decide) rfl rfl front back
  have opening := parts [] (name.name.toList ++ '\x22' :: " TEXT".toList)
  have closing := parts name.name.toList " TEXT".toList
  have type : mentionsForeignKey " TEXT".toList = false := by decide
  have empty : mentionsForeignKey [] = false := by decide
  rw [type, Bool.or_false] at closing
  rw [List.nil_append, empty, Bool.false_or, closing] at opening
  rw [toList_definition, opening]

/-- A quoted name is no word of a constraint or an index. -/
theorem isTableConstraint_definition : isTableConstraint name.definition.toList = false := by
  have noWord : Stops isWord name.definition.toList := by
    rw [toList_definition]
    exact stops_cons_iff.mpr rfl
  have unread {word : String} (keyword : IsKeyword word) :
      keyword? word name.definition.toList = none :=
    keyword?_of_stops keyword noWord
  have noConstraint : beginsConstraint name.definition.toList = false := by
    rw [beginsConstraint_eq, wholeKeyword?, keywords?, unread (by decide), unread (by decide),
      unread (by decide), unread (by decide)]
    rfl
  have noIndex : beginsIndex name.definition.toList = false := by
    have start : Stops isBlank name.definition.toList := by
      rw [toList_definition]
      exact stops_cons_iff.mpr rfl
    obtain ⟨first, rest, words⟩ : ∃ first rest,
        splitWord name.definition.toList = ('\x22' :: first, rest) := by
      rw [splitWord, dropWhile_of_stops start, toList_definition]
      exact ⟨_, _, rfl⟩
    rw [beginsIndex, words]
    simp only [contains_indexWords_quoted, Bool.and_false, Bool.false_and]
  rw [isTableConstraint, noConstraint, noIndex]
  rfl

theorem columnParts?_definition :
    columnParts? name.definition.toList = some (name.name.toList, "TEXT".toList, []) := by
  have kept : ∀ c ∈ name.name.toList, (!isNameMark c) = true := fun c member => by
    rw [name.unmarked c member]
    rfl
  have stops : Stops (!isNameMark ·) ('\x22' :: " TEXT".toList) := stops_cons_iff.mpr rfl
  have mark : isNameMark '\x22' = true := rfl
  rw [toList_definition, columnParts?, columnName?, if_pos mark,
    run?_append name.nonempty kept stops]
  rfl

theorem read_definition (silent : mentionsForeignKey name.name.toList = false) :
    Definition.read name.definition.toList = .column name.column none := by
  have whole : columnOf name.name.toList "TEXT".toList [] = name.column := by
    rw [columnOf, String.ofList_toList]
    rfl
  rw [read_of_columnParts? (name.mentionsForeignKey_definition.trans silent)
    name.isTableConstraint_definition name.columnParts?_definition, whole]
  rfl

/-- A quoted name is the name of a column unless it speaks of a foreign key. -/
theorem column?_read_definition :
    (Definition.read name.definition.toList).column? =
      if mentionsForeignKey name.name.toList then none else some name.column := by
  cases mentions : mentionsForeignKey name.name.toList with
  | true => exact column?_read_of_mentions (name.mentionsForeignKey_definition.trans mentions)
  | false =>
      rw [name.read_definition mentions]
      rfl

end QuotedName

/-! ## Names that are cut off -/

/-- A name without its end is one definition, which declares no column. -/
theorem columns_tableOf_unended (table : List Char) {front : List Char}
    (unmarked : ∀ c ∈ front, isNameMark c = false) :
    (tableOf table ('\x22' :: front)).columns = [] := by
  let inside : Nesting := ⟨false, true, 0⟩
  have still : ∀ c ∈ front, inside.separates c = false ∧ inside.next c = inside := by
    intro c member
    have other : c ≠ '\x22' := by
      rintro rfl
      exact absurd (unmarked _ member) (by decide)
    simp [inside, Nesting.separates, Nesting.next, other]
  have rest := topLevelPieces_still still []
  rw [List.append_nil] at rest
  have piece : topLevelPieces .top ('\x22' :: front) = ['\x22' :: front] := by
    have opens : topLevelPieces .top ('\x22' :: front) =
        prependTo ['\x22'] (topLevelPieces inside front) :=
      topLevelPieces_cons _ _ _
    rw [opens, rest]
    simp [prependTo, topLevelPieces]
  have stripped : strip ('\x22' :: front) = '\x22' :: trimEnd isBlank front :=
    trimEnd_cons rfl front
  obtain ⟨gap, spelled, -⟩ := exists_trimEnd_append isBlank front
  -- Nothing ends the name, so there is no column.
  have parts : columnParts? ('\x22' :: trimEnd isBlank front) = none := by
    have mark : isNameMark '\x22' = true := rfl
    have kept : ∀ c ∈ trimEnd isBlank front, (!isNameMark c) = true := by
      intro c member
      have inFront : c ∈ front := spelled ▸ List.mem_append_left gap member
      rw [unmarked c inFront]
      rfl
    generalize trimEnd isBlank front = begun at kept ⊢
    cases begun with
    | nil => rfl
    | cons c later =>
        have read := run?_append (List.cons_ne_nil c later) kept (stops_nil _)
        rw [List.append_nil] at read
        rw [columnParts?, columnName?, if_pos mark, read]
        rfl
  have none : (Definition.read ('\x22' :: trimEnd isBlank front)).column? = none := by
    rw [Definition.read, parts]
    split
    · rfl
    · split <;> rfl
  simp [tableOf, definitions, piece, stripped, none]

namespace QuotedName

/-- The definitions of some names. -/
def body (names : List QuotedName) : List Char :=
  (joined ", " (names.map definition)).toList

/-- Only a name can hold a parenthesis that cuts a definition off. -/
theorem exists_of_definition_cut (name : QuotedName) {front rest : List Char}
    (cut : name.definition.toList = front ++ ')' :: rest) :
    ∃ begun, front = '\x22' :: begun ∧ ∀ c ∈ begun, isNameMark c = false := by
  rw [toList_definition] at cut
  cases front with
  | nil => exact absurd (List.cons.inj cut).1 (by decide)
  | cons c begun =>
      obtain ⟨rfl, inside⟩ := List.cons.inj cut
      refine ⟨begun, rfl, ?_⟩
      rcases append_eq_append_cons inside with ⟨later, spelled, -⟩ | ⟨later, -, behind⟩
      · intro c member
        exact name.unmarked c (spelled ▸ List.mem_append_left _ member)
      · have absent : ')' ∉ '\x22' :: " TEXT".toList := by decide
        rw [behind] at absent
        simp at absent

/-- Whole definitions stand in front of what is read behind them. -/
theorem definitions_body_append (names : List QuotedName) (rest : List Char) :
    definitions ((names.flatMap fun name => name.definition.toList ++ ", ".toList) ++ rest) =
      names.map (·.definition.toList) ++ definitions rest := by
  have gap : ∀ c ∈ [' '], isBlank c = true := by decide
  induction names with
  | nil => rfl
  | cons first later ih =>
      have nonblank : strip first.definition.toList ≠ [] := by
        rw [strip_definition]
        exact first.solid_definition.2
      have cut := definitions_comma first.isWhole_definition nonblank
        ([' '] ++ ((later.flatMap fun name => name.definition.toList ++ ", ".toList) ++ rest))
      rw [definitions_blanks gap, ih, strip_definition] at cut
      simpa using cut

/-- A body that is cut off at a parenthesis has fewer columns. -/
theorem length_columns_lt (table : List Char) {names : List QuotedName} {front rest : List Char}
    (cut : body names = front ++ ')' :: rest) :
    (tableOf table front).columns.length < names.length := by
  obtain ⟨before, text, after, begun, unread, parts, inText, rfl, -⟩ :=
    exists_of_joined_eq (by decide) cut
  obtain ⟨whole, others, rfl, rfl, isCut⟩ := List.map_eq_append_iff.mp parts
  obtain ⟨name, later, rfl, rfl, rfl⟩ := List.map_eq_cons_iff.mp isCut
  obtain ⟨unended, rfl, unmarked⟩ := name.exists_of_definition_cut inText
  have unread := columns_tableOf_unended table unmarked
  have read := definitions_body_append whole ('\x22' :: unended)
  have columns : (tableOf table
      ((whole.map definition).flatMap (fun text => text.toList ++ ", ".toList) ++
        '\x22' :: unended)).columns =
      ((whole.map (·.definition.toList)).map Definition.read).filterMap Definition.column? := by
    rw [tableOf] at unread ⊢
    simp only at unread ⊢
    rw [List.flatMap_map, read, List.map_append, List.filterMap_append, unread, List.append_nil]
  have fewer := List.length_filterMap_le Definition.column?
    ((whole.map (·.definition.toList)).map Definition.read)
  rw [List.length_map, List.length_map] at fewer
  rw [columns, List.length_append, List.length_cons]
  omega

/-- The columns of the names that speak of no foreign key are read. -/
theorem tableOf_body (table : List Char) (names : List QuotedName) :
    tableOf table (body names) =
      { name := String.ofList table
        columns := names.filterMap fun name =>
          if mentionsForeignKey name.name.toList then none else some name.column
        foreignKeys := names.filterMap fun name =>
          (Definition.read name.definition.toList).key? } := by
  have cut : definitions (body names) = names.map fun name => name.definition.toList :=
    definitions_solid names isWhole_definition solid_definition
  simp [tableOf, cut, List.filterMap_map, Function.comp_def, column?_read_definition]

/-- The account of a body is that of its names. -/
theorem balanced_body_iff (names : List QuotedName) :
    Balanced true (body names) ↔ Balanced true (names.flatMap fun name => name.name.toList) := by
  have signs (name : QuotedName) : name.definition.toList.filter isNestingSign =
      name.name.toList.filter isNestingSign := by
    rw [toList_definition, List.filter_cons, List.filter_append, List.filter_cons]
    simp [isNestingSign]
  have same : (body names).filter isNestingSign =
      (names.flatMap fun name => name.name.toList).filter isNestingSign := by
    rw [body, filter_joined (by decide), List.filter_flatMap, List.flatMap_map]
    exact List.flatMap_congr fun name _ => signs name
  rw [← balanced_filter_iff, same, balanced_filter_iff]

end QuotedName

/-! ## Statements with quoted names -/

/-- A statement for a table whose columns have quoted names. -/
structure QuotedStatement where
  name : PlainName
  columns : List QuotedName

namespace QuotedStatement

variable (statement : QuotedStatement)

def text : String :=
  tableText statement.name (statement.columns.map QuotedName.definition)

/-- The table that is declared. -/
def table : Table where
  name := statement.name.name
  columns := statement.columns.map QuotedName.column

/-- The statement is read as one table of its name, whose columns have the quoted
names in order and are texts. -/
def ReadsBack : Prop :=
  ∃ document table, Document.ofSql statement.text = .ok document ∧ document.tables = [table] ∧
    table.name = statement.name.name ∧
    table.columns.map (fun column => (column.name, column.typeToken)) =
      statement.columns.map fun name => (name.name, "TEXT")

/-- No comment is cut out of the statement. -/
theorem stripComments_text : stripComments statement.text.toList = statement.text.toList := by
  apply stripComments_of_passes
  intro mark member
  apply passes_tableText member
  rw [List.forall_mem_map]
  intro column _
  have all : ∀ mark ∈ commentMarks, mark.toList ≠ [] ∧ '\x22' ∉ mark.toList := by decide
  obtain ⟨nonempty, noQuote⟩ := all mark member
  have opening : Passes (literal? mark.toList) ['\x22'] := passes_plain member (by decide)
  have quoted := passes_of_contains nonempty noQuote (column.uncommented mark member)
  have type : Passes (literal? mark.toList) " TEXT".toList := passes_plain member (by decide)
  have definition : column.definition.toList =
      ['\x22'] ++ ((column.name.toList ++ ['\x22']) ++ " TEXT".toList) := by
    simp [QuotedName.definition]
  rw [definition]
  exact opening.append (quoted.append type)

/-- A balanced body is read up to its end. -/
theorem tables_text_of_balanced (balanced : Balanced true (QuotedName.body statement.columns)) :
    tables statement.text.toList =
      .ok [tableOf statement.name.name.toList (QuotedName.body statement.columns)] :=
  tables_tableText _ _ (splitBody_eq_some_iff.mpr ⟨balanced, rfl⟩)

/-- Only a balanced body is read with as many columns as it has names. -/
theorem balanced_of_tables_text {table : Table} {later : List Table}
    (read : tables statement.text.toList = .ok (table :: later))
    (complete : table.columns.length = statement.columns.length) :
    Balanced true (QuotedName.body statement.columns) := by
  obtain ⟨qualified, opened, body, after, found, closed, rfl, -⟩ := of_tables_eq_cons read
  rw [text, find?_tableStatement?_tableText, Option.some.injEq, Prod.mk.injEq] at found
  obtain ⟨rfl, rfl⟩ := found
  obtain ⟨balanced, spelled⟩ := splitBody_eq_some_iff.mp closed
  rcases append_eq_append_cons spelled with ⟨rest, cut, -⟩ | ⟨rest, rfl, cut⟩
  · have fewer := QuotedName.length_columns_lt (unqualified statement.name.name.toList) cut
    omega
  · cases rest with
    | nil =>
        rw [List.append_nil] at balanced
        exact balanced
    | cons c more =>
        have behind : [';'] = more ++ ')' :: after := (List.cons.inj cut).2
        have absent : ')' ∉ [';'] := by decide
        rw [behind] at absent
        simp at absent

/-- Names that speak of no foreign key are read as all of the columns. -/
theorem tableOf_of_silent
    (silent : ∀ name ∈ statement.columns, mentionsForeignKey name.name.toList = false) :
    tableOf statement.name.name.toList (QuotedName.body statement.columns) = statement.table := by
  have columns : (statement.columns.filterMap fun name =>
      if mentionsForeignKey name.name.toList then none else some name.column) =
        statement.columns.map QuotedName.column := by
    rw [← List.filterMap_eq_map]
    exact List.filterMap_congr fun name member => by simp [silent name member]
  have keys : (statement.columns.filterMap fun name =>
      (Definition.read name.definition.toList).key?) = [] := by
    rw [List.filterMap_eq_nil_iff]
    intro name member
    rw [name.read_definition (silent name member)]
    rfl
  rw [QuotedName.tableOf_body, columns, keys, String.ofList_toList]
  rfl

theorem ofSql_of_balanced (balanced : Balanced true (QuotedName.body statement.columns))
    (silent : ∀ name ∈ statement.columns, mentionsForeignKey name.name.toList = false) :
    ∃ enums, Document.ofSql statement.text =
      .ok { format := SourceFormat.sql.name, tables := [statement.table], enums := enums } := by
  have read := statement.tables_text_of_balanced balanced
  rw [statement.tableOf_of_silent silent] at read
  exact ⟨_, (ofSql_eq_ok_iff statement.stripComments_text).mpr ⟨_, read, rfl⟩⟩

/-- Quoted names are read back exactly if their quotes and parentheses are balanced, and
none of them speaks of a foreign key. -/
theorem readsBack_iff_balanced : statement.ReadsBack ↔
    Balanced true (statement.columns.flatMap fun name => name.name.toList) ∧
      ∀ name ∈ statement.columns, mentionsForeignKey name.name.toList = false := by
  rw [← QuotedName.balanced_body_iff]
  constructor
  · rintro ⟨document, table, read, single, -, columns⟩
    obtain ⟨declared, found, rfl⟩ := (ofSql_eq_ok_iff statement.stripComments_text).mp read
    obtain rfl : declared = [table] := single
    have complete : table.columns.length = statement.columns.length := by
      simpa using congrArg List.length columns
    have balanced := statement.balanced_of_tables_text found complete
    refine ⟨balanced, ?_⟩
    rw [statement.tables_text_of_balanced balanced, Except.ok.injEq] at found
    obtain ⟨rfl, -⟩ := List.cons.inj found
    rw [QuotedName.tableOf_body] at complete
    have all := List.filterMap_length_eq_length.mp complete
    intro name member
    simpa using all name member
  · rintro ⟨balanced, silent⟩
    obtain ⟨enums, read⟩ := statement.ofSql_of_balanced balanced silent
    exact ⟨_, statement.table, read, rfl, rfl, by simp [table, QuotedName.column]⟩

end QuotedStatement

/-- Quoted names are read back exactly if their quotes and parentheses are balanced, and
none of them speaks of a foreign key.  The table is then read as it is declared.  Names
that are balanced each for itself are balanced together. -/
theorem readsBack_quotedColumns (statement : QuotedStatement) :
    (statement.ReadsBack ↔
      Balanced true (statement.columns.flatMap fun name => name.name.toList) ∧
        ∀ name ∈ statement.columns, mentionsForeignKey name.name.toList = false) ∧
    (statement.ReadsBack → ∃ enums, Document.ofSql statement.text =
      .ok { format := SourceFormat.sql.name, tables := [statement.table], enums := enums }) ∧
    ((∀ name ∈ statement.columns, Balanced true name.name.toList) →
      (statement.ReadsBack ↔
        ∀ name ∈ statement.columns, mentionsForeignKey name.name.toList = false)) := by
  have balancedIff := statement.readsBack_iff_balanced
  refine ⟨balancedIff, ?_, ?_⟩
  · intro back
    obtain ⟨balanced, silent⟩ := balancedIff.mp back
    rw [← QuotedName.balanced_body_iff] at balanced
    exact statement.ofSql_of_balanced balanced silent
  · intro each
    rw [balancedIff, and_iff_right (Balanced.flatMap each)]

/-- A statement with a single column. -/
def QuotedStatement.single (name : PlainName) (column : QuotedName) : QuotedStatement where
  name := name
  columns := [column]

/-- A table of opening hours, with signs of all kinds in the names of its columns. -/
def hoursStatement : QuotedStatement where
  name := ⟨"hours", by decide⟩
  columns := [⟨"shop, branch (both)", by decide, by decide, by decide⟩,
    ⟨"from (o'clock", by decide, by decide, by decide⟩,
    ⟨"to o'clock)", by decide, by decide, by decide⟩,
    ⟨"key", by decide, by decide, by decide⟩]

/-- A name with two apostrophes. -/
def apostrophes : QuotedName :=
  ⟨"it's ( o'clock", by decide, by decide, by decide⟩

/-- Signs that are paired do no harm, in one name or across names. -/
theorem readsBack_pairedSigns :
    hoursStatement.ReadsBack ∧ (QuotedStatement.single ⟨"t", by decide⟩ apostrophes).ReadsBack ∧
      ∃ enums, Document.ofSql hoursStatement.text =
        .ok { format := "sql", tables := [hoursStatement.table], enums := enums } := by
  obtain ⟨balancedIff, reads, -⟩ := readsBack_quotedColumns hoursStatement
  obtain ⟨-, -, silentIff⟩ := readsBack_quotedColumns (.single ⟨"t", by decide⟩ apostrophes)
  have back : hoursStatement.ReadsBack := balancedIff.mpr ⟨by decide, by decide +kernel⟩
  have single := (silentIff (by decide)).mpr (by decide +kernel)
  exact ⟨back, single, reads back⟩

/-- An apostrophe, a parenthesis and the words of a foreign key are read as such in a
quoted name. -/
theorem not_readsBack_signs :
    ¬(QuotedStatement.single ⟨"t", by decide⟩ ⟨"it's", by decide, by decide, by decide⟩).ReadsBack ∧
      ¬(QuotedStatement.single ⟨"t", by decide⟩ ⟨"a)", by decide, by decide, by decide⟩).ReadsBack ∧
      ¬(QuotedStatement.single ⟨"t", by decide⟩
        ⟨"foreign key", by decide, by decide, by decide⟩).ReadsBack := by
  simp only [QuotedStatement.readsBack_iff_balanced]
  refine ⟨?_, ?_, ?_⟩
  all_goals decide +kernel

end Sql

end Crowsfoot
