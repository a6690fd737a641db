import Crowsfoot.Proofs.Parts
import Crowsfoot.Proofs.Sql.Definitions

/-!
# Scripts are read back

A script is read as one table for each statement, in order.  The tables are the
declared ones exactly if the searches in the text of each column find the
clauses of the column only.
-/

namespace Crowsfoot.Sql

open Crowsfoot.Text

/-- What a definition is read as if it is read as it is declared. -/
def Declaration.meaning : Declaration → Definition
  | column definition => .column definition.declared definition.key?
  | foreignKey _ columns table refColumns =>
      .key (keyTo (columns.map PlainName.name) table refColumns)
  | _ => .nothing

namespace Declaration

variable (declaration : Declaration)

theorem column?_meaning :
    declaration.meaning.column? = declaration.column?.map ColumnDefinition.declared := by
  cases declaration <;> rfl

theorem key?_meaning : declaration.meaning.key? = declaration.key? := by
  cases declaration <;> rfl

/-- Only columns can be read as something else. -/
theorem read_eq_meaning_iff :
    Definition.read declaration.text.toList = declaration.meaning ↔
      ∀ column ∈ declaration.column?, column.Faithful := by
  cases declaration with
  | column definition =>
      exact (read_column_iff definition).trans (by simp [column?])
  | foreignKey name? columns table refColumns =>
      simp [read_foreignKey, meaning, column?]
  | primaryKey columns => simp [read_primaryKey, meaning, column?]
  | unique columns => simp [read_unique, meaning, column?]

/-- No definition but a column is read as a column. -/
theorem isSome_column?_read
    (read : (Definition.read declaration.text.toList).column?.isSome = true) :
    declaration.meaning.column?.isSome = true := by
  cases declaration with
  | column definition => rfl
  | foreignKey name? columns table refColumns => simp [read_foreignKey, Definition.column?] at read
  | primaryKey columns => simp [read_primaryKey, Definition.column?] at read
  | unique columns => simp [read_unique, Definition.column?] at read

/-- A definition that is read as the declared column, if it declares one, is
read with a foreign key if it declares one. -/
theorem isSome_key?_read
    (same : (Definition.read declaration.text.toList).column? = declaration.meaning.column?)
    (declared : declaration.meaning.key?.isSome = true) :
    (Definition.read declaration.text.toList).key?.isSome = true := by
  cases declaration with
  | column definition =>
      cases read : Definition.read (Declaration.column definition).text.toList with
      | column found key? =>
          obtain ⟨unmentioned, unconstrained⟩ := of_read_eq_column read
          have parts := read.symm.trans (read_column unmentioned unconstrained)
          rw [(Definition.column.inj parts).2]
          simpa [Definition.key?] using isSome_find?_reference? declared
      | _ =>
          rw [read] at same
          contradiction
  | foreignKey name? columns table refColumns => simp [read_foreignKey, Definition.key?]
  | primaryKey columns => contradiction
  | unique columns => contradiction

end Declaration

/-- Definitions that add the same to their table are the same. -/
theorem Definition.eq_of_parts {first second : Definition} (column : first.column? = second.column?)
    (key : first.key? = second.key?) : first = second := by
  cases first <;> cases second <;> simp_all [Definition.column?, Definition.key?]

/-- What definitions add to their table is what they declare exactly if each
of them is read as it is declared. -/
theorem read_parts_iff (declarations : List Declaration) :
    (declarations.filterMap (fun declaration =>
        (Definition.read declaration.text.toList).column?) =
      declarations.filterMap (fun declaration => declaration.meaning.column?) ∧
    declarations.filterMap (fun declaration =>
        (Definition.read declaration.text.toList).key?) =
      declarations.filterMap (fun declaration => declaration.meaning.key?)) ↔
    ∀ declaration ∈ declarations,
      Definition.read declaration.text.toList = declaration.meaning := by
  constructor
  · rintro ⟨columns, keys⟩
    have column := (filterMap_eq_filterMap_iff fun declaration _ =>
      declaration.isSome_column?_read).mp columns
    have key := (filterMap_eq_filterMap_iff fun declaration member =>
      declaration.isSome_key?_read (column declaration member)).mp keys.symm
    exact fun declaration member =>
      Definition.eq_of_parts (column declaration member) (key declaration member).symm
  · intro same
    constructor
    · exact List.filterMap_congr fun declaration member => by rw [same declaration member]
    · exact List.filterMap_congr fun declaration member => by rw [same declaration member]

/-- A statement for a table with some definitions. -/
def tableText (name : PlainName) (definitions : List String) : String :=
  "CREATE TABLE " ++ name.name ++ " (" ++ joined ", " definitions ++ ");"

theorem toList_tableText (name : PlainName) (definitions : List String) :
    (tableText name definitions).toList = "CREATE TABLE ".toList ++ (name.name.toList ++
      (" (".toList ++ ((joined ", " definitions).toList ++ [')', ';']))) := by
  have spelled : tableText name definitions = "CREATE TABLE " ++ name.name ++ " (" ++
      joined ", " definitions ++ ");" := rfl
  rw [spelled]
  simp only [String.toList_append, List.append_assoc]
  rfl

namespace TableStatement

variable (statement : TableStatement)

/-- The text between the parentheses of a statement. -/
def body : List Char :=
  (joined ", " (statement.declarations.map Declaration.text)).toList

theorem text_eq_tableText : statement.text =
    tableText statement.name (statement.declarations.map Declaration.text) := by
  have spelled : statement.text = "CREATE TABLE " ++ statement.name.name ++ " " ++
      ("(" ++ joined ", " (statement.declarations.map Declaration.text) ++ ")") ++ ";" := rfl
  rw [spelled, ← String.toList_inj, toList_tableText]
  simp only [String.toList_append, List.append_assoc]
  rfl

theorem toList_text : statement.text.toList = "CREATE TABLE ".toList ++
    (statement.name.name.toList ++ (" (".toList ++ (statement.body ++ ");".toList))) := by
  rw [text_eq_tableText, toList_tableText]
  rfl

theorem definitions_body : definitions statement.body =
    statement.declarations.map fun declaration => declaration.text.toList :=
  definitions_solid statement.declarations
    (fun declaration => (Carries.declaration declaration).isWhole) Declaration.solid

/-- The table of a statement is read as it is declared exactly if the searches
in its columns find their clauses only. -/
theorem tableOf_eq_iff :
    tableOf statement.name.name.toList statement.body = statement.table ↔
      ∀ column ∈ statement.columns, column.Faithful := by
  have columns : statement.columns.map ColumnDefinition.declared =
      statement.declarations.filterMap fun declaration => declaration.meaning.column? := by
    rw [TableStatement.columns, List.map_filterMap]
    exact List.filterMap_congr fun declaration _ => declaration.column?_meaning.symm
  have keys : statement.declarations.filterMap Declaration.key? =
      statement.declarations.filterMap fun declaration => declaration.meaning.key? :=
    List.filterMap_congr fun declaration _ => declaration.key?_meaning.symm
  have parts : tableOf statement.name.name.toList statement.body = statement.table ↔
      ∀ declaration ∈ statement.declarations,
        Definition.read declaration.text.toList = declaration.meaning := by
    rw [← read_parts_iff, tableOf, definitions_body, table, columns, keys, Table.mk.injEq]
    simp [List.filterMap_map, Function.comp_def]
  rw [parts]
  simp only [Declaration.read_eq_meaning_iff, TableStatement.columns, List.mem_filterMap]
  constructor
  · rintro each column ⟨declaration, member, declared⟩
    exact each declaration member column declared
  · exact fun each declaration member column declared =>
      each column ⟨declaration, member, declared⟩

end TableStatement

/-! ## Statements -/

theorem tableStatement?_of_stops {text : List Char} (stops : Stops isWord text) :
    tableStatement? text = none := by
  rw [tableStatement?, keyword?_of_stops (by decide) stops]
  rfl

/-- A table statement is read up to the parenthesis that opens its body. -/
theorem tableStatement?_opening (name : PlainName) (opened : List Char) :
    tableStatement? ("CREATE TABLE ".toList ++ (name.name.toList ++ (" (".toList ++ opened))) =
      some (name.name.toList, opened) := by
  have spelled : "CREATE TABLE ".toList ++ (name.name.toList ++ (" (".toList ++ opened)) =
      "CREATE TABLE ".toList ++ (name.name.toList ++ ' ' :: '(' :: opened) :=
    rfl
  have run := name.run
  have stops : Stops isWord (' ' :: '(' :: opened) := stops_cons_iff.mpr rfl
  have create (text : List Char) : keyword? "create" ("CREATE TABLE ".toList ++ text) =
      some (" TABLE ".toList ++ text) := rfl
  have gap (text : List Char) : blanks? (" TABLE ".toList ++ text) =
      some ("TABLE ".toList ++ text) := rfl
  have permanent (text : List Char) : skipKeywords [["temporary"], ["temp"]]
      ("TABLE ".toList ++ text) = "TABLE ".toList ++ text := rfl
  have table (text : List Char) : keyword? "table" ("TABLE ".toList ++ text) =
      some (' ' :: text) := rfl
  have blank : blanks? (' ' :: (name.name.toList ++ ' ' :: '(' :: opened)) =
      some (name.name.toList ++ ' ' :: '(' :: opened) :=
    blanks?_cons rfl (run.stops_isBlank _)
  -- The name may be the word `if`, but no further keyword follows it.
  have named : skipKeywords [["if", "not", "exists"]]
      (name.name.toList ++ ' ' :: '(' :: opened) = name.name.toList ++ ' ' :: '(' :: opened := by
    have unread : spacedKeywords? ["if", "not", "exists"]
        (name.name.toList ++ ' ' :: '(' :: opened) = none := by
      have keyword : IsKeyword "if" := by decide
      have first := spacedKeywords?_run keyword run.word stops
      rw [spacedKeywords?_singleton] at first
      rw [spacedKeywords?, keywords?]
      simp only [Option.bind_eq_bind]
      rw [← Option.bind_assoc, first]
      split <;> rfl
    rw [skipKeywords, unread]
    rfl
  have ends : namePart? (' ' :: '(' :: opened) = none := rfl
  have read := run.qualifiedName? ends
  rw [spelled, tableStatement?, create]
  simp only [Option.bind_eq_bind, Option.bind_some, gap, permanent, table, blank, named, read]
  rfl

/-- A statement is read up to its opening parenthesis. -/
theorem tableStatement?_text (statement : TableStatement) (rest : List Char) :
    tableStatement? (statement.text.toList ++ rest) =
      some (statement.name.name.toList, statement.body ++ ')' :: ';' :: rest) := by
  rw [← tableStatement?_opening statement.name (statement.body ++ ')' :: ';' :: rest),
    statement.toList_text]
  simp only [List.append_assoc]
  rfl

theorem tables_of_none {text : List Char} (absent : find? tableStatement? text = none) :
    tables text = .ok [] := by
  rw [tables]
  split
  · rfl
  · rename_i found
    rw [absent] at found
    contradiction

/-- What is read depends on the next statement and what follows it. -/
theorem tables_congr {text other : List Char}
    (same : find? tableStatement? text = find? tableStatement? other) :
    tables text = tables other := by
  rw [tables, tables, same]

/-- A closed statement is read, and reading goes on behind it. -/
theorem tables_of_some {text qualified opened body after : List Char}
    (found : find? tableStatement? text = some (qualified, opened))
    (closed : splitBody false 0 opened = some (body, after)) :
    tables text = (tables after).map (tableOf (unqualified qualified) body :: ·) := by
  rw [tables]
  split
  · rename_i absent
    rw [found] at absent
    contradiction
  · rename_i here
    rw [found] at here
    obtain ⟨rfl, rfl⟩ : _ ∧ _ := by simpa using here
    dsimp only
    split
    · rename_i unclosed
      rw [closed] at unclosed
      contradiction
    · rename_i cut
      rw [closed] at cut
      obtain ⟨rfl, rfl⟩ : _ ∧ _ := by simpa using cut
      cases tables after <;> rfl

/-- Reading ends in an error at the first statement that is not closed. -/
theorem tables_of_open {text qualified opened : List Char}
    (found : find? tableStatement? text = some (qualified, opened))
    (unclosed : splitBody false 0 opened = none) :
    tables text = .error (.openTable (String.ofList (unqualified qualified))) := by
  rw [tables]
  split
  · rename_i absent
    rw [found] at absent
    contradiction
  · rename_i here
    rw [found] at here
    obtain ⟨rfl, rfl⟩ : _ ∧ _ := by simpa using here
    dsimp only
    split
    · rfl
    · rename_i closed
      rw [unclosed] at closed
      contradiction

/-- The first table that is read comes from the first statement, which is closed. -/
theorem of_tables_eq_cons {text : List Char} {table : Table} {later : List Table}
    (read : tables text = .ok (table :: later)) :
    ∃ qualified opened body after, find? tableStatement? text = some (qualified, opened) ∧
      splitBody false 0 opened = some (body, after) ∧
      table = tableOf (unqualified qualified) body ∧ tables after = .ok later := by
  cases found : find? tableStatement? text with
  | none =>
      rw [tables_of_none found] at read
      exact absurd (Except.ok.inj read).symm (List.cons_ne_nil _ _)
  | some parts =>
      obtain ⟨qualified, opened⟩ := parts
      cases closed : splitBody false 0 opened with
      | none =>
          rw [tables_of_open found closed] at read
          contradiction
      | some cut =>
          obtain ⟨body, after⟩ := cut
          rw [tables_of_some found closed] at read
          cases behind : tables after with
          | error cause =>
              rw [behind] at read
              contradiction
          | ok declared =>
              rw [behind] at read
              obtain ⟨rfl, rfl⟩ := List.cons.inj (Except.ok.inj read)
              exact ⟨qualified, opened, body, after, rfl, closed, rfl, behind⟩

/-- Statements on lines of their own are read one by one. -/
theorem tables_statements (statements : List TableStatement) :
    tables (statements.flatMap fun statement => '\n' :: statement.text.toList) =
      .ok (statements.map fun statement =>
        tableOf statement.name.name.toList statement.body) := by
  induction statements with
  | nil => exact tables_of_none (tableStatement?_of_stops (stops_nil _))
  | cons statement later ih =>
      let behind := later.flatMap fun statement => '\n' :: statement.text.toList
      have found : find? tableStatement? ('\n' :: (statement.text.toList ++ behind)) =
          some (statement.name.name.toList, statement.body ++ ')' :: ';' :: behind) := by
        rw [find?_cons_of_none (tableStatement?_of_stops (stops_cons_iff.mpr rfl))]
        exact find?_of_some (tableStatement?_text statement behind)
      have closed : ∀ text ∈ statement.declarations.map Declaration.text,
          IsClosed text.toList := by
        rw [List.forall_mem_map]
        exact fun declaration _ => (Carries.declaration declaration).isClosed
      have separates : IsClosed ", ".toList := isClosed_of_plain (by decide)
      have rest : tables (';' :: behind) = tables behind :=
        tables_congr (find?_cons_of_none (tableStatement?_of_stops (stops_cons_iff.mpr rfl)))
      have read := tables_of_some found (splitBody_joined separates closed (';' :: behind))
      rw [rest, ih, statement.name.run.unqualified] at read
      exact read

section TableText

variable (name : PlainName) (definitions : List String)

theorem find?_tableStatement?_tableText :
    find? tableStatement? (tableText name definitions).toList =
      some (name.name.toList, (joined ", " definitions).toList ++ [')', ';']) := by
  rw [toList_tableText]
  exact find?_of_some (tableStatement?_opening name _)

/-- If the body is read up to its end, the statement is read as one table. -/
theorem tables_tableText
    (closed : splitBody false 0 ((joined ", " definitions).toList ++ [')', ';']) =
      some ((joined ", " definitions).toList, [';'])) :
    tables (tableText name definitions).toList =
      .ok [tableOf name.name.toList (joined ", " definitions).toList] := by
  have rest : tables [';'] = .ok [] := tables_of_none rfl
  rw [tables_of_some (find?_tableStatement?_tableText name definitions) closed, rest,
    name.run.unqualified]
  rfl

end TableText

end Crowsfoot.Sql
