import Crowsfoot.Proofs.Sql.Comments

/-!
# Scripts are read back whole

A script is read as the tables that it declares exactly if it stays whole when
comments are removed and the searches in its columns find their clauses only.
-/

namespace Crowsfoot

open Crowsfoot.Text
open Crowsfoot.Sql

namespace Sql

theorem toList_script_cons (first : TableStatement) (later : List TableStatement) :
    (script (first :: later)).toList = first.text.toList ++
      later.flatMap fun statement => '\n' :: statement.text.toList := by
  rw [script, List.map_cons, toList_joined_cons, List.flatMap_map]
  rfl

/-- Every statement of a script is read as one table. -/
theorem tables_script (statements : List TableStatement) :
    tables (script statements).toList =
      .ok (statements.map fun statement =>
        tableOf statement.name.name.toList statement.body) := by
  rw [← tables_statements]
  cases statements with
  | nil => rfl
  | cons first later =>
      rw [toList_script_cons]
      exact (tables_congr
        (find?_cons_of_none (tableStatement?_of_stops (stops_cons_iff.mpr rfl)))).symm

/-- The tables of a script are read as they are declared exactly if each of
its columns is. -/
theorem tables_script_eq_iff (statements : List TableStatement) :
    tables (script statements).toList = .ok (statements.map TableStatement.table) ↔
      ∀ statement ∈ statements, ∀ column ∈ statement.columns, column.Faithful := by
  rw [tables_script, Except.ok.injEq, List.map_inj_left]
  exact forall₂_congr fun statement _ => statement.tableOf_eq_iff

/-- A script that loses a comment is not read as the tables that it declares:
their clauses stood in the comment. -/
theorem stripComments_of_tables {statements : List TableStatement}
    (read : tables (stripComments (script statements).toList) =
      .ok (statements.map TableStatement.table)) :
    stripComments (script statements).toList = (script statements).toList := by
  rcases stripComments_cases (script statements).toList with same | ⟨sign, member, fewer⟩
  · exact same
  · have kept := (clausesText_tables_sublist read).count_le sign
    rw [← count_script member] at kept
    omega

/-- What a literal of a column may be mistaken for. -/
def lookAlikes : List (List Char → Bool) :=
  [contains "--".toList, contains "/*".toList, mentionsForeignKey, isPrimaryKey, isNotNull,
    hasWholeKeyword "unique" false, occurs (spacedKeywords? ["references"])]

/-- Neither the name of a column, nor its literals, nor the names it refers to
look like anything else. -/
structure ColumnDefinition.Inert (column : ColumnDefinition) : Prop where
  named : ∀ word ∈ constraintWords, spells word column.name.name.toList = false
  literal : ∀ shown ∈ lookAlikes, column.shows shown = false
  referenced : ∀ name ∈ referencedNames column.clauses,
    spells "unique" name.name.toList = false ∧ endsIn "default" name.name.toList = false

theorem strayDefault_eq_false {clauses : List Clause}
    (absent : ∀ name ∈ referencedNames clauses, endsIn "default" name.name.toList = false) :
    strayDefault clauses = false := by
  fun_induction strayDefault clauses with
  | case1 => rfl
  | case2 => rfl
  | case3 table next later ih =>
      have named : table ∈ referencedNames (.references table [] :: next :: later) :=
        List.mem_cons_self
      rw [absent table named, Bool.false_or]
      exact ih fun name member => absent name (List.mem_cons_of_mem _ member)
  | case4 clause later _ _ ih =>
      exact ih fun name member => absent name (List.mem_append_right _ member)

theorem ColumnDefinition.Inert.faithful {column : ColumnDefinition} (inert : column.Inert) :
    column.Faithful where
  named := inert.named
  foreignKey := inert.literal _ (by simp [lookAlikes])
  primaryKey := .inr (inert.literal _ (by simp [lookAlikes]))
  notNull := .inr (.inr (inert.literal _ (by simp [lookAlikes])))
  unique := .inr ⟨inert.literal _ (by simp [lookAlikes]),
    fun name member => (inert.referenced name member).1⟩
  default := strayDefault_eq_false fun name member => (inert.referenced name member).2
  reference := fun _ =>
    column.find?_reference?_constraints (inert.literal _ (by simp [lookAlikes]))

theorem stripComments_of_inert {statements : List TableStatement}
    (inert : ∀ statement ∈ statements, ∀ column ∈ statement.columns, column.Inert) :
    stripComments (script statements).toList = (script statements).toList := by
  apply stripComments_script
  intro statement inScript column inColumns mark member
  apply (inert statement inScript column inColumns).literal
  simp only [commentMarks, List.mem_cons, List.not_mem_nil, or_false] at member
  rcases member with rfl | rfl <;> simp [lookAlikes]

/-! ## Documents -/

/-- Whether a script is read as the tables that it declares. -/
def ReadsBack (statements : List TableStatement) : Prop :=
  ∃ document, Document.ofSql (script statements) = .ok document ∧
    document.format = SourceFormat.sql.name ∧
    document.tables = statements.map TableStatement.table

theorem readsBack_iff_tables (statements : List TableStatement) :
    ReadsBack statements ↔
      tables (stripComments (script statements).toList) =
        .ok (statements.map TableStatement.table) := by
  rw [ReadsBack, Document.ofSql]
  cases tables (stripComments (script statements).toList) <;> simp

theorem readsBack_iff_faithful (statements : List TableStatement) :
    ReadsBack statements ↔
      stripComments (script statements).toList = (script statements).toList ∧
        ∀ statement ∈ statements, ∀ column ∈ statement.columns, column.Faithful := by
  rw [readsBack_iff_tables]
  constructor
  · intro read
    have whole := stripComments_of_tables read
    rw [whole] at read
    exact ⟨whole, (tables_script_eq_iff statements).mp read⟩
  · rintro ⟨whole, faithful⟩
    rw [whole]
    exact (tables_script_eq_iff statements).mpr faithful

/-- A script is read as the tables that it declares, in order, with their
columns and foreign keys, exactly if it stays whole when comments are removed
and the searches in its columns find their clauses only.  So it is if nothing
in its columns looks like anything else. -/
theorem readsBack_script (statements : List TableStatement) :
    (ReadsBack statements ↔
      stripComments (script statements).toList = (script statements).toList ∧
        ∀ statement ∈ statements, ∀ column ∈ statement.columns, column.Faithful) ∧
    ((∀ statement ∈ statements, ∀ column ∈ statement.columns, column.Inert) →
      ReadsBack statements) := by
  refine ⟨readsBack_iff_faithful statements, fun inert => ?_⟩
  refine (readsBack_iff_faithful statements).mpr ⟨stripComments_of_inert inert, ?_⟩
  exact fun statement inScript column inColumns =>
    (inert statement inScript column inColumns).faithful

/-- Orders and their items, with every kind of definition and clause. -/
def orderStatements : List TableStatement :=
  [{ name := ⟨"orders", by decide⟩
     declarations :=
      [.column
        { name := ⟨"key", by decide⟩
          type := ⟨"Bigint", [], by decide⟩
          clauses := [.primaryKey] },
       .column
        { name := ⟨"state", by decide⟩
          type := ⟨"VARCHAR", [255], by decide⟩
          clauses := [.default (.literal "new, (or -) null" (by decide)), .notNull] },
       .unique [⟨"key", by decide⟩, ⟨"state", by decide⟩]] },
   { name := ⟨"items", by decide⟩
     declarations :=
      [.column
        { name := ⟨"index", by decide⟩
          type := ⟨"int", [], by decide⟩
          clauses := [.default (.integer (-1)), .unique] },
       .column
        { name := ⟨"order_key", by decide⟩
          type := ⟨"bigint", [], by decide⟩
          clauses := [.references ⟨"orders", by decide⟩ [⟨"key", by decide⟩], .notNull] },
       .column
        { name := ⟨"price", by decide⟩
          type := ⟨"decimal", [10, 2], by decide⟩
          clauses := [.references ⟨"prices", by decide⟩ []] },
       .primaryKey [⟨"index", by decide⟩, ⟨"order_key", by decide⟩],
       .foreignKey (some ⟨"stock", by decide⟩) [⟨"index", by decide⟩, ⟨"price", by decide⟩]
        ⟨"stocks", by decide⟩ [⟨"shelf", by decide⟩, ⟨"price", by decide⟩]] }]

theorem readsBack_orderStatements :
    (∀ statement ∈ orderStatements, ∀ column ∈ statement.columns, column.Inert) ∧
    ReadsBack orderStatements := by
  have inert : ∀ statement ∈ orderStatements, ∀ column ∈ statement.columns, column.Inert := by
    intro statement inScript column inColumns
    have named : ∀ statement ∈ orderStatements, ∀ column ∈ statement.columns,
        ∀ word ∈ constraintWords, spells word column.name.name.toList = false := by
      decide +kernel
    have literal : ∀ statement ∈ orderStatements, ∀ column ∈ statement.columns,
        ∀ shown ∈ lookAlikes, column.shows shown = false := by
      decide +kernel
    have referenced : ∀ statement ∈ orderStatements, ∀ column ∈ statement.columns,
        ∀ name ∈ referencedNames column.clauses,
          spells "unique" name.name.toList = false ∧
            endsIn "default" name.name.toList = false := by
      decide +kernel
    exact ⟨named statement inScript column inColumns, literal statement inScript column inColumns,
      referenced statement inScript column inColumns⟩
  exact ⟨inert, (readsBack_script orderStatements).2 inert⟩

/-- Columns that look like more than they are: by a literal that says
`not null`, a table whose name ends in `default`, and a column that is called
`unique`. -/
def lookAlikeStatement : TableStatement where
  name := ⟨"t", by decide⟩
  declarations :=
    [.column
      { name := ⟨"a", by decide⟩
        type := ⟨"TEXT", [], by decide⟩
        clauses := [.default (.literal "not null" (by decide))] },
     .column
      { name := ⟨"b", by decide⟩
        type := ⟨"INTEGER", [], by decide⟩
        clauses := [.references ⟨"my_default", by decide⟩ [], .notNull] },
     .column
      { name := ⟨"c", by decide⟩
        type := ⟨"INTEGER", [], by decide⟩
        clauses := [.references ⟨"u", by decide⟩ [⟨"unique", by decide⟩]] }]

/-- A literal that looks like a comment. -/
def hyphenStatement : TableStatement where
  name := ⟨"t", by decide⟩
  declarations :=
    [.column
      { name := ⟨"a", by decide⟩
        type := ⟨"TEXT", [], by decide⟩
        clauses := [.default (.literal "x--y" (by decide))] }]

/-- The columns of what a statement is read as. -/
def columnsRead? (statement : TableStatement) : Option (List Column) :=
  (Document.ofSql (script [statement])).toOption.map fun document =>
    document.tables.flatMap Table.columns

theorem columnsRead?_of_readsBack {statement : TableStatement} (back : ReadsBack [statement]) :
    columnsRead? statement = some statement.table.columns := by
  obtain ⟨document, succeeds, -, declared⟩ := back
  simp [columnsRead?, succeeds, Except.toOption, declared]

/-- The first column is read as not nullable, the second with the default
`NOT`, and the third as unique.  The comment takes away the end of its
statement, which is refused. -/
theorem not_readsBack_lookAlikes :
    lookAlikeStatement.table.columns.map Column.nullable = [true, false, true] ∧
    lookAlikeStatement.table.columns.map Column.defaultText =
      [some "\x27not null\x27", none, none] ∧
    lookAlikeStatement.table.columns.map Column.unique = [false, false, false] ∧
    ((columnsRead? lookAlikeStatement).any fun columns =>
      columns.map Column.nullable == [false, false, true] &&
      columns.map Column.defaultText == [some "\x27not null\x27", some "NOT", none] &&
      columns.map Column.unique == [false, false, true]) = true ∧
    ¬ReadsBack [lookAlikeStatement] ∧
    (columnsRead? hyphenStatement).isNone = true ∧
    ¬ReadsBack [hyphenStatement] := by
  have declared : lookAlikeStatement.table.columns.map Column.nullable = [true, false, true] := by
    decide +kernel
  have read : ((columnsRead? lookAlikeStatement).any fun columns =>
      columns.map Column.nullable == [false, false, true] &&
      columns.map Column.defaultText == [some "\x27not null\x27", some "NOT", none] &&
      columns.map Column.unique == [false, false, true]) = true := by
    decide +kernel
  have refused : (columnsRead? hyphenStatement).isNone = true := by
    decide +kernel
  refine ⟨declared, by decide +kernel, by decide +kernel, read, ?_, refused, ?_⟩
  · intro back
    rw [columnsRead?_of_readsBack back, Option.any_some, declared] at read
    contradiction
  · intro back
    rw [columnsRead?_of_readsBack back] at refused
    contradiction

end Sql

end Crowsfoot
