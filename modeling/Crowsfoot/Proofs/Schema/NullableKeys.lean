import Crowsfoot.Proofs.Conversion.Outcomes
import Crowsfoot.Proofs.Dsl.ShownLines
import Crowsfoot.Proofs.Schema.ForeignKeys
import Crowsfoot.Proofs.Sql.Remainders

/-!
# Nullable keys

A column of SQL that is declared as a primary key is never nullable, and is
never written as optional.  Keys are found again by other marks when the text is
read: by the name `id`, or by `id` in the name of a unique column.  A nullable
column with such a mark becomes a key that is nullable; these are found exactly,
also where a default or a name shows a mark or cuts its line.
-/

namespace Crowsfoot

open Crowsfoot.Text Crowsfoot.Dsl

/-- A column that is read as a key and as nullable. -/
def Column.IsNullableKey (column : Column) : Prop :=
  column.nullable = true ∧ isKeyColumn column = true

/-- A column that is written as optional, and whose line shows that it is a
key: by its name, or by a mark among its attributes. -/
structure BecomesNullableKey (document : Document) (column : Column) : Prop where
  name : '\n' ∉ (identifier column.name).toList
  type : '\n' ∉ (typeName document column).toList
  optional : modifierOf column = .optional
  key : (identifier column.name = "id" ∧ isDslScalar (typeName document column) = true) ∨
    (contains "id".toList (lower (identifier column.name)).toList = true ∧
      hasAttribute "@unique" (shownAttributes document.format column) = true) ∨
    hasAttribute "@id" (shownAttributes document.format column) = true

/-- The column that the line of a column shows is a nullable key exactly if the
column becomes one. -/
theorem exists_nullableKey_shown_iff {document : Document} {column : Column} :
    (∃ read ∈ columnsIn (shownPart (columnLine document column none).toList),
        read.IsNullableKey) ↔ BecomesNullableKey document column := by
  by_cases lineFeed : '\n' ∈ (identifier column.name).toList ∨
      '\n' ∈ (typeName document column).toList
  · constructor
    · rintro ⟨read, member, nullable, -⟩
      rw [nullable_of_lineFeed lineFeed member] at nullable
      exact absurd nullable Bool.false_ne_true
    · intro becomes
      exact (lineFeed.elim becomes.name becomes.type).elim
  · obtain ⟨name, type⟩ := not_or.mp lineFeed
    rw [columnsIn_shownPart_columnLine name type]
    have id := hasAttribute_trimEnd (by decide : "@id" ∈ markNames)
      (shownAttributes document.format column)
    have unique := hasAttribute_trimEnd (by decide : "@unique" ∈ markNames)
      (shownAttributes document.format column)
    simp only [List.mem_singleton, exists_eq_left, Column.IsNullableKey, readColumn, isKeyColumn,
      Dsl.isPrimaryKey, isUnique, String.toList_ofList, String.ofList_toList, id, unique,
      Bool.or_eq_true, Bool.and_eq_true, beq_iff_eq]
    constructor
    · rintro ⟨optional, (shown | named) | marked⟩
      · exact ⟨name, type, optional, .inr (.inr shown)⟩
      · exact ⟨name, type, optional, .inl named⟩
      · exact ⟨name, type, optional, .inr (.inl marked)⟩
    · rintro ⟨-, -, optional, named | marked | shown⟩
      · exact ⟨optional, .inl (.inr named)⟩
      · exact ⟨optional, .inr marked⟩
      · exact ⟨optional, .inl (.inl shown)⟩

/-- Whether a nullable key is declared behind a cut in the line of a column, or
by a line that keeps the source name of the table. -/
def HasStrayNullableKey (document : Document) (table : Table) : Prop :=
  (∃ column ∈ table.columns, ∃ stray ∈ columnsBehind (columnLine document column none).toList,
      stray.IsNullableKey) ∨
    ∃ line ∈ mapLines document table, ∃ stray ∈ columnsIn line.toList, stray.IsNullableKey

/-- The nullable keys of a table that is read back are its columns that become
such, and those that no column of the table stands for. -/
theorem exists_nullableKey_table_iff {document : Document}
    (notDsl : (document.format == SourceFormat.dsl.name) = false) (table : Table) :
    (∃ read ∈ (modelSource document table).block.table.columns, read.IsNullableKey) ↔
      (∃ column ∈ table.columns, BecomesNullableKey document column) ∨
        HasStrayNullableKey document table := by
  have noKeys : inlineKeys document table = [] := by
    rw [inlineKeys, notDsl]
    rfl
  have line (column : Column) :
      (∃ read ∈ columnsIn (columnLine document column none).toList, read.IsNullableKey) ↔
        BecomesNullableKey document column ∨
          ∃ stray ∈ columnsBehind (columnLine document column none).toList,
            stray.IsNullableKey := by
    rw [columnsIn_eq_append, ← exists_nullableKey_shown_iff]
    simp only [List.mem_append, or_and_right, exists_or]
  have keyLine (key : ForeignKey) :
      ¬∃ read ∈ columnsIn (relationLine document.format key).toList, read.IsNullableKey := by
    rintro ⟨read, member, nullable, -⟩
    rw [nullable_of_mem_relationLine member] at nullable
    exact absurd nullable Bool.false_ne_true
  rw [table_columns, modelSource, modelLines, noKeys]
  simp only [List.mem_flatMap, List.mem_append, List.mem_map, List.lookup_nil]
  constructor
  · rintro ⟨read, ⟨text, ((⟨column, inTable, rfl⟩ | ⟨key, -, rfl⟩) | inMaps), inLine⟩, isKey⟩
    · rcases (line column).mp ⟨read, inLine, isKey⟩ with becomes | stray
      · exact .inl ⟨column, inTable, becomes⟩
      · exact .inr (.inl ⟨column, inTable, stray⟩)
    · exact (keyLine key ⟨read, inLine, isKey⟩).elim
    · exact .inr (.inr ⟨text, inMaps, read, inLine, isKey⟩)
  · rintro (⟨column, inTable, becomes⟩ | (⟨column, inTable, stray⟩ | ⟨text, inMaps, read, inLine,
      isKey⟩))
    · obtain ⟨read, inLine, isKey⟩ := (line column).mpr (.inl becomes)
      exact ⟨read, ⟨_, .inl (.inl ⟨column, inTable, rfl⟩), inLine⟩, isKey⟩
    · obtain ⟨read, inLine, isKey⟩ := (line column).mpr (.inr stray)
      exact ⟨read, ⟨_, .inl (.inl ⟨column, inTable, rfl⟩), inLine⟩, isKey⟩
    · exact ⟨read, ⟨text, .inr inMaps, inLine⟩, isKey⟩

/-- A document whose tables are plain, whose enums have one-line names, and
whose defaults are inert as they are written. -/
structure InertDocument (document : Document) : Prop where
  enumNames : ∀ enumeration ∈ document.enums, '\n' ∉ enumeration.name.toList
  tables : ∀ table ∈ document.tables, PlainTable table
  defaults : ∀ table ∈ document.tables, ∀ column ∈ table.columns,
    ∀ text ∈ columnDefault? document.format column, Inert text

instance (document : Document) : Decidable (InertDocument document) :=
  decidable_of_iff
    ((∀ enumeration ∈ document.enums, '\n' ∉ enumeration.name.toList) ∧
      (∀ table ∈ document.tables, PlainTable table) ∧
      ∀ table ∈ document.tables, ∀ column ∈ table.columns,
        ∀ text ∈ columnDefault? document.format column, Inert text)
    ⟨fun ⟨enumNames, tables, defaults⟩ => ⟨enumNames, tables, defaults⟩,
      fun ⟨enumNames, tables, defaults⟩ => ⟨enumNames, tables, defaults⟩⟩

section Inert

variable {document : Document} (inert : InertDocument document) {table : Table}
  (member : table ∈ document.tables)
include inert member

/-- Inert defaults are written without boundaries of lines. -/
theorem InertDocument.oneLine_default {column : Column} (inTable : column ∈ table.columns) :
    ∀ text ∈ columnDefault? document.format column, ∀ c ∈ text.toList,
      isLineBoundary c = false :=
  fun text written => (defaultForm_of_columnDefault? (Option.mem_def.mp written)).oneLine
    (inert.defaults table member column inTable text written).oneLine

/-- Where names and defaults are plain, the lines of a table declare its columns
only. -/
theorem not_hasStrayNullableKey : ¬HasStrayNullableKey document table := by
  have plain := inert.tables table member
  rintro (⟨column, inTable, stray, behind, -⟩ | ⟨line, inMaps, stray, inLine, -⟩)
  · have plainColumn := plain.columns column inTable
    have alone := columnsIn_columnLine plainColumn.lined inert.enumNames
      (by simp : ∀ key ∈ (none : Option ForeignKey), PlainKey key)
      (inert.oneLine_default member inTable)
    have name := (isName_identifier plainColumn.name).oneLine
    have type := (isName_typeName inert.enumNames plainColumn.type).oneLine
    rw [columnsIn_eq_append, columnsIn_shownPart_columnLine name type, List.singleton_append,
      List.cons.injEq] at alone
    rw [alone.2] at behind
    exact absurd behind List.not_mem_nil
  · rw [columnsIn_mapLines plain.inert.oneLine inMaps] at inLine
    exact absurd inLine List.not_mem_nil

/-- Where names and defaults are plain, a column becomes a nullable key exactly
if it is optional, and a scalar named `id`, or unique with `id` in its name. -/
theorem becomesNullableKey_iff {column : Column} (inTable : column ∈ table.columns) :
    BecomesNullableKey document column ↔
      modifierOf column = .optional ∧
        ((identifier column.name = "id" ∧ isDslScalar (typeName document column) = true) ∨
          (contains "id".toList (lower (identifier column.name)).toList = true ∧
            column.unique = true)) := by
  have plain := (inert.tables table member).columns column inTable
  have inertDefault := inert.defaults table member column inTable
  have shown : shownAttributes document.format column =
      (joined " " (columnAttributes document.format column none)).toList :=
    (shownPart_of_oneLine (columnAttributes_oneLine plain.lined (by simp)
      (inert.oneLine_default member inTable))).1
  have mark {name : String} (isMark : name ∈ markNames) :
      hasAttribute name (shownAttributes document.format column) =
        ((name == "@id" && column.primaryKey) ||
          (name == "@unique" && (column.unique && !column.primaryKey))) := by
    obtain ⟨letters, spelled⟩ := spelled_of_mark isMark
    have default : (columnDefault? document.format column).any
        (fun text => hasAttribute name text.toList) = false := by
      cases written : columnDefault? document.format column with
      | none => rfl
      | some text => exact hasAttribute_of_notMem spelled (inertDefault text written).atSign
    rw [shown, hasAttribute_columnAttributes isMark plain.inert.atSign, default]
    simp
  have undeclared : modifierOf column = .optional → column.primaryKey = false := by
    unfold modifierOf
    cases column.isList <;> cases column.nullable <;> cases column.primaryKey <;> decide
  have id := mark (by decide : "@id" ∈ markNames)
  have unique := mark (by decide : "@unique" ∈ markNames)
  constructor
  · rintro ⟨-, -, optional, key⟩
    rw [id, unique, undeclared optional] at key
    exact ⟨optional, by simpa using key⟩
  · rintro ⟨optional, key⟩
    refine ⟨(isName_identifier plain.name).oneLine,
      (isName_typeName inert.enumNames plain.type).oneLine, optional, ?_⟩
    rw [id, unique, undeclared optional]
    simpa using key

end Inert

/-! ## Columns of SQL -/

/-- A table of SQL has the columns that its definitions declare. -/
theorem Sql.exists_columnOf {text : List Char} {read : List Table} (found : tables text = .ok read)
    {table : Table} (member : table ∈ read) {column : Column} (inTable : column ∈ table.columns) :
    ∃ name type constraints, column = columnOf name type constraints := by
  fun_induction tables text generalizing read with
  | case1 text absent =>
      obtain rfl := Except.ok.inj found
      exact absurd member List.not_mem_nil
  | case2 => contradiction
  | case3 text qualified opened statement name body after closed later behind =>
      rename_i ih
      obtain rfl := Except.ok.inj found
      rcases List.mem_cons.mp member with rfl | inLater
      · obtain ⟨definition, inBody, declared⟩ := List.mem_filterMap.mp inTable
        obtain ⟨source, -, rfl⟩ := List.mem_map.mp inBody
        obtain ⟨name, type, constraints, -, same⟩ := parts_of_read declared
        exact ⟨name, type, constraints, same⟩
      · exact ih behind inLater
  | case4 => contradiction

/-- In SQL, a column that is declared as a primary key is not nullable, and a
column is optional exactly if it is nullable. -/
theorem Sql.optional_columnOf (name type constraints : List Char) :
    ((columnOf name type constraints).primaryKey = true →
        (columnOf name type constraints).nullable = false) ∧
      (modifierOf (columnOf name type constraints) = .optional ↔
        (columnOf name type constraints).nullable = true) := by
  rw [modifierOf, columnOf]
  dsimp only
  cases isPrimaryKey constraints <;> cases isNotNull constraints <;> simp

/-- What is read of SQL: no column is a primary key and nullable, and the nullable
columns are those that are written as optional. -/
theorem Sql.columns_of_ofSql {text : String} {document : Document}
    (parsed : Document.ofSql text = .ok document) :
    document.format = SourceFormat.sql.name ∧
      ∀ table ∈ document.tables, ∀ column ∈ table.columns,
        (column.primaryKey = true → column.nullable = false) ∧
          (modifierOf column = .optional ↔ column.nullable = true) := by
  rw [Document.ofSql] at parsed
  split at parsed
  · rename_i found
    obtain rfl := Except.ok.inj parsed
    refine ⟨rfl, fun table member column inTable => ?_⟩
    obtain ⟨name, type, constraints, rfl⟩ := exists_columnOf found member inTable
    exact optional_columnOf name type constraints
  · contradiction

/-- Whether a field of a schema is a key and nullable. -/
def Schema.HasNullableKey (schema : Schema) : Prop :=
  ∃ model ∈ schema.models, ∃ field ∈ model.fields,
    field.isPrimaryKey = true ∧ field.isNullable = true

/-- Models have nullable keys exactly if their tables have. -/
theorem exists_nullableKey_modelsOf_iff (suffixes : List String) (document : Document) :
    (∃ model ∈ modelsOf suffixes document, ∃ field ∈ model.fields,
        field.isPrimaryKey = true ∧ field.isNullable = true) ↔
      ∃ table ∈ document.tables, ∃ column ∈ table.columns, column.IsNullableKey := by
  have both (enumNames bound : List String) (column : Column) :
      ((Field.ofColumn enumNames bound suffixes column).isPrimaryKey = true ∧
        (Field.ofColumn enumNames bound suffixes column).isNullable = true) ↔
          column.IsNullableKey :=
    and_comm
  simp only [modelsOf, Model.ofTable, List.mem_map, exists_exists_and_eq_and, both]

/-- A text of SQL gives a nullable key exactly if some column of it becomes one,
or one is declared behind a cut.  No column that is declared as a primary key
becomes one.  Where names and defaults are plain, the nullable keys are the
nullable columns that are scalars named `id`, or are unique and have `id` in
their names. -/
theorem hasNullableKey_convert_iff (settings : Settings)
    (oneLine : '\n' ∉ settings.headerComment.text.toList) (fileName text : String)
    (conversion : Conversion) (converted : convert settings fileName text = .ok conversion)
    (isSql : conversion.format = .sql) :
    ∃ document, Document.ofSql text = .ok document ∧
      (conversion.schema.HasNullableKey ↔
        ∃ table ∈ document.tables, (∃ column ∈ table.columns, BecomesNullableKey document column) ∨
          HasStrayNullableKey document table) ∧
      (∀ table ∈ document.tables, ∀ column ∈ table.columns, column.primaryKey = true →
        column.nullable = false ∧ ¬BecomesNullableKey document column) ∧
      (InertDocument document →
        (conversion.schema.HasNullableKey ↔
          ∃ table ∈ document.tables, ∃ column ∈ table.columns, column.nullable = true ∧
            ((identifier column.name = "id" ∧ isDslScalar (typeName document column) = true) ∨
              (contains "id".toList (lower (identifier column.name)).toList = true ∧
                column.unique = true)))) := by
  obtain ⟨-, -, written, schemaRead, -⟩ := convert_eq_ok_iff.mp converted
  rw [isSql] at written
  cases parsed : Document.ofSource .sql text with
  | error cause =>
      rw [dslTextOf_of_error settings (by decide) parsed] at written
      contradiction
  | ok document =>
      refine ⟨document, parsed, ?_⟩
      rw [dslTextOf_of_ok settings (by decide) parsed, Except.ok.injEq] at written
      obtain ⟨sqlFormat, columns⟩ := Sql.columns_of_ofSql parsed
      have notDsl : (document.format == SourceFormat.dsl.name) = false := by
        rw [sqlFormat]
        decide
      obtain ⟨read, reads, classified, -⟩ := schemaOf_eq_ok schemaRead
      rw [← written, document.ofDsl_toDsl oneLine, Except.ok.injEq] at reads
      have general : conversion.schema.HasNullableKey ↔
          ∃ table ∈ document.tables,
            (∃ column ∈ table.columns, BecomesNullableKey document column) ∨
              HasStrayNullableKey document table := by
        rw [Schema.HasNullableKey, (blocks_of_classify classified).1,
          exists_nullableKey_modelsOf_iff, ← reads]
        simp only [List.mem_map, exists_exists_and_eq_and, exists_nullableKey_table_iff notDsl]
      refine ⟨general, ?declared, ?plain⟩
      case declared =>
        intro table member column inTable declared
        obtain ⟨notNullable, optional⟩ := columns table member column inTable
        refine ⟨notNullable declared, fun becomes => ?_⟩
        have nullable := optional.mp becomes.optional
        rw [notNullable declared] at nullable
        exact absurd nullable Bool.false_ne_true
      case plain =>
        intro inert
        rw [general]
        constructor
        · rintro ⟨table, member, ⟨column, inTable, becomes⟩ | stray⟩
          · obtain ⟨optional, key⟩ := (becomesNullableKey_iff inert member inTable).mp becomes
            exact ⟨table, member, column, inTable,
              (columns table member column inTable).2.mp optional, key⟩
          · exact absurd stray (not_hasStrayNullableKey inert member)
        · rintro ⟨table, member, column, inTable, nullable, key⟩
          have optional := (columns table member column inTable).2.mpr nullable
          exact ⟨table, member, .inl ⟨column, inTable,
            (becomesNullableKey_iff inert member inTable).mpr ⟨optional, key⟩⟩⟩

/-- A table whose key is declared apart from its column. -/
def ledgerText : String :=
  "CREATE TABLE ledger (id INTEGER, code TEXT NOT NULL UNIQUE, PRIMARY KEY (id));"

/-- The column of the key is read as nullable, so the ledger has a nullable
key. -/
theorem hasNullableKey_ledgerText :
    '\n' ∉ ({} : Settings).headerComment.text.toList ∧
      ∃ conversion, convert {} "ledger.sql" ledgerText = .ok conversion ∧
        conversion.format = .sql ∧ conversion.schema.HasNullableKey := by
  have oneLine := Settings.oneLine_standard
  have format : (convert {} "ledger.sql" ledgerText).toOption.map Conversion.format =
      some .sql := by
    decide +kernel
  have columns : (Document.ofSql ledgerText).toOption.map (fun document =>
      decide (InertDocument document ∧ ∃ table ∈ document.tables, ∃ column ∈ table.columns,
        column.nullable = true ∧ identifier column.name = "id" ∧
          isDslScalar (typeName document column) = true)) = some true := by
    decide +kernel
  cases converted : convert {} "ledger.sql" ledgerText with
  | error failure =>
      rw [converted] at format
      contradiction
  | ok conversion =>
      rw [converted] at format
      have isSql := Option.some.inj format
      obtain ⟨document, parsed, -, -, keys⟩ :=
        hasNullableKey_convert_iff {} oneLine "ledger.sql" ledgerText conversion converted isSql
      rw [parsed] at columns
      obtain ⟨inert, table, member, column, inTable, nullable, named⟩ :=
        of_decide_eq_true (Option.some.inj columns)
      refine ⟨oneLine, conversion, rfl, isSql, (keys inert).mpr ?_⟩
      exact ⟨table, member, column, inTable, nullable, .inl named⟩

/-- The field `id` of the ledger is a primary key and nullable. -/
theorem nullable_id_ledgerText :
    ∃ conversion, convert {} "ledger.sql" ledgerText = .ok conversion ∧
      conversion.format = .sql ∧ ∃ model ∈ conversion.schema.models, ∃ field ∈ model.fields,
        field.name = "id" ∧ field.isPrimaryKey = true ∧ field.isNullable = true := by
  have found : (convert {} "ledger.sql" ledgerText).toOption.map (fun conversion =>
      decide (conversion.format = .sql ∧ ∃ model ∈ conversion.schema.models,
        ∃ field ∈ model.fields, field.name = "id" ∧ field.isPrimaryKey = true ∧
          field.isNullable = true)) = some true := by
    decide +kernel
  cases converted : convert {} "ledger.sql" ledgerText with
  | error failure =>
      rw [converted] at found
      contradiction
  | ok conversion =>
      rw [converted] at found
      exact ⟨conversion, rfl, of_decide_eq_true (Option.some.inj found)⟩

end Crowsfoot
