import Crowsfoot.Conversion
import Crowsfoot.Proofs.Dsl.CapitalizedNames
import Crowsfoot.Proofs.Schema.ForeignKeys
import Crowsfoot.Proofs.Schema.Integrity
import Crowsfoot.Proofs.Schema.Lint

/-!
# Foreign keys that are resolved

A document of another notation is written, read, classified and linted.  Its
columns are typed with scalars and enums, so an unknown target comes from a
foreign key whose table is not declared, or from a column that stands behind a
cut in a default.
-/

namespace Crowsfoot

open Crowsfoot.Text Crowsfoot.Dsl

/-- The names that the blocks of a document are written with. -/
def Document.blockNames (document : Document) : List String :=
  (document.tables.map fun table => blockName document.format table.name) ++
    document.enums.map fun enumeration => blockName document.format enumeration.name

/-- A type that is neither a scalar nor the name of a block. -/
def Document.Unknown (document : Document) (type : String) : Prop :=
  isDslScalar type = false ∧ type ∉ document.blockNames

instance (document : Document) (type : String) : Decidable (document.Unknown type) :=
  inferInstanceAs (Decidable (_ ∧ _))

/-- Whether some foreign key references a table that is not declared. -/
def Document.HasUnknownKey (document : Document) : Prop :=
  ∃ table ∈ document.tables, ∃ key ∈ table.foreignKeys,
    document.Unknown (blockName document.format key.refTable)

instance (document : Document) : Decidable document.HasUnknownKey :=
  inferInstanceAs (Decidable (∃ table ∈ document.tables, _))

/-- Whether some column behind a cut in a default has an unknown type. -/
def Document.HasUnknownStray (document : Document) : Prop :=
  ∃ table ∈ document.tables, ∃ column ∈ table.columns,
    ∃ stray ∈ strayColumns document.format column, document.Unknown stray.typeToken

section Document

variable {document : Document} (lined : LinedDocument document)
include lined

/-- The type that a column is written with is a scalar or an enum. -/
theorem not_unknown_typeName (column : Column) :
    ¬document.Unknown (typeName document column) := by
  have scalars : ∀ kind ∈ ScalarKind.all, isDslScalar kind.dslName = true := by decide
  have known : isDslScalar (typeName document column) = true ∨
      typeName document column ∈ document.blockNames := by
    unfold typeName
    split
    · rename_i name found
      obtain ⟨enumeration, inEnums, rfl⟩ := exists_of_lookup_enumNames found
      exact .inr (List.mem_append_right _ (List.mem_map_of_mem inEnums))
    · rw [lined.notDsl]
      exact .inl (scalars _ (ScalarKind.mem_all _))
  rintro ⟨notScalar, undeclared⟩
  rcases known with scalar | declared
  · rw [scalar] at notScalar
    contradiction
  · exact undeclared declared

/-- The unknown types of a table that is read back are those of its keys and
those behind cuts. -/
theorem exists_unknown_readColumns_iff {table : Table} (member : table ∈ document.tables) :
    (∃ column ∈ readColumns document table, document.Unknown column.typeToken) ↔
      (∃ key ∈ table.foreignKeys, document.Unknown (blockName document.format key.refTable)) ∨
        ∃ column ∈ table.columns, ∃ stray ∈ strayColumns document.format column,
          document.Unknown stray.typeToken := by
  have line (column : Column) (inTable : column ∈ table.columns) :
      (∃ read ∈ columnsIn (columnLine document column none).toList,
          document.Unknown read.typeToken) ↔
        ∃ stray ∈ strayColumns document.format column, document.Unknown stray.typeToken := by
    obtain ⟨first, read, -, type, -, -⟩ := columnsIn_columnLine_eq_cons
      ((lined.tables table member).columns column inTable) lined.enumNames
    rw [read, List.exists_mem_cons_iff, type]
    exact or_iff_right (not_unknown_typeName lined column)
  rw [readColumns]
  constructor
  · rintro ⟨read, inColumns, unknown⟩
    rcases List.mem_append.mp inColumns with inLines | inKeys
    · obtain ⟨column, inTable, inLine⟩ := List.mem_flatMap.mp inLines
      exact .inr ⟨column, inTable, (line column inTable).mp ⟨read, inLine, unknown⟩⟩
    · obtain ⟨key, inTable, rfl⟩ := List.mem_map.mp inKeys
      exact .inl ⟨key, inTable, unknown⟩
  · rintro (⟨key, inTable, unknown⟩ | ⟨column, inTable, strays⟩)
    · exact ⟨_, List.mem_append_right _ (List.mem_map_of_mem inTable), unknown⟩
    · obtain ⟨read, inLine, unknown⟩ := (line column inTable).mpr strays
      exact ⟨read, List.mem_append_left _ (List.mem_flatMap.mpr ⟨column, inTable, inLine⟩),
        unknown⟩

/-- A target is reported exactly if a key or a column behind a cut has an
unknown type. -/
theorem reportsTarget_toDsl_iff {header : String} (oneLine : '\n' ∉ header.toList)
    (origin : String) (settings : Settings) :
    ∃ schema, schemaOf settings (document.toDsl header origin) = .ok schema ∧
      schema.models.map Model.name =
        (document.tables.map fun table => blockName document.format table.name) ∧
      (schema.ReportsTarget ↔ document.HasUnknownKey ∨ document.HasUnknownStray) := by
  obtain ⟨read, succeeds, tables, enums⟩ := exists_ofDsl_toDsl lined oneLine origin
  have tableNames : read.tables.map Table.name =
      document.tables.map fun table => blockName document.format table.name := by
    rw [tables, List.map_map]
    rfl
  have distinct : (read.tables.map Table.name ++ read.enums.map Enumeration.name).Nodup := by
    rw [tableNames, enums]
    exact lined.distinct
  have models : (read.schema settings.foreignKeySuffixes).models.map Model.name =
      read.tables.map Table.name := by
    rw [Document.schema, modelsOf, List.map_map]
    rfl
  have targets := exists_targetModel_iff settings.foreignKeySuffixes read
    (· ∉ document.blockNames)
  refine ⟨read.schema settings.foreignKeySuffixes,
    schemaOf_of_distinctNames settings succeeds distinct, models.trans tableNames, ?_⟩
  have declared : (read.schema settings.foreignKeySuffixes).enums = read.enums := rfl
  rw [Schema.reportsTarget_iff, Schema.Dangles, Schema.declaredNames, models, tableNames, declared,
    enums]
  refine targets.trans ?_
  rw [tables]
  constructor
  · rintro ⟨_, inTables, column, inColumns, unknown⟩
    obtain ⟨table, member, rfl⟩ := List.mem_map.mp inTables
    exact ((exists_unknown_readColumns_iff lined member).mp ⟨column, inColumns, unknown⟩).imp
      (fun key => ⟨table, member, key⟩) (fun stray => ⟨table, member, stray⟩)
  · intro found
    obtain ⟨table, member, unknown⟩ : ∃ table ∈ document.tables,
        (∃ key ∈ table.foreignKeys,
          document.Unknown (blockName document.format key.refTable)) ∨
        ∃ column ∈ table.columns, ∃ stray ∈ strayColumns document.format column,
          document.Unknown stray.typeToken := by
      rcases found with ⟨table, member, key⟩ | ⟨table, member, stray⟩
      · exact ⟨table, member, .inl key⟩
      · exact ⟨table, member, .inr stray⟩
    exact ⟨_, List.mem_map_of_mem member, (exists_unknown_readColumns_iff lined member).mpr unknown⟩

end Document

/-- Defaults that are written without visible boundaries hide no columns. -/
theorem not_hasUnknownStray_of_visible {document : Document}
    (visible : ∀ table ∈ document.tables, ∀ column ∈ table.columns,
      ∀ text ∈ columnDefault? document.format column, OneLine text) :
    ¬document.HasUnknownStray := by
  rintro ⟨table, member, column, inTable, stray, isStray, -⟩
  rw [strayColumns_of_hidden (shownDefault_of_visible (visible table member column inTable)).2]
    at isStray
  contradiction

/-! ## Documents -/

/-- A document that is written, read and classified has errors exactly if a
target is reported, and that is so exactly if a foreign key references a table
that is not declared, or a column behind a cut has an unknown type.  Defaults
that are written without visible boundaries have no such columns.  In SQL, a
reference to a declared table leads to its model whatever its case. -/
theorem Document.reportsTarget_toDsl (document : Document) (header origin : String)
    (oneLine : '\n' ∉ header.toList) (lined : LinedDocument document) (settings : Settings) :
    ∃ schema, schemaOf settings (document.toDsl header origin) = .ok schema ∧
      (hasErrors schema.lint = true ↔ schema.ReportsTarget) ∧
      (schema.ReportsTarget ↔ document.HasUnknownKey ∨ document.HasUnknownStray) ∧
      ((∀ table ∈ document.tables, ∀ column ∈ table.columns,
          ∀ text ∈ columnDefault? document.format column, OneLine text) →
        ¬document.HasUnknownStray) ∧
      (document.format = SourceFormat.sql.name →
        ∀ table ∈ document.tables, ∀ key ∈ table.foreignKeys, ∀ declared ∈ document.tables,
          SameUpToCase key.refTable declared.name →
            blockName document.format key.refTable ∈ schema.models.map Model.name) := by
  obtain ⟨schema, read, models, reports⟩ := reportsTarget_toDsl_iff lined oneLine origin settings
  refine ⟨schema, read, schema.hasErrors_lint_iff, reports, not_hasUnknownStray_of_visible, ?_⟩
  intro isSql table _ key _ declared isDeclared same
  rw [models, isSql, blockName_sql_congr same]
  exact List.mem_map_of_mem isDeclared

/-- Orders that reference customers in capitals, and ghosts that nobody
declares. -/
def ghostDocument : Document where
  format := "sql"
  tables :=
    [{ name := "customers", columns := [{ name := "id", typeToken := "int" }] },
     { name := "orders"
       foreignKeys :=
         [{ columns := ["customer_id"], refTable := "CUSTOMERS", refColumns := ["id"] },
          { columns := ["ghost_id"], refTable := "ghosts", refColumns := ["id"] }] }]

/-- The customers are found, and the ghosts are reported. -/
theorem reportsTarget_ghostDocument :
    '\n' ∉ "Schema".toList ∧ LinedDocument ghostDocument ∧
      ∃ schema, schemaOf {} (ghostDocument.toDsl "Schema" "") = .ok schema ∧
        schema.ReportsTarget ∧ hasErrors schema.lint = true ∧
        blockName "sql" "CUSTOMERS" ∈ schema.models.map Model.name := by
  have oneLine : '\n' ∉ "Schema".toList := by decide
  have lined : LinedDocument ghostDocument := by
    refine ⟨.inl rfl, by decide +kernel, by decide +kernel, ?_⟩
    have plain : ∀ table ∈ ghostDocument.tables, PlainTable table := by decide +kernel
    exact fun table member => (plain table member).lined
  have unknown : ghostDocument.HasUnknownKey := by decide +kernel
  obtain ⟨schema, read, errors, reports, -, found⟩ :=
    ghostDocument.reportsTarget_toDsl "Schema" "" oneLine lined {}
  have reported := reports.mpr (.inl unknown)
  refine ⟨oneLine, lined, schema, read, reported, errors.mpr reported, ?_⟩
  exact found rfl ghostDocument.tables[1] (by simp [ghostDocument])
    { columns := ["customer_id"], refTable := "CUSTOMERS", refColumns := ["id"] }
    (by simp [ghostDocument]) ghostDocument.tables[0] (by simp [ghostDocument]) (by decide)

/-- A default with the escape of a line separator, and no foreign key. -/
def strayDocument : Document where
  format := "sql"
  tables :=
    [{ name := "t"
       columns :=
         [{ name := "c", typeToken := "TEXT", defaultText := some "\"a\\u2028x Zed b\"" }] }]

/-- A target is reported although no foreign key is unknown, and although no
text of the document has a visible boundary. -/
theorem reportsTarget_strayDocument :
    LinedDocument strayDocument ∧
      (∀ table ∈ strayDocument.tables, ∀ column ∈ table.columns,
        ∀ text ∈ column.defaultText, OneLine text) ∧
      ¬strayDocument.HasUnknownKey ∧
      ∃ schema, schemaOf {} (strayDocument.toDsl "Schema" "") = .ok schema ∧
        hasErrors schema.lint = true ∧ schema.ReportsTarget := by
  have lined : LinedDocument strayDocument := by
    refine ⟨.inl rfl, by decide +kernel, by decide +kernel, ?_⟩
    have plain : ∀ table ∈ strayDocument.tables, PlainTable table := by decide +kernel
    exact fun table member => (plain table member).lined
  have errors : (schemaOf {} (strayDocument.toDsl "Schema" "")).toOption.map
      (fun schema => hasErrors schema.lint) = some true := by
    decide +kernel
  refine ⟨lined, by decide +kernel, by decide +kernel, ?_⟩
  cases read : schemaOf {} (strayDocument.toDsl "Schema" "") with
  | error cause =>
      rw [read] at errors
      contradiction
  | ok schema =>
      rw [read] at errors
      have found := Option.some.inj errors
      exact ⟨schema, rfl, found, schema.hasErrors_lint_iff.mp found⟩

end Crowsfoot
