import Crowsfoot.Proofs.Dsl.Blocks
import Crowsfoot.Proofs.Dsl.QuotedContents
import Crowsfoot.Proofs.Dsl.QuotedDefaults

/-!
# Opacity of string defaults

Two documents that differ in the content of one quoted default are written,
read and classified.  Everything that becomes of the content is settled on the
line of its column: the models agree, but for the one default value, exactly if
this line is read alike.
-/

namespace Crowsfoot

open Crowsfoot.Text Crowsfoot.Dsl

/-- A column with everything around it in a document; its default is left
open. -/
structure DefaultSite where
  format : String
  enums : List Enumeration
  tablesBefore : List Table
  tableName : String
  columnsBefore : List Column
  column : Column
  columnsAfter : List Column
  foreignKeys : List ForeignKey
  tablesAfter : List Table

namespace DefaultSite

variable (site : DefaultSite)

/-- The column with a default expression. -/
def columnWith (expression : String) : Column :=
  { site.column with defaultText := some expression }

/-- The table of the column. -/
def tableWith (expression : String) : Table where
  name := site.tableName
  columns := site.columnsBefore ++ site.columnWith expression :: site.columnsAfter
  foreignKeys := site.foreignKeys

/-- The document of the column. -/
def documentWith (expression : String) : Document where
  format := site.format
  tables := site.tablesBefore ++ site.tableWith expression :: site.tablesAfter
  enums := site.enums

/-- The foreign keys that are written on lines of columns of the table. -/
def keys : List (String × ForeignKey) :=
  inlineKeys (site.documentWith "") (site.tableWith "")

/-- The foreign key on the line of the column, if there is one. -/
def key? : Option ForeignKey :=
  site.keys.lookup site.column.name

/-- The columns that are read from the line of a column of the document. -/
def columnsOf (column : Column) : List Column :=
  columnsIn (columnLine (site.documentWith "") column (site.keys.lookup column.name)).toList

/-- The columns that are read from the lines before the column. -/
def readBefore : List Column :=
  site.columnsBefore.flatMap site.columnsOf

/-- The columns that are read from the line of the column. -/
def readHere (expression : String) : List Column :=
  site.columnsOf (site.columnWith expression)

/-- The columns that are read from the lines behind the column. -/
def readAfter : List Column :=
  site.columnsAfter.flatMap site.columnsOf ++
    ((ownKeys (site.documentWith "") (site.tableWith "")).map (relationLine site.format) ++
      mapLines (site.documentWith "") (site.tableWith "")).flatMap fun line =>
        columnsIn line.toList

/-- The place of the field with the default among the fields of its model. -/
def fieldIndex : Nat :=
  site.readBefore.length

/-- Two contents are read alike if the line of the column gives the same fields
with them, but for the default value. -/
def ReadsAlike (quoting : Quoting) (first second : String) : Prop :=
  AlikeColumns (site.readHere (quoting.expression first))
    (site.readHere (quoting.expression second))

/-- Whether a relation is found behind the default. -/
def related : Bool :=
  hasAttribute "@relation" (trailingChars site.column site.key?)

theorem inlineKeys_tableWith (expression : String) :
    inlineKeys (site.documentWith expression) (site.tableWith expression) = site.keys := by
  have declared : (site.tableWith expression).columns.map Column.name =
      (site.tableWith "").columns.map Column.name := by
    simp [tableWith, columnWith]
  simp only [keys, inlineKeys, declared]
  rfl

/-- The default is of no concern to the table but for its line. -/
theorem table_modelSource (expression : String) :
    (modelSource (site.documentWith expression) (site.tableWith expression)).block.table =
      { name := readName (blockName site.format site.tableName)
        columns := site.readBefore ++ site.readHere expression ++ site.readAfter } := by
  have own : ownKeys (site.documentWith expression) (site.tableWith expression) =
      ownKeys (site.documentWith "") (site.tableWith "") := by
    rw [ownKeys, ownKeys, inlineKeys_tableWith, inlineKeys_tableWith]
    rfl
  have lines : (modelSource (site.documentWith expression) (site.tableWith expression)).lines =
      (site.tableWith expression).columns.map (fun column =>
        columnLine (site.documentWith "") column (site.keys.lookup column.name)) ++
      ((ownKeys (site.documentWith "") (site.tableWith "")).map (relationLine site.format) ++
        mapLines (site.documentWith "") (site.tableWith "")) := by
    rw [modelSource, modelLines, inlineKeys_tableWith, own, List.append_assoc]
    rfl
  rw [table_block, lines, List.flatMap_append, List.flatMap_map, tableWith, List.flatMap_append,
    List.flatMap_cons, readAfter, readHere, readBefore]
  simp only [List.append_assoc]
  rfl

/-- The table that the table of the column is read back as. -/
def readTable (expression : String) : Table where
  name := readName (blockName site.format site.tableName)
  columns := site.readBefore ++ site.readHere expression ++ site.readAfter

/-- The tables that other tables are read back as. -/
def readTables (tables : List Table) : List Table :=
  tables.map fun table => (modelSource (site.documentWith "") table).block.table

/-- The document that is read back. -/
def readWith (expression : String) : Document where
  format := SourceFormat.dsl.name
  tables := site.readTables site.tablesBefore ++
    site.readTable expression :: site.readTables site.tablesAfter
  enums := site.enums.map fun enumeration => (enumSource site.format enumeration).block.enumeration

theorem ofDsl_toDsl_documentWith (expression : String) {header : String}
    (oneLine : '\n' ∉ header.toList) (origin : String) :
    Document.ofDsl ((site.documentWith expression).toDsl header origin) =
      .ok (site.readWith expression) := by
  have elsewhere (tables : List Table) :
      (tables.map fun table => (modelSource (site.documentWith expression) table).block.table) =
        site.readTables tables :=
    rfl
  have tables : (site.documentWith expression).tables =
      site.tablesBefore ++ site.tableWith expression :: site.tablesAfter :=
    rfl
  rw [Document.ofDsl_toDsl _ oneLine, tables, List.map_append, List.map_cons,
    table_modelSource, elsewhere, elsewhere]
  rfl

end DefaultSite

/-- Models without the default value of one field of one of them. -/
def withoutDefaultAt (model field : Nat) (models : List Model) : List Model :=
  models.modify model fun model =>
    { model with fields := model.fields.modify field Field.withoutDefault }

theorem withoutDefaultAt_append (field : Nat) (before : List Model) (model : Model)
    (after : List Model) :
    withoutDefaultAt before.length field (before ++ model :: after) =
      before ++ { model with fields := model.fields.modify field Field.withoutDefault } :: after :=
  modify_append_length _ before (model :: after)

namespace DefaultSite

variable (site : DefaultSite)

theorem checkNames_readWith (first second : String) :
    checkNames (site.readWith first) = checkNames (site.readWith second) := by
  simp only [checkNames, readWith, readTable, List.map_append, List.map_cons]

/-- The models agree, but for the default value, exactly if the line of the
column is read alike. -/
theorem modelsOf_agree_iff (suffixes : List String) (first second : String) :
    withoutDefaultAt site.tablesBefore.length site.fieldIndex
          (modelsOf suffixes (site.readWith first)) =
        withoutDefaultAt site.tablesBefore.length site.fieldIndex
          (modelsOf suffixes (site.readWith second)) ↔
      AlikeColumns (site.readHere first) (site.readHere second) := by
  let enumNames := (site.readWith "").enums.map Enumeration.name
  have models (expression : String) :
      withoutDefaultAt site.tablesBefore.length site.fieldIndex
          (modelsOf suffixes (site.readWith expression)) =
        (site.readTables site.tablesBefore).map (Model.ofTable enumNames suffixes) ++
          { name := (site.readTable expression).name
            fields := (Model.ofTable enumNames suffixes (site.readTable expression)).fields.modify
              site.fieldIndex Field.withoutDefault } ::
          (site.readTables site.tablesAfter).map (Model.ofTable enumNames suffixes) := by
    have place := withoutDefaultAt_append site.fieldIndex
      ((site.readTables site.tablesBefore).map (Model.ofTable enumNames suffixes))
      (Model.ofTable enumNames suffixes (site.readTable expression))
      ((site.readTables site.tablesAfter).map (Model.ofTable enumNames suffixes))
    rw [List.length_map, readTables, List.length_map] at place
    rw [modelsOf, readWith, List.map_append, List.map_cons]
    exact place
  rw [models, models, List.append_right_inj, List.cons.injEq, Model.mk.injEq]
  simp only [readTable, fieldIndex, fields_agree_iff, true_and, and_true]

/-! ## Lines of opaque contents -/

/-- A column that numbers itself is written without its default. -/
theorem readHere_of_isSerial (serial : isSerial site.column.typeToken = true)
    (quoting : Quoting) (first second : String) :
    site.readHere (quoting.expression first) = site.readHere (quoting.expression second) := by
  have defaults : columnDefault? site.format (site.columnWith (quoting.expression first)) =
      columnDefault? site.format (site.columnWith (quoting.expression second)) := by
    rw [columnWith, columnWith, columnDefault?_expression, columnDefault?_expression,
      if_pos serial, if_pos serial]
  have attributes :
      columnAttributes site.format (site.columnWith (quoting.expression first)) site.key? =
        columnAttributes site.format (site.columnWith (quoting.expression second)) site.key? := by
    simp only [columnAttributes, defaults]
    rfl
  have lines :
      columnLine (site.documentWith "") (site.columnWith (quoting.expression first)) site.key? =
        columnLine (site.documentWith "") (site.columnWith (quoting.expression second))
          site.key? := by
    unfold columnLine
    change columnAttributes (site.documentWith "").format _ _ = _ at attributes
    rw [attributes]
    rfl
  exact congrArg (fun line : String => columnsIn line.toList) lines

/-- The line of the column, where it shows the default. -/
theorem readHere_expression (notSerial : isSerial site.column.typeToken = false)
    (quoting : Quoting) (content : String) :
    site.readHere (quoting.expression content) =
      columnsIn (quotedLine (identifier site.column.name).toList
        (typeName (site.documentWith "") site.column).toList (modifierOf site.column) site.column
        content (trailingChars site.column site.key?)) := by
  have written : columnDefault? site.format (site.columnWith (quoting.expression content)) =
      some (Json.quote content) := by
    rw [columnWith, columnDefault?_expression, notSerial]
    rfl
  have nonempty : (columnAttributes site.format
      (site.columnWith (quoting.expression content)) site.key?).isEmpty = false := by
    simp [columnAttributes, written]
  have attributes := toList_columnAttributes written site.key?
  have line := toList_columnLine (site.documentWith "")
    (site.columnWith (quoting.expression content)) site.key?
  change _ = ' ' :: ' ' :: (_ ++ ' ' :: (_ ++ (_ ++
    if (columnAttributes site.format _ site.key?).isEmpty then []
    else ' ' :: (joined " " (columnAttributes site.format _ site.key?)).toList))) at line
  rw [nonempty, attributes, Json.toList_quote] at line
  exact congrArg columnsIn line

/-- Opaque contents are read alike. -/
theorem readsAlike_of_opaque (quoting : Quoting) {first second : String}
    (firstOpaque : OpaqueContent site.related first)
    (secondOpaque : OpaqueContent site.related second) :
    site.ReadsAlike quoting first second := by
  unfold ReadsAlike
  cases serial : isSerial site.column.typeToken with
  | true =>
      rw [site.readHere_of_isSerial serial quoting first second]
      exact AlikeColumns.refl _
  | false =>
      have nameIsName : IsName (withoutFinalLineFeed (identifier site.column.name).toList) := by
        rw [toList_identifier]
        exact isName_identifierChars _
      rw [site.readHere_expression serial, site.readHere_expression serial]
      exact alike_quotedLine nameIsName (isName_read_typeName _ _) firstOpaque secondOpaque _ _ id

end DefaultSite

/-- Documents that differ in the content of one quoted default only are read
and classified alike: with the same error, or with the same enums and with
models that agree but for this default value, exactly if the line of the column
is read alike.  Opaque contents always are. -/
theorem DefaultSite.classify_agree_iff (site : DefaultSite) (quoting : Quoting)
    (first second header origin : String) (oneLine : '\n' ∉ header.toList) (reject : Bool)
    (suffixes : List String) :
    (∃ firstRead secondRead,
      Document.ofDsl ((site.documentWith (quoting.expression first)).toDsl header origin) =
          .ok firstRead ∧
        Document.ofDsl ((site.documentWith (quoting.expression second)).toDsl header origin) =
          .ok secondRead ∧
        ((∃ cause, firstRead.classify reject suffixes = .error cause ∧
            secondRead.classify reject suffixes = .error cause) ∨
          ∃ firstModels secondModels enums,
            firstRead.classify reject suffixes = .ok (firstModels, enums) ∧
            secondRead.classify reject suffixes = .ok (secondModels, enums) ∧
            (withoutDefaultAt site.tablesBefore.length site.fieldIndex firstModels =
                withoutDefaultAt site.tablesBefore.length site.fieldIndex secondModels ↔
              site.ReadsAlike quoting first second))) ∧
      (OpaqueContent site.related first → OpaqueContent site.related second →
        site.ReadsAlike quoting first second) := by
  refine ⟨⟨_, _, site.ofDsl_toDsl_documentWith _ oneLine origin,
    site.ofDsl_toDsl_documentWith _ oneLine origin, ?_⟩, site.readsAlike_of_opaque quoting⟩
  have names := site.checkNames_readWith (quoting.expression first) (quoting.expression second)
  have agree := site.modelsOf_agree_iff suffixes (quoting.expression first)
    (quoting.expression second)
  simp only [Document.classify, names]
  cases (if reject then checkNames (site.readWith (quoting.expression second)) else .ok ()) with
  | error cause => exact .inl ⟨cause, rfl, rfl⟩
  | ok => exact .inr ⟨_, _, _, rfl, rfl, agree⟩

/-- A table with a single column of text. -/
def noteSite : DefaultSite where
  format := "sql"
  enums := []
  tablesBefore := []
  tableName := "t"
  columnsBefore := []
  column := { name := "a", typeToken := "TEXT" }
  columnsAfter := []
  foreignKeys := []
  tablesAfter := []

/-- Addresses, quotes and braces are opaque. -/
theorem classify_agree_noteSite :
    '\n' ∉ "Schema".toList ∧
      ∃ firstRead secondRead firstModels secondModels,
        Document.ofDsl ((noteSite.documentWith
            (Quoting.sql.expression "it\x27s a@b.org")).toDsl "Schema" "") = .ok firstRead ∧
          Document.ofDsl ((noteSite.documentWith
            (Quoting.sql.expression "// \x7d \" [ ) \\")).toDsl "Schema" "") = .ok secondRead ∧
          firstRead.classify false [] = .ok (firstModels, []) ∧
          secondRead.classify false [] = .ok (secondModels, []) ∧
          withoutDefaultAt 0 0 firstModels = withoutDefaultAt 0 0 secondModels := by
  have oneLine : '\n' ∉ "Schema".toList := by decide
  have firstOpaque : OpaqueContent noteSite.related "it\x27s a@b.org" := by
    decide +kernel
  have secondOpaque : OpaqueContent noteSite.related "// \x7d \" [ ) \\" := by
    decide +kernel
  obtain ⟨⟨firstRead, secondRead, firstSucceeds, secondSucceeds, classified⟩, alike⟩ :=
    noteSite.classify_agree_iff .sql "it\x27s a@b.org" "// \x7d \" [ ) \\" "Schema" "" oneLine
      false []
  rcases classified with ⟨cause, failed, -⟩ |
      ⟨firstModels, secondModels, enums, firstClassified, secondClassified, agree⟩
  · contradiction
  · have noEnums : enums = [] := by
      have read := noteSite.ofDsl_toDsl_documentWith
        (Quoting.sql.expression "it\x27s a@b.org") oneLine ""
      rw [firstSucceeds] at read
      obtain rfl := Except.ok.inj read
      exact (Prod.mk.inj (Except.ok.inj firstClassified)).2.symm
    subst noEnums
    exact ⟨oneLine, firstRead, secondRead, firstModels, secondModels, firstSucceeds,
      secondSucceeds, firstClassified, secondClassified,
      agree.mpr (alike firstOpaque secondOpaque)⟩

/-- A default that reads like the mark of a key makes its column one. -/
theorem classify_noteSite_mark :
    ∃ firstRead secondRead firstModels secondModels,
      Document.ofDsl ((noteSite.documentWith (Quoting.sql.expression "@id")).toDsl "Schema" "") =
          .ok firstRead ∧
        Document.ofDsl ((noteSite.documentWith (Quoting.sql.expression "id")).toDsl "Schema" "") =
          .ok secondRead ∧
        firstRead.classify false [] = .ok (firstModels, []) ∧
        secondRead.classify false [] = .ok (secondModels, []) ∧
        (firstModels.map fun model => model.fields.map Field.isPrimaryKey) = [[true]] ∧
        (secondModels.map fun model => model.fields.map Field.isPrimaryKey) = [[false]] := by
  have oneLine : '\n' ∉ "Schema".toList := by decide
  refine ⟨_, _, modelsOf [] (noteSite.readWith (Quoting.sql.expression "@id")),
    modelsOf [] (noteSite.readWith (Quoting.sql.expression "id")),
    noteSite.ofDsl_toDsl_documentWith _ oneLine "", noteSite.ofDsl_toDsl_documentWith _ oneLine "",
    rfl, rfl, ?_, ?_⟩
  · decide +kernel
  · decide +kernel

end Crowsfoot
