import Crowsfoot.Proofs.Dsl.Bridge
import Crowsfoot.Proofs.Dsl.CutLines
import Crowsfoot.Proofs.Dsl.Relations
import Crowsfoot.Proofs.Schema.Relationships

/-!
# Foreign keys and relationships

A document of another notation is written, read, classified, and its
relationships are inferred.  Each table gives one relationship for each column
that is typed with an enum and one for each foreign key, in order, unless a
default that is cut or that shows a relation comes in between.
-/

namespace Crowsfoot

open Crowsfoot.Text Crowsfoot.Dsl

/-- The name of the enum that a column is typed with. -/
def enumOf? (document : Document) (column : Column) : Option String :=
  (enumNames document).lookup (lower column.typeToken)

/-- The relationship of a column that is typed with an enum. -/
def enumRelationship? (document : Document) (table : Table) (column : Column) :
    Option Relationship :=
  (enumOf? document column).map fun name =>
    { sourceModel := blockName document.format table.name
      sourceField := identifier column.name
      targetModel := name
      cardinality := .oneToOne
      displayLabel := identifier column.name }

/-- The other tables that the foreign keys of a table reference, in the order
of their first mention. -/
def linkedTables (document : Document) (table : Table) : List String :=
  ((table.foreignKeys.map fun key => blockName document.format key.refTable).filter
    (· != blockName document.format table.name)).eraseDups

/-- The number of columns of a table whose names and types are those of foreign
keys. -/
def foreignKeyCount (suffixes : List String) (document : Document) (table : Table) : Nat :=
  table.columns.countP fun column =>
    isForeignKeyColumn suffixes
      { name := identifier column.name, typeToken := typeName document column }

/-- A table with two such columns or more whose foreign keys reference two
other tables or more. -/
def isJunction (suffixes : List String) (document : Document) (table : Table) : Bool :=
  2 ≤ foreignKeyCount suffixes document table && 2 ≤ (linkedTables document table).length

/-- The relationship of a foreign key: many to one, or many to many where a
junction references another table. -/
def keyRelationship (suffixes : List String) (document : Document) (table : Table)
    (key : ForeignKey) : Relationship :=
  let source := blockName document.format table.name
  let target := blockName document.format key.refTable
  let through := isJunction suffixes document table && target != source
  { sourceModel := source
    sourceField := keyFieldName key
    targetModel := target
    cardinality := if through then .manyToMany else .manyToOne
    foreignKeyColumns := key.columns.map identifier
    referencedColumns := key.refColumns.map identifier
    displayLabel :=
      if through then keyFieldName key ++ " (M:N via " ++ source ++ ")"
      else nameList key.columns ++ " → " ++ nameList key.refColumns ++ " (N:1)" }

/-- The relationships of a table: those of its enums, and those of its foreign
keys. -/
def tableRelationships (suffixes : List String) (document : Document) (table : Table) :
    List Relationship :=
  table.columns.filterMap (enumRelationship? document table) ++
    table.foreignKeys.map (keyRelationship suffixes document table)

/-- A document of another notation with distinct block names, in which all names
of tables and columns stay on their lines. -/
structure LinedDocument (document : Document) : Prop where
  format : document.format = SourceFormat.sql.name ∨ document.format = SourceFormat.json.name
  distinct : ((document.tables.map fun table => blockName document.format table.name) ++
    document.enums.map fun enumeration => blockName document.format enumeration.name).Nodup
  enumNames : ∀ enumeration ∈ document.enums, '\n' ∉ enumeration.name.toList
  tables : ∀ table ∈ document.tables, LinedTable table

/-- A document of another notation with distinct block names, whose foreign
keys name columns and reference tables, and in which no column is a list. -/
structure RelationalDocument (document : Document) : Prop where
  format : document.format = SourceFormat.sql.name ∨ document.format = SourceFormat.json.name
  distinct : ((document.tables.map fun table => blockName document.format table.name) ++
    document.enums.map fun enumeration => blockName document.format enumeration.name).Nodup
  enumNames : ∀ enumeration ∈ document.enums, '\n' ∉ enumeration.name.toList
  enumsNotScalar : ∀ enumeration ∈ document.enums,
    isDslScalar (blockName document.format enumeration.name) = false
  tables : ∀ table ∈ document.tables, PlainTable table
  notLists : ∀ table ∈ document.tables, ∀ column ∈ table.columns, column.isList = false
  keyColumns : ∀ table ∈ document.tables, ∀ key ∈ table.foreignKeys, key.columns ≠ []
  targetsNotScalar : ∀ table ∈ document.tables, ∀ key ∈ table.foreignKeys,
    isDslScalar (blockName document.format key.refTable) = false
  targetsNotEnums : ∀ table ∈ document.tables, ∀ key ∈ table.foreignKeys,
    ∀ enumeration ∈ document.enums,
      blockName document.format key.refTable ≠ blockName document.format enumeration.name

theorem RelationalDocument.lined {document : Document}
    (relational : RelationalDocument document) : LinedDocument document where
  format := relational.format
  distinct := relational.distinct
  enumNames := relational.enumNames
  tables := fun table member => (relational.tables table member).lined

/-- A column whose default leaves its line alone: what stands behind a cut
declares no column that refers to a block, and the default of an enum shows no
relation. -/
structure KeepsLine (document : Document) (column : Column) : Prop where
  strays : ∀ stray ∈ strayColumns document.format column, isDslScalar stray.typeToken = true
  relation : (enumOf? document column).isSome = true →
    hasAttribute "@relation" (shownDefault document.format column) = false

/-- The number of stray columns of a table whose names and types are those of
foreign keys. -/
def strayKeyCount (suffixes : List String) (document : Document) (table : Table) : Nat :=
  (table.columns.flatMap (strayColumns document.format)).countP (isForeignKeyColumn suffixes)

/-- Defaults that leave the relationships of a document alone: they leave every
line alone, and stray columns make no table a junction. -/
structure KeepsRelationships (suffixes : List String) (document : Document) : Prop where
  lines : ∀ table ∈ document.tables, ∀ column ∈ table.columns, KeepsLine document column
  junctions : ∀ table ∈ document.tables, 2 ≤ (linkedTables document table).length →
    2 ≤ foreignKeyCount suffixes document table + strayKeyCount suffixes document table →
      2 ≤ foreignKeyCount suffixes document table

/-- The columns that a table is read back with. -/
def readColumns (document : Document) (table : Table) : List Column :=
  (table.columns.flatMap fun column => columnsIn (columnLine document column none).toList) ++
    table.foreignKeys.map (bridgedKey document.format)

/-- The table that a table is read back as. -/
def readTable (document : Document) (table : Table) : Table where
  name := blockName document.format table.name
  columns := readColumns document table

/-- The model that a table is classified as. -/
def readModel (suffixes : List String) (document : Document) (table : Table) : Model :=
  Model.ofTable (document.enums.map fun enumeration =>
    blockName document.format enumeration.name) suffixes (readTable document table)

/-- The relationships of the columns that are read from the line of a column. -/
def lineRelationships (document : Document) (table : Table) (column : Column) :
    List Relationship :=
  ((columnsIn (columnLine document column none).toList).filter Column.isReference).map
    (Relationship.ofColumn (blockName document.format table.name))

/-- The relationships that a table gives, line by line, if some models are found
to be junctions. -/
def foundRelationships (document : Document) (found : List (String × List String))
    (table : Table) : List Relationship :=
  (table.columns.flatMap fun column =>
      (lineRelationships document table column).map (Relationship.through found)) ++
    table.foreignKeys.map fun key =>
      (Relationship.ofColumn (blockName document.format table.name)
        (bridgedKey document.format key)).through found

theorem exists_of_enumOf? {document : Document} {column : Column} {name : String}
    (found : enumOf? document column = some name) :
    ∃ enumeration ∈ document.enums, name = blockName document.format enumeration.name :=
  exists_of_lookup_enumNames found

section Lined

variable {document : Document} (lined : LinedDocument document)
include lined

theorem LinedDocument.notDsl : (document.format == SourceFormat.dsl.name) = false := by
  rcases lined.format with sql | json
  · rw [sql]
    decide
  · rw [json]
    decide

/-- Outside the DSL, every foreign key has a line of its own. -/
theorem inlineKeys_eq_nil (table : Table) : inlineKeys document table = [] := by
  rw [inlineKeys, lined.notDsl]
  rfl

theorem table_eq_readTable {table : Table} (member : table ∈ document.tables) :
    (modelSource document table).block.table = readTable document table := by
  have noKeys := inlineKeys_eq_nil lined table
  have own : ownKeys document table = table.foreignKeys := by
    rw [ownKeys, noKeys]
    exact List.filter_eq_self.mpr fun _ _ => rfl
  rw [table_modelSource document (lined.tables table member), own, noKeys]
  rfl

/-- The document is read with its tables and the names of its enums. -/
theorem exists_ofDsl_toDsl {header : String} (oneLine : '\n' ∉ header.toList) (origin : String) :
    ∃ read, Document.ofDsl (document.toDsl header origin) = .ok read ∧
      read.tables = document.tables.map (readTable document) ∧
      read.enums.map Enumeration.name =
        document.enums.map fun enumeration => blockName document.format enumeration.name := by
  refine ⟨_, document.ofDsl_toDsl oneLine origin, ?_, ?_⟩
  · exact List.map_congr_left fun table member => table_eq_readTable lined member
  · simp only [List.map_map, Function.comp_def, enumeration_name, enumSource]
    apply List.map_congr_left
    intro enumeration member
    rw [readName_of_notMem
      (lineFeed_notMem_blockName (lined.enumNames enumeration member))]

end Lined

section Document

variable {document : Document} (relational : RelationalDocument document)
include relational

theorem bridgedKey_isRelation {table : Table} (member : table ∈ document.tables)
    {key : ForeignKey} (inTable : key ∈ table.foreignKeys) :
    (bridgedKey document.format key).isReference = true ∧
      (bridgedKey document.format key).isRelation = true := by
  have plain := (relational.tables table member).keys key inTable
  have reference : (bridgedKey document.format key).isReference = true := by
    rw [Column.isReference, bridgedKey, relational.targetsNotScalar table member key inTable]
    rfl
  have columns : (key.columns.map identifier).isEmpty = false := by
    simpa using relational.keyColumns table member key inTable
  refine ⟨reference, ?_⟩
  rw [Column.isRelation, reference, bridgedKey,
    relationColumns_relationAttribute plain.columns plain.refColumns, columns]
  rfl

/-- By itself, a foreign key gives a relationship of many to one. -/
theorem ofColumn_bridgedKey {table : Table} (member : table ∈ document.tables)
    {key : ForeignKey} (inTable : key ∈ table.foreignKeys) :
    Relationship.ofColumn (blockName document.format table.name)
        (bridgedKey document.format key) =
      { sourceModel := blockName document.format table.name
        sourceField := keyFieldName key
        targetModel := blockName document.format key.refTable
        cardinality := .manyToOne
        foreignKeyColumns := key.columns.map identifier
        referencedColumns := key.refColumns.map identifier
        displayLabel :=
          nameList key.columns ++ " → " ++ nameList key.refColumns ++ " (N:1)" } := by
  have plain := (relational.tables table member).keys key inTable
  have nonempty : (key.columns.map identifier).isEmpty = false := by
    simpa using relational.keyColumns table member key inTable
  have cardinality := fieldCardinality_alone (bridgedKey document.format key)
  simp only [bridgedKey, relationColumns_relationAttribute plain.columns plain.refColumns,
    nonempty, Bool.not_false, if_true, Bool.false_eq_true, if_false] at cardinality
  rw [Relationship.ofColumn_eq]
  simp only [bridgedKey, relationColumns_relationAttribute plain.columns plain.refColumns,
    cardinality]
  rfl

/-- The relationship of a foreign key is the expected one exactly if its model
is taken for a junction just where its table is one. -/
theorem through_bridgedKey_eq_iff {table : Table} (member : table ∈ document.tables)
    {key : ForeignKey} (inTable : key ∈ table.foreignKeys) (suffixes : List String)
    (junctions : List (String × List String)) :
    (Relationship.ofColumn (blockName document.format table.name)
        (bridgedKey document.format key)).through junctions =
      keyRelationship suffixes document table key ↔
    links junctions (blockName document.format table.name)
        (blockName document.format key.refTable) =
      (isJunction suffixes document table &&
        blockName document.format key.refTable != blockName document.format table.name) := by
  rw [ofColumn_bridgedKey relational member inTable, Relationship.through_eq (by simp),
    keyRelationship]
  dsimp only
  cases links junctions (blockName document.format table.name)
      (blockName document.format key.refTable) <;>
    cases isJunction suffixes document table &&
      blockName document.format key.refTable != blockName document.format table.name <;>
    simp

/-! ## Columns that are typed with enums -/

/-- A column refers to a block exactly if it is typed with an enum. -/
theorem isDslScalar_typeName (column : Column) :
    isDslScalar (typeName document column) = (enumOf? document column).isNone := by
  have scalars : ∀ kind ∈ ScalarKind.all, isDslScalar kind.dslName = true := by decide
  unfold typeName
  cases found : enumOf? document column with
  | some name =>
      obtain ⟨enumeration, inEnums, rfl⟩ := exists_of_enumOf? found
      rw [enumOf?] at found
      rw [found]
      exact relational.enumsNotScalar enumeration inEnums
  | none =>
      rw [enumOf?] at found
      rw [found, relational.lined.notDsl]
      exact scalars _ (ScalarKind.mem_all _)

/-- The line of a column declares the column and its stray columns. -/
theorem columnsIn_eq_cons {table : Table} (member : table ∈ document.tables) {column : Column}
    (inTable : column ∈ table.columns) :
    ∃ first, columnsIn (columnLine document column none).toList =
        first :: strayColumns document.format column ∧
      first.name = identifier column.name ∧
      first.typeToken = typeName document column ∧
      first.isList = false ∧
      hasRelation first.constraints =
        hasAttribute "@relation" (shownDefault document.format column) := by
  have plain := (relational.tables table member).columns column inTable
  obtain ⟨first, line, name, type, list, relation⟩ :=
    columnsIn_columnLine_eq_cons plain.lined relational.enumNames
  exact ⟨first, line, name, type, list.trans (relational.notLists table member column inTable),
    relation plain.inert.atSign⟩

/-- A line gives the relationship of its enum, and no other, exactly if it is
left alone and no junction links the enum. -/
theorem lineRelationships_through_iff {table : Table} (member : table ∈ document.tables)
    {column : Column} (inTable : column ∈ table.columns)
    (junctions : List (String × List String)) :
    (lineRelationships document table column).map (Relationship.through junctions) =
        (enumRelationship? document table column).toList ↔
      KeepsLine document column ∧
        ∀ name ∈ enumOf? document column,
          links junctions (blockName document.format table.name) name = false := by
  obtain ⟨first, line, name, type, list, relation⟩ :=
    columnsIn_eq_cons relational member inTable
  have reference : first.isReference = (enumOf? document column).isSome := by
    rw [Column.isReference, type, isDslScalar_typeName relational]
    cases enumOf? document column <;> rfl
  have strays : (strayColumns document.format column).filter Column.isReference = [] ↔
      ∀ stray ∈ strayColumns document.format column, isDslScalar stray.typeToken = true := by
    simp [List.filter_eq_nil_iff, Column.isReference]
  rw [lineRelationships, line, List.filter_cons, reference, enumRelationship?]
  cases found : enumOf? document column with
  | none =>
      rw [Option.isSome_none, if_neg (by decide), Option.map_none, Option.toList_none,
        List.map_eq_nil_iff, List.map_eq_nil_iff, strays]
      constructor
      · exact fun scalar => ⟨⟨scalar, by simp [found]⟩, by simp⟩
      · exact fun keeps => keeps.1.strays
  | some enumName =>
      have typed : first.typeToken = enumName := by
        rw [type, typeName, ← enumOf?, found]
      have plain : ({ sourceModel := blockName document.format table.name
                      sourceField := identifier column.name
                      targetModel := enumName
                      cardinality := .oneToOne
                      displayLabel := identifier column.name } : Relationship) =
          plainRelationship (blockName document.format table.name) first := by
        rw [plainRelationship, name, typed]
      rw [Option.isSome_some, if_pos rfl, Option.map_some, Option.toList_some, List.map_cons,
        List.map_cons, plain, List.cons.injEq, List.map_eq_nil_iff, List.map_eq_nil_iff, strays,
        Relationship.through_ofColumn_eq_plain_iff _ _ list, relation, typed]
      constructor
      · rintro ⟨⟨shown, unlinked⟩, scalar⟩
        exact ⟨⟨scalar, fun _ => shown⟩, by simpa using unlinked⟩
      · rintro ⟨keeps, unlinked⟩
        exact ⟨⟨keeps.relation (by simp [found]), unlinked enumName rfl⟩, keeps.strays⟩

/-- Every line gives the relationship of its enum at least. -/
theorem length_le_lineRelationships {table : Table} (member : table ∈ document.tables)
    {column : Column} (inTable : column ∈ table.columns) :
    (enumRelationship? document table column).toList.length ≤
      (lineRelationships document table column).length := by
  obtain ⟨first, line, -, type, -, -⟩ := columnsIn_eq_cons relational member inTable
  rw [enumRelationship?, lineRelationships, line]
  cases found : enumOf? document column with
  | none => simp
  | some enumName =>
      have reference : first.isReference = true := by
        rw [Column.isReference, type, isDslScalar_typeName relational, found]
        rfl
      rw [List.filter_cons_of_pos reference]
      simp

/-- On a line that is left alone, no column is on a relation. -/
theorem KeepsLine.isRelation {table : Table} (member : table ∈ document.tables)
    {column : Column} (inTable : column ∈ table.columns) (keeps : KeepsLine document column)
    {read : Column} (inLine : read ∈ columnsIn (columnLine document column none).toList) :
    read.isRelation = false := by
  obtain ⟨first, line, -, type, -, relation⟩ := columnsIn_eq_cons relational member inTable
  rw [line] at inLine
  rcases List.mem_cons.mp inLine with rfl | inStrays
  · cases found : enumOf? document column with
    | none =>
        rw [Column.isRelation, Column.isReference, type, isDslScalar_typeName relational, found]
        rfl
    | some enumName =>
        have noRelation := relation.trans (keeps.relation (by rw [found]; rfl))
        rw [Column.isRelation, relationColumns, noRelation]
        simp
  · rw [Column.isRelation, Column.isReference, keeps.strays read inStrays]
    rfl

/-- The models that a model links are the tables that its table links. -/
theorem linkedModels_readModel {table : Table} (member : table ∈ document.tables)
    (keeps : ∀ column ∈ table.columns, KeepsLine document column) (suffixes : List String) :
    linkedModels (readModel suffixes document table) = linkedTables document table := by
  have lines : (table.columns.flatMap fun column =>
      columnsIn (columnLine document column none).toList).filter (fun column =>
        column.isRelation && column.typeToken != blockName document.format table.name) = [] := by
    rw [List.filter_eq_nil_iff]
    intro read inLines
    obtain ⟨column, inTable, inLine⟩ := List.mem_flatMap.mp inLines
    rw [(keeps column inTable).isRelation relational member inTable inLine]
    simp
  have keys : ((table.foreignKeys.map (bridgedKey document.format)).filter fun column =>
      column.isRelation && column.typeToken != blockName document.format table.name).map
        Column.typeToken =
      (table.foreignKeys.map fun key => blockName document.format key.refTable).filter
        (· != blockName document.format table.name) := by
    rw [List.filter_map, List.map_map, List.filter_map]
    have same : ∀ key ∈ table.foreignKeys,
        ((fun column : Column => column.isRelation &&
          column.typeToken != blockName document.format table.name) ∘
            bridgedKey document.format) key =
          ((· != blockName document.format table.name) ∘
            fun key : ForeignKey => blockName document.format key.refTable) key := by
      intro key inTable
      simp only [Function.comp_apply, (bridgedKey_isRelation relational member inTable).2,
        Bool.true_and]
      rfl
    rw [List.filter_congr same]
    rfl
  rw [readModel, linkedModels_ofTable, readTable, readColumns, List.filter_append, lines,
    List.nil_append, keys]
  rfl

/-- The columns of foreign keys on some lines of a table are those of its columns
and the stray ones. -/
theorem countP_lines {table : Table} (member : table ∈ document.tables) (suffixes : List String)
    {columns : List Column} (inTable : ∀ column ∈ columns, column ∈ table.columns) :
    (columns.flatMap fun column => columnsIn (columnLine document column none).toList).countP
        (isForeignKeyColumn suffixes) =
      (columns.countP fun column => isForeignKeyColumn suffixes
        { name := identifier column.name, typeToken := typeName document column }) +
        (columns.flatMap (strayColumns document.format)).countP (isForeignKeyColumn suffixes) := by
  induction columns with
  | nil => simp
  | cons column later ih =>
      obtain ⟨first, line, name, type, -, -⟩ :=
        columnsIn_eq_cons relational member (inTable column List.mem_cons_self)
      have here : isForeignKeyColumn suffixes first = isForeignKeyColumn suffixes
          { name := identifier column.name, typeToken := typeName document column } := by
        rw [isForeignKeyColumn, isForeignKeyColumn, name, type]
      have behind := ih fun other inLater => inTable other (List.mem_cons_of_mem _ inLater)
      rw [List.flatMap_cons, line, List.countP_append, List.countP_cons, here, behind,
        List.countP_cons, List.flatMap_cons, List.countP_append]
      omega

/-- The columns of foreign keys that are read back are those of the table and
the stray ones. -/
theorem countP_readModel {table : Table} (member : table ∈ document.tables)
    (suffixes : List String) :
    (readModel suffixes document table).fields.countP (·.isForeignKey) =
      foreignKeyCount suffixes document table + strayKeyCount suffixes document table := by
  have noKeys : (table.foreignKeys.map (bridgedKey document.format)).countP
      (isForeignKeyColumn suffixes) = 0 := by
    rw [List.countP_eq_zero]
    intro column inKeys
    obtain ⟨key, inTable, rfl⟩ := List.mem_map.mp inKeys
    have target := relational.targetsNotScalar table member key inTable
    simp [isForeignKeyColumn, bridgedKey, target]
  rw [readModel, countP_isForeignKey_ofTable, readTable, readColumns, List.countP_append, noKeys,
    countP_lines relational member suffixes fun _ inTable => inTable]
  rfl

omit relational in
theorem mem_linkedTables_iff {table : Table} {other : String} :
    other ∈ linkedTables document table ↔
      (∃ key ∈ table.foreignKeys, blockName document.format key.refTable = other) ∧
        other ≠ blockName document.format table.name := by
  simp [linkedTables]

/-- Where lines are left alone, a model links another exactly if it holds two
foreign keys, stray ones included, and its table links two tables and this
one. -/
theorem links_readModel_iff {table : Table} (member : table ∈ document.tables)
    (keeps : ∀ column ∈ table.columns, KeepsLine document column) (suffixes : List String)
    (other : String) :
    links (junctions (document.tables.map (readModel suffixes document)))
        (blockName document.format table.name) other = true ↔
      2 ≤ foreignKeyCount suffixes document table + strayKeyCount suffixes document table ∧
        2 ≤ (linkedTables document table).length ∧ other ∈ linkedTables document table := by
  have distinct : ((document.tables.map (readModel suffixes document)).map Model.name).Nodup := by
    rw [List.map_map]
    exact (List.nodup_append.mp relational.distinct).1
  have iff := links_junctions_iff distinct (List.mem_map_of_mem member) other
  rwa [countP_readModel relational member, linkedModels_readModel relational member keeps] at iff

/-- No enum is linked by a table. -/
theorem enumOf?_notMem_linkedTables {table : Table} (member : table ∈ document.tables)
    {column : Column} {name : String} (found : enumOf? document column = some name) :
    name ∉ linkedTables document table := by
  obtain ⟨enumeration, inEnums, rfl⟩ := exists_of_enumOf? found
  intro linked
  obtain ⟨⟨key, inTable, same⟩, -⟩ := mem_linkedTables_iff.mp linked
  exact relational.targetsNotEnums table member key inTable enumeration inEnums same

/-! ## Inferred relationships -/

/-- The relationships that are inferred, table by table and line by line. -/
theorem inferRelationships_readModels (suffixes : List String) :
    inferRelationships (document.tables.map (readModel suffixes document)) =
      document.tables.flatMap (foundRelationships document
        (junctions (document.tables.map (readModel suffixes document)))) := by
  rw [inferRelationships, List.flatMap_map, List.map_flatMap]
  apply List.flatMap_congr
  intro table member
  have keys : (table.foreignKeys.map (bridgedKey document.format)).filter Column.isReference =
      table.foreignKeys.map (bridgedKey document.format) := by
    rw [List.filter_eq_self]
    intro column inKeys
    obtain ⟨key, inTable, rfl⟩ := List.mem_map.mp inKeys
    exact (bridgedKey_isRelation relational member inTable).1
  rw [readModel, directRelationships_ofTable, readTable, readColumns, List.filter_append, keys,
    List.filter_flatMap, List.map_append, List.map_append, List.map_flatMap, List.map_flatMap,
    List.map_map, List.map_map]
  rfl

/-- A table gives the expected relationships exactly if its lines are left
alone, no enum is linked, and it is taken for a junction just where it is
one. -/
theorem tableRelationships_eq_iff {table : Table} (member : table ∈ document.tables)
    (suffixes : List String) (found : List (String × List String)) :
    foundRelationships document found table = tableRelationships suffixes document table ↔
      (∀ column ∈ table.columns, KeepsLine document column ∧
        ∀ name ∈ enumOf? document column,
          links found (blockName document.format table.name) name = false) ∧
      ∀ key ∈ table.foreignKeys,
        links found (blockName document.format table.name)
            (blockName document.format key.refTable) =
          (isJunction suffixes document table &&
            blockName document.format key.refTable != blockName document.format table.name) := by
  have lengths : ∀ column ∈ table.columns,
      (enumRelationship? document table column).toList.length ≤
        ((lineRelationships document table column).map (Relationship.through found)).length := by
    intro column inTable
    rw [List.length_map]
    exact length_le_lineRelationships relational member inTable
  rw [foundRelationships, tableRelationships, List.filterMap_eq_flatMap_toList]
  constructor
  · intro same
    obtain ⟨columns, keys⟩ := List.append_inj' same (by simp)
    rw [flatMap_eq_flatMap_iff lengths] at columns
    rw [List.map_inj_left] at keys
    constructor
    · exact fun column inTable =>
        (lineRelationships_through_iff relational member inTable found).mp (columns column inTable)
    · exact fun key inTable =>
        (through_bridgedKey_eq_iff relational member inTable suffixes found).mp (keys key inTable)
  · rintro ⟨columns, keys⟩
    rw [(flatMap_eq_flatMap_iff lengths).mpr fun column inTable =>
        (lineRelationships_through_iff relational member inTable found).mpr
          (columns column inTable),
      List.map_inj_left.mpr fun key inTable =>
        (through_bridgedKey_eq_iff relational member inTable suffixes found).mpr
          (keys key inTable)]

/-- A table gives one relationship for each expected one at least. -/
theorem length_tableRelationships_le {table : Table} (member : table ∈ document.tables)
    (suffixes : List String) (found : List (String × List String)) :
    (tableRelationships suffixes document table).length ≤
      (foundRelationships document found table).length := by
  have columns : (table.columns.flatMap fun column =>
      (enumRelationship? document table column).toList).length ≤
        (table.columns.flatMap fun column =>
          (lineRelationships document table column).map (Relationship.through found)).length := by
    apply length_flatMap_le
    intro column inTable
    rw [List.length_map]
    exact length_le_lineRelationships relational member inTable
  rw [tableRelationships, foundRelationships, List.filterMap_eq_flatMap_toList,
    List.length_append, List.length_append, List.length_map, List.length_map]
  omega

/-- The inferred relationships are the expected ones exactly if the defaults
leave them alone. -/
theorem inferRelationships_readModels_iff (suffixes : List String) :
    inferRelationships (document.tables.map (readModel suffixes document)) =
        document.tables.flatMap (tableRelationships suffixes document) ↔
      KeepsRelationships suffixes document := by
  rw [inferRelationships_readModels relational, flatMap_eq_flatMap_iff fun table member =>
    length_tableRelationships_le relational member suffixes _]
  constructor
  · intro tables
    have parts : ∀ table ∈ document.tables, _ ∧ _ := fun table member =>
      (tableRelationships_eq_iff relational member suffixes _).mp (tables table member)
    have lines : ∀ table ∈ document.tables, ∀ column ∈ table.columns,
        KeepsLine document column :=
      fun table member column inTable => ((parts table member).1 column inTable).1
    refine ⟨lines, ?_⟩
    intro table member linked count
    have positive : 0 < (linkedTables document table).length := by omega
    obtain ⟨other, isLinked⟩ := List.exists_mem_of_length_pos positive
    obtain ⟨⟨key, inTable, rfl⟩, -⟩ := mem_linkedTables_iff.mp isLinked
    have junction := (parts table member).2 key inTable
    rw [(links_readModel_iff relational member (lines table member) suffixes _).mpr
      ⟨count, linked, isLinked⟩, eq_comm, Bool.and_eq_true, isJunction, Bool.and_eq_true,
      decide_eq_true_eq] at junction
    exact junction.1.1
  · intro keeps table member
    have linksIff := links_readModel_iff relational member (keeps.lines table member) suffixes
    rw [tableRelationships_eq_iff relational member]
    constructor
    · intro column inTable
      refine ⟨keeps.lines table member column inTable, ?_⟩
      intro name isEnum
      rw [Bool.eq_false_iff]
      intro linked
      exact enumOf?_notMem_linkedTables relational member isEnum ((linksIff name).mp linked).2.2
    · intro key inTable
      rw [Bool.eq_iff_iff, linksIff, Bool.and_eq_true, isJunction, Bool.and_eq_true,
        decide_eq_true_eq, decide_eq_true_eq, bne_iff_ne, mem_linkedTables_iff]
      constructor
      · rintro ⟨count, linked, -, other⟩
        exact ⟨⟨keeps.junctions table member linked count, linked⟩, other⟩
      · rintro ⟨⟨count, linked⟩, other⟩
        exact ⟨by omega, linked, ⟨key, inTable, rfl⟩, other⟩

end Document

/-- Defaults that are inert as they are written leave the relationships
alone. -/
theorem keepsRelationships_of_inert (suffixes : List String) {document : Document}
    (inert : ∀ table ∈ document.tables, ∀ column ∈ table.columns,
      ∀ text ∈ columnDefault? document.format column, Inert text) :
    KeepsRelationships suffixes document := by
  constructor
  · intro table member column inTable
    obtain ⟨noStrays, noRelation⟩ := strayColumns_of_inert (inert table member column inTable)
    exact ⟨by simp [noStrays], fun _ => noRelation⟩
  · intro table member _ count
    have noStrays : table.columns.flatMap (strayColumns document.format) = [] :=
      List.flatMap_eq_nil_iff.mpr fun column inTable =>
        (strayColumns_of_inert (inert table member column inTable)).1
    rwa [strayKeyCount, noStrays, List.countP_nil, Nat.add_zero] at count

/-- A document with foreign keys is written, read and classified, and its
relationships are those of its tables in order exactly if its defaults leave
them alone, which inert ones do. -/
theorem Document.inferRelationships_toDsl_iff (document : Document) (header origin : String)
    (oneLine : '\n' ∉ header.toList) (relational : RelationalDocument document) (reject : Bool)
    (suffixes : List String) :
    (∃ read models enums, Document.ofDsl (document.toDsl header origin) = .ok read ∧
      read.classify reject suffixes = .ok (models, enums) ∧
      (inferRelationships models = document.tables.flatMap (tableRelationships suffixes document) ↔
        KeepsRelationships suffixes document)) ∧
      ((∀ table ∈ document.tables, ∀ column ∈ table.columns,
          ∀ text ∈ columnDefault? document.format column, Inert text) →
        KeepsRelationships suffixes document) := by
  obtain ⟨read, succeeds, tables, enums⟩ := exists_ofDsl_toDsl relational.lined oneLine origin
  have distinct : (read.tables.map Table.name ++ read.enums.map Enumeration.name).Nodup := by
    rw [tables, enums, List.map_map]
    exact relational.distinct
  have models : modelsOf suffixes read = document.tables.map (readModel suffixes document) := by
    rw [modelsOf, tables, enums, List.map_map]
    apply List.map_congr_left
    intro table _
    rw [Function.comp_apply, readModel]
  have iff := inferRelationships_readModels_iff relational suffixes
  rw [← models] at iff
  exact ⟨⟨read, _, _, succeeds, Document.classify_of_nodup distinct reject suffixes, iff⟩,
    keepsRelationships_of_inert suffixes⟩

/-- Orders with a state, and the table that joins them with products. -/
def ordersDocument : Document where
  format := "sql"
  tables :=
    [{ name := "orders"
       columns :=
         [{ name := "state", typeToken := "order_state", defaultText := some "'sent'" }] },
     { name := "order_products"
       columns :=
         [{ name := "order_id", typeToken := "int" }, { name := "product_id", typeToken := "int" }]
       foreignKeys :=
         [{ columns := ["order_id"], refTable := "orders", refColumns := ["id"] },
          { columns := ["product_id"], refTable := "products", refColumns := ["id"] }] }]
  enums := [{ name := "order_state", values := ["sent"] }]

/-- The state is one relationship, and the keys of the junction are two. -/
theorem inferRelationships_toDsl_ordersDocument :
    '\n' ∉ "Schema".toList ∧ RelationalDocument ordersDocument ∧
      ∃ read models enums, Document.ofDsl (ordersDocument.toDsl "Schema" "") = .ok read ∧
        read.classify true ["_id"] = .ok (models, enums) ∧
        inferRelationships models =
          [{ sourceModel := "Orders"
             sourceField := "state"
             targetModel := "OrderState"
             cardinality := .oneToOne
             displayLabel := "state" },
           { sourceModel := "OrderProducts"
             sourceField := "orders"
             targetModel := "Orders"
             cardinality := .manyToMany
             foreignKeyColumns := ["order_id"]
             referencedColumns := ["id"]
             displayLabel := "orders (M:N via OrderProducts)" },
           { sourceModel := "OrderProducts"
             sourceField := "products"
             targetModel := "Products"
             cardinality := .manyToMany
             foreignKeyColumns := ["product_id"]
             referencedColumns := ["id"]
             displayLabel := "products (M:N via OrderProducts)" }] := by
  have oneLine : '\n' ∉ "Schema".toList := by decide
  have relational : RelationalDocument ordersDocument := by
    refine ⟨.inl rfl, ?_, ?_, ?_, ?_, ?_, ?_, ?_, ?_⟩ <;> decide +kernel
  have inert : ∀ table ∈ ordersDocument.tables, ∀ column ∈ table.columns,
      ∀ text ∈ columnDefault? ordersDocument.format column, Inert text := by
    decide +kernel
  obtain ⟨⟨read, models, enums, succeeds, classified, iff⟩, keeps⟩ :=
    ordersDocument.inferRelationships_toDsl_iff "Schema" "" oneLine relational true ["_id"]
  refine ⟨oneLine, relational, read, models, enums, succeeds, classified, ?_⟩
  rw [iff.mpr (keeps inert)]
  decide +kernel

/-- A default with the escape of a line separator, and no such sign itself. -/
def separatorDocument : Document where
  format := "sql"
  tables :=
    [{ name := "t"
       columns :=
         [{ name := "c", typeToken := "TEXT", defaultText := some "\"a\\u2028x T b\"" }] }]

/-- Behind the separator a column is declared that the table does not have, and
it gives a relationship. -/
theorem inferRelationships_toDsl_separatorDocument :
    RelationalDocument separatorDocument ∧
      (∀ table ∈ separatorDocument.tables, ∀ column ∈ table.columns,
        ∀ text ∈ column.defaultText, Inert text) ∧
      separatorDocument.tables.flatMap (tableRelationships [] separatorDocument) = [] ∧
      ∃ read models enums, Document.ofDsl (separatorDocument.toDsl "Schema" "") = .ok read ∧
        read.classify false [] = .ok (models, enums) ∧
        inferRelationships models =
          [{ sourceModel := "T"
             sourceField := "x"
             targetModel := "T"
             cardinality := .oneToOne
             displayLabel := "x" }] := by
  have oneLine : '\n' ∉ "Schema".toList := by decide
  have relational : RelationalDocument separatorDocument := by
    refine ⟨.inl rfl, ?_, ?_, ?_, ?_, ?_, ?_, ?_, ?_⟩ <;> decide +kernel
  refine ⟨relational, by decide +kernel, by decide +kernel, _, _, _,
    separatorDocument.ofDsl_toDsl oneLine "", rfl, ?_⟩
  decide +kernel

end Crowsfoot
