import Crowsfoot.Proofs.Dsl.ValueLines
import Crowsfoot.Proofs.Parts

/-!
# Faithfulness of the written text

A document that is written and read again comes back with its enums, its
tables, and in each table its columns and after them one column for each
foreign key that has no column of its own.  The exceptions are known exactly:
a value that keeps a line feed at its end, and a default whose text cuts its
line or holds a mark that its column lacks.
-/

namespace Crowsfoot

open Crowsfoot.Text

namespace Dsl

/-- The column that a foreign key with a line of its own is read back as. -/
def bridgedKey (format : String) (key : ForeignKey) : Column where
  name := keyFieldName key
  typeToken := blockName format key.refTable
  constraints := relationAttribute key
  nullable := false

theorem isName_keyFieldName {key : ForeignKey} (plain : PlainKey key) :
    IsName (keyFieldName key).toList := by
  unfold keyFieldName
  split
  · exact isName_identifier plain.refTable
  · exact isName_identifier plain.fieldName

theorem columnsIn_relationLine (format : String) {key : ForeignKey} (plain : PlainKey key) :
    columnsIn (relationLine format key).toList = [bridgedKey format key] := by
  obtain ⟨solid, nonempty⟩ := solid_relationAttribute key
  have line : (relationLine format key).toList = ' ' :: ' ' :: ((keyFieldName key).toList ++
      ' ' :: ((blockName format key.refTable).toList ++
        (modifierChars .none ++ ' ' :: (relationAttribute key).toList))) := by
    simp [relationLine, modifierChars]
  have id := hasAttribute_relation (by decide : "@id" ∈ markNames) key
  have unique := hasAttribute_relation (by decide : "@unique" ∈ markNames) key
  have default := argument?_of_passes (passes_relationAttribute key)
  rw [line, columnsIn_attributes (isName_keyFieldName plain) (isName_blockName plain.refTable) _
    solid.first nonempty plain.oneLine, trimEnd_of_solid solid]
  simp only [readColumn, String.ofList_toList, isPrimaryKey, isUnique, id, unique, default,
    bridgedKey]
  rfl

/-- The lines that keep a source name declare no columns. -/
theorem columnsIn_mapLines {document : Document} {table : Table} (named : OneLine table.name)
    {line : String} (member : line ∈ mapLines document table) : columnsIn line.toList = [] := by
  unfold mapLines at member
  split at member
  · simp only [List.mem_cons, List.not_mem_nil, or_false] at member
    rcases member with rfl | rfl
    · rfl
    · have spelled : ("  " ++ mapAttribute "@@" table.name).toList =
          [' ', ' '] ++ (mapAttribute "@@" table.name).toList := by
        simp
      have begun : (mapAttribute "@@" table.name).toList =
          "@@".toList ++ ("map(".toList ++ Json.quoteChars table.name.toList ++ [')']) := by
        simp [mapAttribute]
      have solid : Solid (mapAttribute "@@" table.name).toList := by
        constructor
        · rw [begun]
          exact stops_cons_iff.mpr rfl
        · rw [begun, ← List.append_assoc, List.reverse_append]
          exact stops_cons_iff.mpr rfl
      have stripped : strip ("  " ++ mapAttribute "@@" table.name).toList =
          (mapAttribute "@@" table.name).toList := by
        rw [spelled, strip_append_of_blank (by decide), strip_of_solid solid]
      have oneLine : ∀ c ∈ ("  " ++ mapAttribute "@@" table.name).toList,
          isLineBoundary c = false := by
        intro c inLine
        rw [spelled] at inLine
        rcases List.mem_append.mp inLine with gap | inMap
        · have blanks : ∀ c ∈ [' ', ' '], isLineBoundary c = false := by decide
          exact blanks c gap
        · exact mapAttribute_oneLine (by decide) named c inMap
      have aside : isAside (mapAttribute "@@" table.name).toList = true := by
        rw [begun, isAside, literal?_append]
        simp
      rw [columnsIn, declarations, strippedLines, strippedPieces_of_none _ oneLine, stripped]
      · simp [aside]
      · rw [stripped, begun]
        simp
  · contradiction

/-- A table of plain columns and keys, with an inert name. -/
structure PlainTable (table : Table) : Prop where
  name : '\n' ∉ table.name.toList
  inert : Inert table.name
  columns : ∀ column ∈ table.columns, PlainColumn column
  keys : ∀ key ∈ table.foreignKeys, PlainKey key

instance (table : Table) : Decidable (PlainTable table) :=
  decidable_of_iff
    ('\n' ∉ table.name.toList ∧ Inert table.name ∧
      (∀ column ∈ table.columns, PlainColumn column) ∧ ∀ key ∈ table.foreignKeys, PlainKey key)
    ⟨fun ⟨name, inert, columns, keys⟩ => ⟨name, inert, columns, keys⟩,
      fun plain => ⟨plain.name, plain.inert, plain.columns, plain.keys⟩⟩

/-- A table whose columns and keys have names without line feeds, and whose own
name and those of its columns stay on their lines as literals. -/
structure LinedTable (table : Table) : Prop where
  name : '\n' ∉ table.name.toList
  oneLine : OneLine table.name
  columns : ∀ column ∈ table.columns, LinedColumn column
  keys : ∀ key ∈ table.foreignKeys, PlainKey key

theorem PlainTable.lined {table : Table} (plain : PlainTable table) : LinedTable table where
  name := plain.name
  oneLine := plain.inert.oneLine
  columns := fun column member => (plain.columns column member).lined
  keys := plain.keys

/-- A document of plain tables and of enums with inert values; no default is
the literal of a text ending in a backslash. -/
structure PlainDocument (document : Document) : Prop where
  enumNames : ∀ enumeration ∈ document.enums, '\n' ∉ enumeration.name.toList
  values : ∀ enumeration ∈ document.enums, ∀ value ∈ enumeration.values, Inert value
  tables : ∀ table ∈ document.tables, PlainTable table
  closed : ∀ table ∈ document.tables, ∀ column ∈ table.columns,
    ∀ text ∈ columnDefault? document.format column, ¬RunsOn text

/-- The column that a column of a table is read back as, with its key if it
has one. -/
def bridgedColumnOf (document : Document) (table : Table) (column : Column) : Column :=
  bridgedColumn document column ((inlineKeys document table).lookup column.name)

/-- The table that a table is read back as. -/
def bridgedTable (document : Document) (table : Table) : Table where
  name := blockName document.format table.name
  columns := table.columns.map (bridgedColumnOf document table) ++
    (ownKeys document table).map (bridgedKey document.format)

/-- The enum that an enum is read back as. -/
def bridgedEnum (format : String) (enumeration : Enumeration) : Enumeration where
  name := blockName format enumeration.name
  values := enumeration.values.map identifier

/-- The document that a document is read back as. -/
def bridged (document : Document) : Document where
  format := SourceFormat.dsl.name
  tables := document.tables.map (bridgedTable document)
  enums := document.enums.map (bridgedEnum document.format)

/-- The key of a column is one of the keys of its table. -/
theorem mem_of_lookup_inlineKeys {document : Document} {table : Table} {name : String}
    {key : ForeignKey} (found : (inlineKeys document table).lookup name = some key) :
    key ∈ table.foreignKeys := by
  unfold inlineKeys at found
  split at found
  · obtain ⟨declared, member, same⟩ :=
      List.mem_map.mp (Assoc.mem_of_mem_ofList (Assoc.mem_of_lookup found))
    obtain ⟨-, rfl⟩ := Prod.mk.inj same
    exact (List.mem_filter.mp member).1
  · contradiction

theorem readName_of_notMem {name : String} (oneLine : '\n' ∉ name.toList) :
    readName name = name := by
  rw [readName, withoutFinalLineFeed_of_notMem oneLine, String.ofList_toList]

/-- A name that is read is the name that was written, unless that had a line
feed in it. -/
theorem readName_identifier_eq_iff (name : String) :
    readName (identifier name) = identifier name ↔ '\n' ∉ (identifier name).toList := by
  constructor
  · intro same
    have isName := isName_identifierChars name.toList
    have kept := congrArg String.toList same
    rw [readName, String.toList_ofList, toList_identifier] at kept
    rw [kept] at isName
    rw [toList_identifier]
    exact isName.oneLine
  · exact readName_of_notMem

/-- A table is read from the lines of its columns and its own keys. -/
theorem table_modelSource (document : Document) {table : Table} (lined : LinedTable table) :
    (modelSource document table).block.table =
      { name := blockName document.format table.name
        columns := (table.columns.flatMap fun column => columnsIn (columnLine document column
          ((inlineKeys document table).lookup column.name)).toList) ++
            (ownKeys document table).map (bridgedKey document.format) } := by
  have keys : (ownKeys document table).flatMap
      (fun key => columnsIn (relationLine document.format key).toList) =
        (ownKeys document table).map (bridgedKey document.format) := by
    rw [List.map_eq_flatMap]
    apply List.flatMap_congr
    intro key keyMember
    exact columnsIn_relationLine _ (lined.keys key (List.mem_of_mem_filter keyMember))
  have maps : (mapLines document table).flatMap (fun line => columnsIn line.toList) = [] :=
    List.flatMap_eq_nil_iff.mpr fun line lineMember => columnsIn_mapLines lined.oneLine lineMember
  have name : readName (blockName document.format table.name) =
      blockName document.format table.name :=
    readName_of_notMem (lineFeed_notMem_blockName lined.name)
  rw [table_block, modelSource, modelLines, List.flatMap_append, List.flatMap_append,
    List.flatMap_map, List.flatMap_map, keys, maps, List.append_nil, name]

section Document

variable {document : Document} (plain : PlainDocument document)
include plain

/-- A table is read back exactly if its columns survive. -/
theorem table_eq_iff {table : Table} (member : table ∈ document.tables) :
    (modelSource document table).block.table = bridgedTable document table ↔
      ∀ column ∈ table.columns, Survives document.format column := by
  have plainTable := plain.tables table member
  have plainKeys : ∀ column ∈ table.columns,
      ∀ key ∈ (inlineKeys document table).lookup column.name, PlainKey key :=
    fun column _ key found => plainTable.keys key (mem_of_lookup_inlineKeys found)
  rw [table_modelSource document plainTable.lined, bridgedTable, Table.mk.injEq,
    List.append_left_inj]
  rw [flatMap_eq_map_iff (Survives document.format)]
  · simp
  · intro column inTable survives
    exact columnsIn_columnLine_of_survives (plainTable.columns column inTable) plain.enumNames
      (plain.closed table member column inTable) (plainKeys column inTable) survives
  · intro column inTable lost
    obtain ⟨wrong, later, read, differs⟩ := columnsIn_columnLine_of_not_survives
      (plainTable.columns column inTable) plain.enumNames (plain.closed table member column inTable)
      (plainKeys column inTable) lost
    refine ⟨wrong, later, read, ?_⟩
    intro same
    rw [same, bridgedColumnOf] at differs
    simp only [ne_eq, not_true_eq_false, or_self] at differs

/-! ## Enums -/

/-- An enum is read from the lines of its values. -/
theorem enumeration_enumSource {enumeration : Enumeration} (member : enumeration ∈ document.enums) :
    (enumSource document.format enumeration).block.enumeration =
      { name := blockName document.format enumeration.name
        values := enumeration.values.map fun value => readName (identifier value) } := by
  have name : readName (blockName document.format enumeration.name) =
      blockName document.format enumeration.name :=
    readName_of_notMem (lineFeed_notMem_blockName (plain.enumNames enumeration member))
  have values : readValues enumeration =
      enumeration.values.map fun value => readName (identifier value) := by
    rw [readValues, List.map_eq_flatMap]
    apply List.flatMap_congr
    intro value inValues
    have stays := staysOnLine_of_oneLine (plain.values enumeration member value inValues).oneLine
    rw [(strayValues_eq_nil_iff value).mpr stays]
  rw [enumeration_block, ← enumeration_values, values_enumSource, values, enumSource, name]

/-- An enum is read back exactly if its values end in no line feed. -/
theorem enumeration_eq_iff {enumeration : Enumeration} (member : enumeration ∈ document.enums) :
    (enumSource document.format enumeration).block.enumeration =
        bridgedEnum document.format enumeration ↔
      ∀ value ∈ enumeration.values, '\n' ∉ (identifier value).toList := by
  rw [enumeration_enumSource plain member, bridgedEnum, Enumeration.mk.injEq, List.map_inj_left]
  simp only [true_and, readName_identifier_eq_iff]

end Document

/-- A document that loses nothing: no identifier of a value keeps a line feed,
and every column survives. -/
structure Lossless (document : Document) : Prop where
  values : ∀ enumeration ∈ document.enums, ∀ value ∈ enumeration.values,
    '\n' ∉ (identifier value).toList
  columns : ∀ table ∈ document.tables, ∀ column ∈ table.columns,
    Survives document.format column

end Dsl

open Dsl

/-- A written document is read again, and it comes back with all its enums,
values, tables, columns and keys exactly if it loses nothing. -/
theorem Document.ofDsl_toDsl_eq_bridged_iff (document : Document) (header origin : String)
    (oneLine : '\n' ∉ header.toList) (plain : PlainDocument document) :
    ∃ read, Document.ofDsl (document.toDsl header origin) = .ok read ∧
      (read = bridged document ↔ Lossless document) := by
  refine ⟨_, document.ofDsl_toDsl oneLine origin, ?_⟩
  rw [bridged, Document.mk.injEq, List.map_inj_left, List.map_inj_left]
  constructor
  · rintro ⟨-, tables, enums⟩
    constructor
    · exact fun enumeration member =>
        (enumeration_eq_iff plain member).mp (enums enumeration member)
    · exact fun table member => (table_eq_iff plain member).mp (tables table member)
  · intro lossless
    refine ⟨rfl, ?_, ?_⟩
    · exact fun table member =>
        (table_eq_iff plain member).mpr (lossless.columns table member)
    · exact fun enumeration member =>
        (enumeration_eq_iff plain member).mpr (lossless.values enumeration member)

/-- A document with a default in quotes, a foreign key, and names that are
changed. -/
def shopDocument : Document where
  format := "sql"
  tables :=
    [{ name := "line items"
       columns := [{ name := "unit price", typeToken := "text", defaultText := some "'(5\")'" }]
       foreignKeys := [{ columns := ["order_id"], refTable := "orders", refColumns := ["id"] }] }]
  enums := [{ name := "order status", values := ["in transit"] }]

/-- All of the document is read back. -/
theorem ofDsl_toDsl_shopDocument :
    '\n' ∉ "Schema".toList ∧ PlainDocument shopDocument ∧
      Document.ofDsl (shopDocument.toDsl "Schema" "") = .ok (bridged shopDocument) := by
  have oneLine : '\n' ∉ "Schema".toList := by decide
  have ends : ∀ table ∈ shopDocument.tables, ∀ column ∈ table.columns,
      ∀ text ∈ columnDefault? "sql" column, ¬['\\', '\\', '\x22'] <:+ text.toList := by
    decide +kernel
  have plain : PlainDocument shopDocument := by
    refine ⟨by decide +kernel, by decide +kernel, by decide +kernel, ?_⟩
    intro table inDocument column inTable text written runsOn
    exact ends table inDocument column inTable text written runsOn.suffix
  have lossless : Lossless shopDocument := ⟨by decide +kernel, by decide +kernel⟩
  obtain ⟨read, succeeds, iff⟩ := shopDocument.ofDsl_toDsl_eq_bridged_iff "Schema" "" oneLine plain
  exact ⟨oneLine, plain, by rw [succeeds, iff.mpr lossless]⟩

/-- A document with a value that ends in a line feed. -/
def lineFeedDocument : Document where
  format := "sql"
  enums := [{ name := "t", values := ["a\n"] }]

/-- The line feed is lost, although the identifier of the value keeps it. -/
theorem ofDsl_toDsl_lineFeedDocument :
    PlainDocument lineFeedDocument ∧
      (bridged lineFeedDocument).enums = [{ name := "T", values := ["a\n"] }] ∧
      ∃ read, Document.ofDsl (lineFeedDocument.toDsl "Schema" "") = .ok read ∧
        read.enums = [{ name := "T", values := ["a"] }] := by
  have plain : PlainDocument lineFeedDocument :=
    ⟨by decide +kernel, by decide +kernel, by simp [lineFeedDocument],
      by simp [lineFeedDocument]⟩
  refine ⟨plain, by decide +kernel, _, lineFeedDocument.ofDsl_toDsl (by decide) "", ?_⟩
  decide +kernel

end Crowsfoot
