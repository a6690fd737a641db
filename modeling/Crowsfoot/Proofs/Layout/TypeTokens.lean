import Crowsfoot.Proofs.Dsl.HeaderComments
import Crowsfoot.Proofs.Dsl.SoleColumns
import Crowsfoot.Proofs.Layout.Agreement
import Crowsfoot.Proofs.Layout.Refusals
import Crowsfoot.Proofs.Layout.StatedDefaults

/-!
# Type tokens of the export layout

A field of the export layout is typed with a token of the schema DSL.  The token
is looked up among the enums whatever the case of its letters, and the name of
the last enum that is found is written in its place; a token without such an
enum is written as it stands.  Every model and every field is then read back
under its name and with the token that was written.  So the tokens of a
description are kept exactly if no enum takes the place of another token.
-/

namespace Crowsfoot

open Crowsfoot.Text Crowsfoot.Dsl
open Json (Value)

theorem identifier_of_isIdentifier {name : String} (valid : isIdentifier name.toList = true) :
    identifier name = name :=
  (Description.Name.mk name valid).identifier_text

theorem oneLine_of_isWord {c : Char} (word : isWord c = true) : c ∉ visibleBoundaries := by
  intro visible
  have boundaries : ∀ c ∈ visibleBoundaries, isLineBoundary c = true := by decide
  exact Bool.false_ne_true ((isLineBoundary_of_isWord word).symm.trans (boundaries c visible))

/-- A table of the export layout: its names are identifiers, its defaults stay on
their lines, and every foreign key is named for a column. -/
structure ExportedTable (table : Table) : Prop where
  name : isIdentifier table.name.toList = true
  columns : ∀ column ∈ table.columns,
    isIdentifier column.name.toList = true ∧ isIdentifier column.typeToken.toList = true
  defaults : ∀ column ∈ table.columns, ∀ text ∈ columnDefault? SourceFormat.dsl.name column,
    ∀ c ∈ text.toList, isLineBoundary c = false
  keys : ∀ key ∈ table.foreignKeys, key.fieldName ∈ table.columns.map Column.name

/-- A document of the export layout. -/
structure ExportedDocument (document : Document) : Prop where
  format : document.format = SourceFormat.dsl.name
  enums : ∀ enumeration ∈ document.enums, isIdentifier enumeration.name.toList = true
  tables : ∀ table ∈ document.tables, ExportedTable table

/-- The last of some names that is a token, whatever the case of the letters. -/
def namesake? (names : List String) (token : String) : Option String :=
  (names.filter fun name => lower name == lower token).getLast?

namespace ExportedDocument

variable {document : Document} (exported : ExportedDocument document)
include exported

theorem blockName_eq {name : String} (valid : isIdentifier name.toList = true) :
    blockName document.format name = name := by
  rw [exported.format]
  exact identifier_of_isIdentifier valid

/-- A column is written with the name of the enum that stands for its type, or
with its type. -/
theorem typeName_eq {column : Column} (valid : isIdentifier column.typeToken.toList = true) :
    typeName document column =
      (namesake? (document.enums.map Enumeration.name) column.typeToken).getD
        column.typeToken := by
  have pairs : (document.enums.map fun enumeration =>
      (lower enumeration.name, blockName document.format enumeration.name)) =
        (document.enums.map Enumeration.name).map fun name => (lower name, name) := by
    rw [List.map_map]
    apply List.map_congr_left
    intro enumeration member
    rw [exported.blockName_eq (exported.enums enumeration member)]
    rfl
  have found : (enumNames document).lookup (lower column.typeToken) =
      namesake? (document.enums.map Enumeration.name) column.typeToken := by
    rw [enumNames, pairs, Assoc.lookup_ofList, List.filter_map, List.getLast?_map, Option.map_map]
    exact Option.map_id'
  have isDsl : (document.format == SourceFormat.dsl.name) = true := by
    rw [exported.format]
    rfl
  rw [typeName, found, isDsl, identifier_of_isIdentifier valid]
  cases namesake? (document.enums.map Enumeration.name) column.typeToken <;> rfl

section Table

variable {table : Table} (isTable : ExportedTable table)
include isTable

/-- Every foreign key is written on the line of a column. -/
theorem ownKeys_eq_nil : ownKeys document table = [] := by
  have isDsl : (document.format == SourceFormat.dsl.name) = true := by
    rw [exported.format]
    rfl
  refine List.filter_eq_nil_iff.mpr fun key member => ?_
  have declared : (table.columns.map Column.name).contains key.fieldName = true :=
    List.contains_iff_mem.mpr (isTable.keys key member)
  have entered : (key.fieldName, key) ∈ ((table.foreignKeys.filter fun key =>
      (table.columns.map Column.name).contains key.fieldName).map fun key =>
        (key.fieldName, key)).filter (·.1 == key.fieldName) :=
    List.mem_filter.mpr
      ⟨List.mem_map_of_mem (List.mem_filter.mpr ⟨member, declared⟩), beq_self_eq_true _⟩
  rw [inlineKeys, if_pos isDsl, Assoc.hasKey_eq_isSome_lookup, Assoc.lookup_ofList,
    Option.isSome_map, List.getLast?_isSome.mpr (List.ne_nil_of_mem entered)]
  simp

/-- A table is read back under its name, and each column under its name and with
its written type. -/
theorem block_table :
    (modelSource document table).block.table.name = table.name ∧
      (modelSource document table).block.table.columns.map
          (fun column => (column.name, column.typeToken)) =
        table.columns.map fun column => (column.name, typeName document column) := by
  have blockName := exported.blockName_eq isTable.name
  have noMap : mapLines document table = [] := by
    have kept : sourceName document.format table.name = table.name := by
      rw [exported.format]
      rfl
    rw [mapLines, blockName, kept]
    simp
  have enumNames : ∀ enumeration ∈ document.enums, '\n' ∉ enumeration.name.toList :=
    fun enumeration member =>
      (isName_of_isIdentifier (exported.enums enumeration member)).oneLine
  constructor
  · rw [table_name, modelSource, blockName]
    exact readName_of_notMem (isName_of_isIdentifier isTable.name).oneLine
  · rw [table_columns, modelSource, modelLines, exported.ownKeys_eq_nil isTable, noMap,
      List.map_nil, List.append_nil, List.append_nil, List.flatMap_map, List.map_flatMap,
      List.map_eq_flatMap]
    apply List.flatMap_congr
    intro column member
    obtain ⟨named, typed⟩ := isTable.columns column member
    have nameIsName := isName_of_isIdentifier named
    have lined : LinedColumn column :=
      { name := nameIsName.oneLine
        oneLine := fun c inName => oneLine_of_isWord (nameIsName.word c inName)
        type := (isName_of_isIdentifier typed).oneLine }
    have default : ∀ text ∈ columnDefault? document.format column, ∀ c ∈ text.toList,
        isLineBoundary c = false := by
      rw [exported.format]
      exact isTable.defaults column member
    obtain ⟨attributes, declared⟩ := exists_columnsIn_columnLine lined default enumNames
      ((inlineKeys document table).lookup column.name)
    rw [declared, identifier_of_isIdentifier named, List.map_singleton, readColumn,
      String.ofList_toList, String.ofList_toList]

end Table

end ExportedDocument

namespace Layout.Export

/-! ## Parts of descriptions -/

/-- The models of a description that have names. -/
def namedModels (description : Value) : List Value :=
  (models description).filter isNamed

/-- The fields of a model that have names. -/
def namedFields (model : Value) : List Value :=
  (model.get "fields").items.filter isNamed

/-- The enums of a description that have names. -/
def namedEnums (description : Value) : List Value :=
  (description.get "enums").items.filter isNamed

def nameOf (value : Value) : String :=
  (value.get "name").text

/-- The token that a field is typed with. -/
def typeToken (field : Value) : String :=
  if flag field "type" then (field.get "type").text else "String"

/-- A description whose names and type tokens are identifiers, and none of whose
default strings shows a line boundary. -/
structure Regular (description : Value) : Prop where
  enums : ∀ enumeration ∈ namedEnums description,
    isIdentifier (nameOf enumeration).toList = true
  models : ∀ model ∈ namedModels description, isIdentifier (nameOf model).toList = true
  fields : ∀ model ∈ namedModels description, ∀ field ∈ namedFields model,
    isIdentifier (nameOf field).toList = true ∧ isIdentifier (typeToken field).toList = true
  defaults : ∀ model ∈ namedModels description, ∀ field ∈ namedFields model,
    ShowsNoBoundary field

instance (description : Value) : Decidable (Regular description) :=
  decidable_of_iff
    ((∀ enumeration ∈ namedEnums description,
        isIdentifier (nameOf enumeration).toList = true) ∧
      (∀ model ∈ namedModels description, isIdentifier (nameOf model).toList = true) ∧
      (∀ model ∈ namedModels description, ∀ field ∈ namedFields model,
        isIdentifier (nameOf field).toList = true ∧
          isIdentifier (typeToken field).toList = true) ∧
      ∀ model ∈ namedModels description, ∀ field ∈ namedFields model, ShowsNoBoundary field)
    ⟨fun ⟨enums, models, fields, defaults⟩ => ⟨enums, models, fields, defaults⟩,
      fun regular => ⟨regular.enums, regular.models, regular.fields, regular.defaults⟩⟩

/-- The table of a model: its name, the columns of its fields, and keys that are
named for columns. -/
structure ReadFrom (model : Value) (table : Table) : Prop where
  name : table.name = nameOf model
  columns : table.columns = (namedFields model).map columnOf
  keys : ∀ key ∈ table.foreignKeys, key.fieldName ∈ table.columns.map Column.name

theorem fieldName_of_keyOf {field : Value} {key? : Option ForeignKey}
    (read : keyOf field = .ok key?) : ∀ key ∈ key?, key.fieldName = (columnOf field).name := by
  rintro key rfl
  unfold keyOf at read
  extract_lets at read
  split at read
  · obtain ⟨columns, -, read⟩ := exists_of_bind read
    obtain ⟨references, -, read⟩ := exists_of_bind read
    exact Option.some.inj (Except.ok.inj read) ▸ rfl
  · exact absurd (Except.ok.inj read) (Option.some_ne_none key).symm

theorem readFrom_of_tableOf {model : Value} {table : Table} (read : tableOf model = .ok table) :
    ReadFrom model table := by
  obtain ⟨parts, listed, read⟩ := exists_of_bind read
  obtain ⟨keys, keysRead, read⟩ := exists_of_bind read
  have named : parts.filter isNamed = namedFields model := filter_isNamed_of_listed listed
  rw [named] at keysRead read
  obtain rfl := Except.ok.inj read
  refine ⟨rfl, rfl, fun key member => ?_⟩
  obtain ⟨found, inKeys, same⟩ := List.mem_filterMap.mp member
  obtain ⟨field, inFields, isNamedFor⟩ :=
    exists_of_mem_forall₂ (forall₂_of_mapM (fun _ _ => fieldName_of_keyOf) keysRead) inKeys
  rw [isNamedFor key same]
  exact List.mem_map_of_mem (List.mem_map_of_mem inFields)

/-- A description is read as the document of its named enums and models. -/
theorem parts_of_document {description : Value} {read : Document}
    (succeeded : document description = .ok read) :
    read.format = SourceFormat.dsl.name ∧
      List.Forall₂ (fun described enumeration => enumeration.name = nameOf described)
        (namedEnums description) read.enums ∧
      List.Forall₂ ReadFrom (namedModels description) read.tables := by
  obtain ⟨parts, listed, succeeded⟩ := exists_of_bind succeeded
  obtain ⟨enums, enumsRead, succeeded⟩ := exists_of_bind succeeded
  have named : parts.filter isNamed = namedEnums description := filter_isNamed_of_listed listed
  -- A list of models is taken as it stands.
  obtain ⟨items, modelsNamed, succeeded⟩ : ∃ items : List Value,
      items.filter isNamed = namedModels description ∧
        ((items.filter isNamed).mapM tableOf >>= fun tables =>
          pure ({ format := SourceFormat.dsl.name, tables, enums } : Document)) = .ok read := by
    cases description with
    | array all => exact ⟨all, rfl, succeeded⟩
    | _ =>
        obtain ⟨items, itemsRead, succeeded⟩ := exists_of_bind succeeded
        exact ⟨items, filter_isNamed_of_listed itemsRead, succeeded⟩
  obtain ⟨tables, tablesRead, succeeded⟩ := exists_of_bind succeeded
  obtain rfl := Except.ok.inj succeeded
  rw [named] at enumsRead
  rw [modelsNamed] at tablesRead
  refine ⟨rfl, forall₂_of_mapM (fun described enumeration found => ?_) enumsRead,
    forall₂_of_mapM (fun _ _ => readFrom_of_tableOf) tablesRead⟩
  obtain ⟨values, -, found⟩ := exists_of_bind found
  exact Except.ok.inj found ▸ rfl

/-- A regular description is read as a document of the export layout. -/
theorem exportedDocument_of_regular {description : Value} (regular : Regular description)
    {read : Document} (succeeded : document description = .ok read) : ExportedDocument read := by
  obtain ⟨format, enums, tables⟩ := parts_of_document succeeded
  refine ⟨format, fun enumeration member => ?_, fun table member => ?_⟩
  · obtain ⟨described, inEnums, same⟩ := exists_of_mem_forall₂ enums member
    exact same ▸ regular.enums described inEnums
  · obtain ⟨model, inModels, readFrom⟩ := exists_of_mem_forall₂ tables member
    constructor
    · rw [readFrom.name]
      exact regular.models model inModels
    · rw [readFrom.columns, List.forall_mem_map]
      exact regular.fields model inModels
    · rw [readFrom.columns, List.forall_mem_map]
      exact fun field inFields =>
        columnDefault?_columnOf_oneLine (regular.defaults model inModels field inFields)
    · exact readFrom.keys

end Layout.Export

/-! ## Outlines -/

/-- The kind of a field that is typed with a token. -/
def tokenKind (enumNames : List String) (token : String) : ScalarKind :=
  if isDslScalar token then scalarKind SourceFormat.dsl.name token .null
  else if enumNames.contains token then .enumReference
  else .modelReference

/-- The names of models with their fields; of each field its name, its type and
its kind. -/
abbrev Outline : Type :=
  List (String × List (String × String × ScalarKind))

def Schema.outline (schema : Schema) : Outline :=
  schema.models.map fun model =>
    (model.name, model.fields.map fun field => (field.name, field.typeName, field.kind))

namespace Layout.Export

def enumNames (description : Value) : List String :=
  (namedEnums description).map nameOf

/-- The outline of a description whose type tokens are replaced. -/
def outlineWith (typeOf : String → String) (description : Value) : Outline :=
  (namedModels description).map fun model =>
    (nameOf model, (namedFields model).map fun field =>
      (nameOf field, typeOf (typeToken field),
        tokenKind (enumNames description) (typeOf (typeToken field))))

/-- The outline that a description states. -/
def outline (description : Value) : Outline :=
  outlineWith id description

/-- The token that is written for a token. -/
def writtenToken (description : Value) (token : String) : String :=
  (namesake? (enumNames description) token).getD token

/-- Whether a field keeps its token: if enums have the token as their name,
whatever the case of the letters, the last of them has exactly this name. -/
def KeepsToken (description field : Value) : Prop :=
  ∀ name ∈ namesake? (enumNames description) (typeToken field), name = typeToken field

instance (description field : Value) : Decidable (KeepsToken description field) :=
  inferInstanceAs (Decidable (∀ name ∈ namesake? (enumNames description) (typeToken field),
    name = typeToken field))

theorem writtenToken_eq_iff {description field : Value} :
    writtenToken description (typeToken field) = typeToken field ↔
      KeepsToken description field := by
  rw [writtenToken, KeepsToken]
  cases namesake? (enumNames description) (typeToken field) <;> simp

/-- A description has the outline that it states exactly if every field keeps its
token. -/
theorem outlineWith_eq_outline_iff {description : Value} :
    outlineWith (writtenToken description) description = outline description ↔
      ∀ model ∈ namedModels description, ∀ field ∈ namedFields model,
        KeepsToken description field := by
  rw [outline, outlineWith, outlineWith, List.map_inj_left]
  refine forall₂_congr fun model _ => ?_
  rw [Prod.mk.injEq, and_iff_right rfl, List.map_inj_left]
  refine forall₂_congr fun field _ => ?_
  rw [← writtenToken_eq_iff]
  constructor
  · intro same
    exact (Prod.mk.inj (Prod.mk.inj same).2).1
  · intro same
    rw [same]
    rfl

/-- The models of a document that is written and read again have the outline of
its tables, with the tokens that are written. -/
theorem map_modelsOf {description : Value} {read : Document} (exported : ExportedDocument read)
    (enums : read.enums.map Enumeration.name = enumNames description)
    {table : Table} (member : table ∈ read.tables) (suffixes : List String) :
    (fun model : Model =>
        (model.name, model.fields.map fun field => (field.name, field.typeName, field.kind)))
        (Model.ofTable (enumNames description) suffixes (modelSource read table).block.table) =
      (table.name, table.columns.map fun column =>
        (column.name, writtenToken description column.typeToken,
          tokenKind (enumNames description) (writtenToken description column.typeToken))) := by
  have isTable := exported.tables table member
  obtain ⟨name, columns⟩ := exported.block_table isTable
  have typed := congrArg (List.map fun entry : String × String =>
    (entry.1, entry.2, tokenKind (enumNames description) entry.2)) columns
  rw [List.map_map, List.map_map] at typed
  refine Prod.ext name ?_
  simp only [Model.ofTable, List.map_map]
  refine typed.trans (List.map_congr_left fun column inColumns => ?_)
  have token := exported.typeName_eq (isTable.columns column inColumns).2
  rw [enums] at token
  simp only [Function.comp_apply, token]
  rfl

section Conversion

variable {settings : Settings} (opensNoBlock : OpensNoBlock settings.headerComment.text)
  {fileName text : String} (isJson : settings.detectFormat? fileName = some .json)
  {description : Value} (read : Json.read text = .ok description)
  (layout : matchesLayout description = true) (regular : Regular description)
  {conversion : Conversion} (converted : convert settings fileName text = .ok conversion)
include opensNoBlock isJson read layout regular converted

/-- A text in the export layout is converted to the enums, models and fields that
it describes, each field with the token that is written for its own. -/
theorem outline_of_convert :
    conversion.schema.enums.map Enumeration.name = enumNames description ∧
      conversion.schema.outline = outlineWith (writtenToken description) description := by
  obtain ⟨detected, -, written, readSchema, -⟩ := convert_eq_ok_iff.mp converted
  have format : conversion.format = .json := Option.some.inj (detected.symm.trans isJson)
  simp only [format, dslTextOf, Document.ofSource, Document.ofJson, read, Document.ofValue, layout,
    if_true] at written
  cases parsed : document description with
  | error cause =>
      rw [parsed] at written
      contradiction
  | ok source =>
      rw [parsed] at written
      obtain ⟨made, ofDsl, classified, -⟩ := schemaOf_eq_ok readSchema
      have passed : PassedOver (originComment settings.headerComment.text
          (if SourceFormat.json.name == "" then source.format
            else SourceFormat.json.name)).toList := by
        rw [written_origin]
        exact (passedOver_originComment_iff _ .json).mpr opensNoBlock
      rw [← Except.ok.inj written, source.ofDsl_toDsl_of_passedOver passed] at ofDsl
      obtain rfl := Except.ok.inj ofDsl
      obtain ⟨models, enums⟩ := blocks_of_classify classified
      have exported := exportedDocument_of_regular regular parsed
      obtain ⟨-, enumsRead, tablesRead⟩ := parts_of_document parsed
      have sourceEnums : source.enums.map Enumeration.name = enumNames description :=
        map_eq_of_forall₂ enumsRead fun _ _ same => same
      have enumsKept : conversion.schema.enums.map Enumeration.name = enumNames description := by
        rw [enums, List.map_map, ← sourceEnums]
        apply List.map_congr_left
        intro enumeration member
        have valid := exported.enums enumeration member
        rw [Function.comp_apply, enumeration_name, enumSource, exported.blockName_eq valid]
        exact readName_of_notMem (isName_of_isIdentifier valid).oneLine
      refine ⟨enumsKept, ?_⟩
      rw [enums] at enumsKept
      rw [Schema.outline, models, modelsOf, enumsKept, List.map_map, List.map_map]
      calc _
        _ = source.tables.map fun table => (table.name, table.columns.map fun column =>
              (column.name, writtenToken description column.typeToken,
                tokenKind (enumNames description)
                  (writtenToken description column.typeToken))) :=
            List.map_congr_left fun table member =>
              map_modelsOf exported sourceEnums member settings.foreignKeySuffixes
        _ = _ := by
            refine map_eq_of_forall₂ tablesRead fun model table readFrom => ?_
            rw [readFrom.name, readFrom.columns, List.map_map]
            rfl

/-- The enums of a text in the export layout keep their names, and the schema has
the outline that the text states, with the token that is written for each token.
So it has exactly this outline if and only if every field keeps its token. -/
theorem outline_convert_iff :
    conversion.schema.enums.map Enumeration.name = enumNames description ∧
      conversion.schema.outline = outlineWith (writtenToken description) description ∧
      (conversion.schema.outline = outline description ↔
        ∀ model ∈ namedModels description, ∀ field ∈ namedFields model,
          KeepsToken description field) := by
  obtain ⟨enums, outlined⟩ :=
    outline_of_convert opensNoBlock isJson read layout regular converted
  refine ⟨enums, outlined, ?_⟩
  rw [outlined]
  exact outlineWith_eq_outline_iff

end Conversion

theorem opensNoBlock_usual : OpensNoBlock ({} : Settings).headerComment.text :=
  opensNoBlock_of_oneLine Settings.oneLine_standard

/-- A description with a block has a text that is converted. -/
theorem exists_convert_usual {description : Description}
    (filled : description.enums ≠ [] ∨ description.models ≠ []) :
    ∃ text conversion, Json.read text = .ok description.exportValue ∧
      convert {} "s.json" text = .ok conversion := by
  have read := Json.read_write Json.readsBack_quoteAscii description.readable_exportValue .line
  obtain ⟨-, conversion, -, converted, -⟩ :=
    Description.exists_convert Settings.oneLine_standard Description.isDsl_usual
      Description.isJson_usual read filled
  exact ⟨_, conversion, read, converted⟩

/-- All fields of the shops keep their tokens. -/
theorem outline_convert_shops :
    OpensNoBlock ({} : Settings).headerComment.text ∧
      ({} : Settings).detectFormat? "s.json" = some .json ∧
      matchesLayout Description.shops.exportValue = true ∧
      Regular Description.shops.exportValue ∧
      ∃ text conversion, Json.read text = .ok Description.shops.exportValue ∧
        convert {} "s.json" text = .ok conversion ∧
        conversion.schema.outline = outline Description.shops.exportValue := by
  have layout : matchesLayout Description.shops.exportValue = true := by decide +kernel
  have regular : Regular Description.shops.exportValue := by decide +kernel
  have keeps : ∀ model ∈ namedModels Description.shops.exportValue,
      ∀ field ∈ namedFields model, KeepsToken Description.shops.exportValue field := by
    decide +kernel
  obtain ⟨text, conversion, read, converted⟩ :=
    @exists_convert_usual Description.shops (.inl (List.cons_ne_nil _ _))
  obtain ⟨-, -, kept⟩ :=
    outline_convert_iff opensNoBlock_usual Description.isJson_usual read layout regular converted
  exact ⟨opensNoBlock_usual, Description.isJson_usual, layout, regular, text, conversion, read,
    converted, kept.mpr keeps⟩

/-- A field of the type `e` comes out as a reference to the enum `E`. -/
theorem not_outline_recased :
    Regular Description.recased.exportValue ∧
      outline Description.recased.exportValue = [("T", [("a", "e", .modelReference)])] ∧
      ∃ text conversion, Json.read text = .ok Description.recased.exportValue ∧
        convert {} "s.json" text = .ok conversion ∧
        conversion.schema.outline = [("T", [("a", "E", .enumReference)])] := by
  have layout : matchesLayout Description.recased.exportValue = true := by decide +kernel
  have regular : Regular Description.recased.exportValue := by decide +kernel
  obtain ⟨text, conversion, read, converted⟩ :=
    @exists_convert_usual Description.recased (.inl (List.cons_ne_nil _ _))
  obtain ⟨-, outlined⟩ :=
    outline_of_convert opensNoBlock_usual Description.isJson_usual read layout regular converted
  refine ⟨regular, by decide +kernel, text, conversion, read, converted, outlined.trans ?_⟩
  decide +kernel

end Layout.Export

end Crowsfoot
