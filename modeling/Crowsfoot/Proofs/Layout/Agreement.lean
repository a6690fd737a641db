import Crowsfoot.Proofs.Dsl.Bridge
import Crowsfoot.Proofs.Layout.DescribedLines
import Crowsfoot.Proofs.Parts
import Crowsfoot.Proofs.Schema.Integrity

/-!
# Agreement of two notations

A description is converted from its text in the schema DSL and from its value
in the export layout.  Both give a schema, and it is the same one exactly if
the export layout keeps every field: a type is looked up among the enums
whatever the case of its letters, and a type that numbers itself comes with the
default that says so.
-/

namespace Crowsfoot

open Crowsfoot.Text Crowsfoot.Dsl

namespace Description

/-- The source of the block of an enum. -/
def Enum.source (enumeration : Enum) : BlockSource :=
  enumSource SourceFormat.dsl.name enumeration.enumeration

/-- The source of the block of a model whose fields have certain lines. -/
def Model.source (line : Field → String) (model : Model) : BlockSource where
  kind := .model
  name := model.name.text
  lines := model.fields.map line

/-- The document that is read where fields have certain lines. -/
def documentWith (description : Description) (line : Field → String) : Document where
  format := SourceFormat.dsl.name
  tables := description.models.map fun model => (model.source line).block.table
  enums := description.enums.map fun enumeration => enumeration.source.block.enumeration

/-- The line of the column of a field. -/
def columnLine (description : Description) (field : Field) : String :=
  Dsl.columnLine description.document field.column field.key?

theorem Enum.block_eq (enumeration : Enum) : enumeration.block = enumeration.source.text := by
  have name : blockName SourceFormat.dsl.name enumeration.enumeration.name =
      enumeration.name.text :=
    enumeration.name.blockName_text
  have lines : enumeration.enumeration.values.map valueLine =
      enumeration.values.map fun value => "  " ++ value.text := by
    rw [Enum.enumeration, texts, List.map_map]
    apply List.map_congr_left
    intro value _
    simp [valueLine, value.identifier_text]
  rw [block, source, BlockSource.text, enumSource, name, lines]
  rfl

theorem Model.block_eq (model : Model) : model.block = (model.source Field.line).text :=
  rfl

theorem Name.moves (name : Name) : Moves .plain name.text.toList .plain := by
  have moves := Moves.identifier name.text
  rwa [name.identifier_text] at moves

theorem Name.readName_text (name : Name) : readName name.text = name.text :=
  readName_of_notMem name.oneLine

/-- Every line of a field moves the scan through plain text. -/
theorem Field.moves_line (field : Field) : Moves .plain field.line.toList .plain := by
  have gap : Moves .plain "  ".toList .plain := Moves.quiet (by decide)
  have blank : Moves .plain " ".toList .plain := Moves.quiet (by decide)
  have modifier : Moves .plain field.modifier.toList .plain := by
    unfold Field.modifier
    split
    · exact Moves.quiet (by decide)
    · split
      · exact Moves.quiet (by decide)
      · exact Moves.nil .plain
  rw [line, String.toList_append]
  apply gap.append
  apply Moves.joined blank
  intro text member
  rcases List.mem_cons.mp member with rfl | member
  · exact field.name.moves
  rcases List.mem_cons.mp member with rfl | inAttributes
  · rw [String.toList_append]
    exact field.type.moves.append modifier
  · rw [← field.columnAttributes_standIn] at inAttributes
    exact Moves.columnAttribute inAttributes

theorem Enum.sound_source (enumeration : Enum) : enumeration.source.Sound where
  isName := by
    rw [source, enumSource, blockName, toList_identifier]
    exact isName_identifierChars _
  moves := fun _ member => Moves.enumLine member

theorem Model.sound_source (model : Model) : (model.source Field.line).Sound where
  isName := by
    rw [source, withoutFinalLineFeed_of_notMem model.name.oneLine]
    exact model.name.isName
  moves := fun text member => by
    obtain ⟨field, -, rfl⟩ := List.mem_map.mp member
    exact field.moves_line

/-- The text of a description is read with the lines of its fields. -/
theorem ofDsl_dslText (description : Description) :
    Document.ofDsl description.dslText = .ok (description.documentWith Field.line) := by
  have blocks : description.enums.map Enum.block ++ description.models.map Model.block =
      (description.enums.map Enum.source ++
        description.models.map (Model.source Field.line)).map BlockSource.text := by
    have enums : Enum.block = BlockSource.text ∘ Enum.source := funext Enum.block_eq
    have models : Model.block = BlockSource.text ∘ Model.source Field.line :=
      funext Model.block_eq
    rw [List.map_append, List.map_map, List.map_map, enums, models]
  have sound : ∀ source ∈ description.enums.map Enum.source ++
      description.models.map (Model.source Field.line), source.Sound := by
    intro source member
    rcases List.mem_append.mp member with inEnums | inModels
    · obtain ⟨enumeration, -, rfl⟩ := List.mem_map.mp inEnums
      exact enumeration.sound_source
    · obtain ⟨model, -, rfl⟩ := List.mem_map.mp inModels
      exact model.sound_source
  rw [Document.ofDsl, dslText, blocks, blocksFrom_joined sound, Except.map,
    documentOf_sources (fun _ => rfl) fun _ => rfl]
  rfl

/-! ## Blocks for the export layout -/

section Model

variable (description : Description) (model : Model)

theorem fieldName_of_key? {field : Field} {key : ForeignKey} (found : field.key? = some key) :
    key.fieldName = field.name.text := by
  obtain ⟨relation, -, rfl⟩ := Option.map_eq_some_iff.mp found
  rfl

/-- Keys are named for their fields, so no two have one name. -/
theorem Model.nodup_fieldNames :
    ((model.fields.filterMap Field.key?).map ForeignKey.fieldName).Nodup := by
  have among : ∀ fields : List Field, ((fields.filterMap Field.key?).map
      ForeignKey.fieldName).Sublist (fields.map fun field => field.name.text) := by
    intro fields
    induction fields with
    | nil => exact List.Sublist.slnil
    | cons field later ih =>
        rw [List.filterMap_cons, List.map_cons]
        cases found : field.key? with
        | none => exact ih.cons _
        | some key =>
            rw [List.map_cons, fieldName_of_key? found]
            exact ih.cons_cons _
  exact (among model.fields).nodup model.distinct

/-- All keys are written on the lines of their fields. -/
theorem inlineKeys_table : inlineKeys description.document model.table =
    (model.fields.filterMap Field.key?).map fun key => (key.fieldName, key) := by
  have all : (model.fields.filterMap Field.key?).filter (fun key =>
      (model.table.columns.map Column.name).contains key.fieldName) =
        model.fields.filterMap Field.key? := by
    apply List.filter_eq_self.mpr
    intro key member
    obtain ⟨field, inFields, found⟩ := List.mem_filterMap.mp member
    rw [fieldName_of_key? found, List.contains_iff_mem]
    exact List.mem_map_of_mem (List.mem_map_of_mem inFields)
  have distinct : (Assoc.keys ((model.fields.filterMap Field.key?).map fun key =>
      (key.fieldName, key))).Nodup := by
    rw [Assoc.keys, List.map_map]
    exact model.nodup_fieldNames
  have format : (description.document.format == SourceFormat.dsl.name) = true := rfl
  rw [inlineKeys, if_pos format]
  exact (congrArg (fun keys => Assoc.ofList (keys.map fun key => (key.fieldName, key))) all).trans
    (Assoc.ofList_of_nodup distinct)

/-- Every field has its own key on its line. -/
theorem lookup_inlineKeys {field : Field} (member : field ∈ model.fields) :
    (inlineKeys description.document model.table).lookup field.name.text = field.key? := by
  rw [inlineKeys_table]
  cases found : field.key? with
  | some key =>
      apply Assoc.lookup_of_mem
      · rw [Assoc.keys, List.map_map]
        exact model.nodup_fieldNames
      · rw [← fieldName_of_key? found]
        exact List.mem_map_of_mem (List.mem_filterMap.mpr ⟨field, member, found⟩)
  | none =>
      rw [List.lookup_eq_none_iff]
      intro entry inKeys
      obtain ⟨key, inModel, rfl⟩ := List.mem_map.mp inKeys
      obtain ⟨other, inFields, otherFound⟩ := List.mem_filterMap.mp inModel
      rw [bne_iff_ne, fieldName_of_key? otherFound]
      intro sameName
      obtain rfl := List.inj_on_of_nodup_map model.distinct member inFields sameName
      rw [found] at otherFound
      contradiction

theorem ownKeys_table : ownKeys description.document model.table = [] := by
  apply List.filter_eq_nil_iff.mpr
  intro key member
  obtain ⟨field, inFields, found⟩ := List.mem_filterMap.mp member
  rw [Assoc.hasKey_eq_isSome_lookup, fieldName_of_key? found, lookup_inlineKeys _ _ inFields,
    found]
  simp

theorem modelSource_table :
    modelSource description.document model.table = model.source description.columnLine := by
  have name : blockName SourceFormat.dsl.name model.table.name = model.name.text :=
    model.name.blockName_text
  have columns : (model.table.columns.map fun column =>
      Dsl.columnLine description.document column
        ((inlineKeys description.document model.table).lookup column.name)) =
          model.fields.map description.columnLine := by
    rw [Model.table, List.map_map]
    apply List.map_congr_left
    intro field inFields
    exact congrArg (Dsl.columnLine description.document field.column)
      (lookup_inlineKeys description model inFields)
  have noMap : mapLines description.document model.table = [] := by
    have same : blockName description.document.format model.table.name =
        sourceName description.document.format model.table.name := name
    rw [mapLines, same]
    simp
  rw [modelSource, modelLines, columns, ownKeys_table, noMap, List.map_nil, List.append_nil,
    List.append_nil]
  exact congrArg (fun name => ({ kind := .model, name := name, lines := _ } : BlockSource)) name

end Model

/-- The text that is written for the export layout is read with the lines of
its columns. -/
theorem ofDsl_toDsl_document (description : Description) {header : String}
    (oneLine : '\n' ∉ header.toList) (origin : String) :
    Document.ofDsl (description.document.toDsl header origin) =
      .ok (description.documentWith description.columnLine) := by
  have models : (fun model => (modelSource description.document model).block.table) ∘
      Model.table = fun model => (model.source description.columnLine).block.table :=
    funext fun model => congrArg (·.block.table) (modelSource_table description model)
  have tables : description.document.tables = description.models.map Model.table := rfl
  have enums : description.document.enums = description.enums.map Enum.enumeration := rfl
  rw [description.document.ofDsl_toDsl oneLine origin, tables, enums, List.map_map, List.map_map,
    models]
  rfl

/-! ## Schemas -/

/-- Every name of a block is read as it stands. -/
theorem distinctNames_documentWith (description : Description) (line : Field → String) :
    (description.documentWith line).DistinctNames := by
  have tables : (description.documentWith line).tables.map Table.name =
      description.models.map fun model => model.name.text := by
    rw [documentWith, List.map_map]
    apply List.map_congr_left
    intro model _
    have read := table_name (model.source line)
    have name : (model.source line).name = model.name.text := rfl
    rw [Function.comp_apply, read, name, model.name.readName_text]
  have enums : (description.documentWith line).enums.map Enumeration.name =
      description.enums.map fun enumeration => enumeration.name.text := by
    rw [documentWith, List.map_map]
    apply List.map_congr_left
    intro enumeration _
    have read := enumeration_name enumeration.source
    have name : enumeration.source.name = enumeration.name.text := enumeration.name.blockName_text
    rw [Function.comp_apply, read, name, enumeration.name.readName_text]
  rw [Document.DistinctNames, tables, enums]
  exact description.distinct

theorem isEmpty_documentWith (description : Description) (line : Field → String) :
    (description.documentWith line).isEmpty =
      (description.models.isEmpty && description.enums.isEmpty) := by
  rw [Document.isEmpty, documentWith, List.isEmpty_map, List.isEmpty_map]

end Description

/-- A text that is not blank is converted as the document that it is read as, and
refused if this document declares nothing. -/
theorem convert_of_distinctNames {settings : Settings} {fileName text dslText : String}
    {format : SourceFormat} {document : Document}
    (detected : settings.detectFormat? fileName = some format)
    (notBlank : isBlankText text = false)
    (written : dslTextOf settings format text = .ok dslText)
    (read : Document.ofDsl dslText = .ok document) (distinct : document.DistinctNames) :
    convert settings fileName text =
      if document.isEmpty then .error .noDefinitions
      else .ok
        { schema := document.schema settings.foreignKeySuffixes
          format := format
          dslText := dslText } := by
  have sameEmpty : (document.schema settings.foreignKeySuffixes).isEmpty = document.isEmpty := by
    simp [Schema.isEmpty, Document.isEmpty, Document.schema, modelsOf]
  rw [← sameEmpty]
  simp [convert, detected, notBlank, written, schemaOf_of_distinctNames settings read distinct]

namespace Description

/-- What is compared of the columns of a model can be told from its fields. -/
theorem views_ofTable (enumNames suffixes : List String) (line : Field → String) (model : Model) :
    (Crowsfoot.Model.ofTable enumNames suffixes (model.source line).block.table).fields.map
        (fun field => (field.typeName, field.defaultKind)) =
      model.fields.flatMap fun field => (columnsIn (line field).toList).map view := by
  have columns : (model.source line).block.table.columns =
      model.fields.flatMap fun field => columnsIn (line field).toList := by
    rw [table_columns, Model.source, List.flatMap_map]
  rw [Crowsfoot.Model.ofTable, columns, ← List.map_flatMap, List.map_map]
  rfl

/-- The two documents of a description give one schema exactly if all fields are
kept. -/
theorem schema_eq_iff (description : Description) (suffixes : List String) :
    (description.documentWith Field.line).schema suffixes =
        (description.documentWith description.columnLine).schema suffixes ↔
      ∀ model ∈ description.models, ∀ field ∈ model.fields, description.Keeps field := by
  constructor
  · intro same model member
    have models := congrArg Schema.models same
    simp only [Document.schema, modelsOf, documentWith, List.map_map] at models
    have views := congrArg (fun built => built.fields.map fun field =>
      (field.typeName, field.defaultKind)) (List.map_inj_left.mp models model member)
    simp only [Function.comp_apply, views_ofTable] at views
    exact (flatMap_eq_flatMap_iff_alike description.Keeps
      (fun field _ keeps =>
        congrArg (fun text => (columnsIn text.toList).map view) keeps.columnLine_eq.symm)
      (fun field _ lost => view_ne_of_not_keeps lost)).mp views
  · intro keeps
    have sources : ∀ model ∈ description.models,
        (model.source Field.line).block.table =
          (model.source description.columnLine).block.table := by
      intro model member
      have lines : model.fields.map Field.line = model.fields.map description.columnLine :=
        List.map_congr_left fun field inFields =>
          (keeps model member field inFields).columnLine_eq.symm
      rw [Model.source, Model.source, lines]
    rw [documentWith, documentWith, List.map_congr_left sources]

/-- A text of a description with a block is not blank. -/
theorem not_blank_dslText {description : Description}
    (filled : description.enums ≠ [] ∨ description.models ≠ []) :
    isBlankText description.dslText = false := by
  have brace (keyword name : String) (lines : List String) :
      '\x7b' ∈ (blockText keyword name lines).toList := by
    simp [blockText, toList_joined_cons]
  have someBlock : description.enums.map Enum.block ++ description.models.map Model.block ≠ [] := by
    simpa [← not_and_or] using filled
  obtain ⟨first, later, blocks⟩ := List.exists_cons_of_ne_nil someBlock
  have inFirst : '\x7b' ∈ first.toList := by
    have member : first ∈ description.enums.map Enum.block ++ description.models.map Model.block :=
      blocks ▸ List.mem_cons_self
    rcases List.mem_append.mp member with inEnums | inModels
    · obtain ⟨enumeration, -, rfl⟩ := List.mem_map.mp inEnums
      exact brace _ _ _
    · obtain ⟨model, -, rfl⟩ := List.mem_map.mp inModels
      exact brace _ _ _
  have inText : '\x7b' ∈ description.dslText.toList := by
    rw [dslText, blocks, String.toList_append, toList_joined_cons]
    exact List.mem_append_left _ (List.mem_append_left _ inFirst)
  rw [isBlankText, ← Bool.not_eq_true, List.all_eq_true]
  exact fun blank => absurd (blank _ inText) (by decide)

/-- All ways of writing strings that are used are read back. -/
theorem readsBack_of_mem {literal : String → String}
    (member : literal ∈ [Json.quote, Json.quoteAscii]) : Json.ReadsBack literal := by
  simp only [List.mem_cons, List.not_mem_nil, or_false] at member
  rcases member with rfl | rfl
  · exact Json.readsBack_quote
  · exact Json.readsBack_quoteAscii

section Convert

variable {description : Description} {settings : Settings}
  (oneLine : '\n' ∉ settings.headerComment.text.toList) {dslFile jsonFile : String}
  (isDsl : settings.detectFormat? dslFile = some .dsl)
  (isJson : settings.detectFormat? jsonFile = some .json) {text : String}
  (read : Json.read text = .ok description.exportValue)
include oneLine isJson read

/-- A text that is read as the value of a description is converted as its
document for the export layout. -/
theorem convert_exportText :
    convert settings jsonFile text =
      if description.models.isEmpty && description.enums.isEmpty then .error .noDefinitions
      else .ok
        { schema := (description.documentWith description.columnLine).schema
            settings.foreignKeySuffixes
          format := .json
          dslText := description.document.toDsl settings.headerComment.text
            SourceFormat.json.name } := by
  have notBlank : isBlankText text = false := by
    rw [isBlankText, ← Bool.not_eq_true, List.all_eq_true]
    exact Json.not_blank_of_read read
  have written : dslTextOf settings .json text =
      .ok (description.document.toDsl settings.headerComment.text SourceFormat.json.name) := by
    simp only [dslTextOf, Document.ofSource, Document.ofJson, read,
      description.ofValue_exportValue]
  rw [convert_of_distinctNames isJson notBlank written
    (description.ofDsl_toDsl_document oneLine _) (description.distinctNames_documentWith _),
    isEmpty_documentWith]

include isDsl

/-- Where there is no block, neither the text of a description nor a text of its
value is converted. -/
theorem convert_of_no_blocks (noEnums : description.enums = [])
    (noModels : description.models = []) :
    convert settings dslFile description.dslText = .error .emptyInput ∧
      convert settings jsonFile text = .error .noDefinitions := by
  constructor
  · have blank : isBlankText description.dslText = true := by
      rw [dslText, noEnums, noModels]
      decide
    simp [convert, isDsl, blank]
  · rw [convert_exportText oneLine isJson read, noEnums, noModels]
    rfl

/-- A text that is read as the value of a description with a block is converted,
and so is the text of the description. -/
theorem exists_convert (filled : description.enums ≠ [] ∨ description.models ≠ []) :
    ∃ direct exported, convert settings dslFile description.dslText = .ok direct ∧
      convert settings jsonFile text = .ok exported ∧
      (direct.schema = exported.schema ↔
        ∀ model ∈ description.models, ∀ field ∈ model.fields, description.Keeps field) := by
  have notEmpty : (description.models.isEmpty && description.enums.isEmpty) = false := by
    rw [Bool.and_eq_false_iff, List.isEmpty_eq_false_iff, List.isEmpty_eq_false_iff]
    exact filled.symm
  have direct := convert_of_distinctNames isDsl (not_blank_dslText filled) rfl
    description.ofDsl_dslText (description.distinctNames_documentWith _)
  have exported := convert_exportText oneLine isJson read
  rw [isEmpty_documentWith, notEmpty, if_neg Bool.false_ne_true] at direct
  rw [notEmpty, if_neg Bool.false_ne_true] at exported
  exact ⟨_, _, direct, exported, description.schema_eq_iff settings.foreignKeySuffixes⟩

end Convert

/-- A description with a block is converted from its text in the schema DSL and
from every JSON text of its value in the export layout, and both give one schema
exactly if the export layout keeps all fields.  A description without a block is
refused in both notations. -/
theorem convert_agree_iff (description : Description) (settings : Settings)
    (oneLine : '\n' ∉ settings.headerComment.text.toList) {dslFile jsonFile : String}
    (isDsl : settings.detectFormat? dslFile = some .dsl)
    (isJson : settings.detectFormat? jsonFile = some .json) :
    (∀ literal ∈ [Json.quote, Json.quoteAscii], ∀ spread,
      Json.read (description.exportValue.write literal spread) = .ok description.exportValue) ∧
    ∀ text, Json.read text = .ok description.exportValue →
      (description.enums ≠ [] ∨ description.models ≠ [] →
        ∃ direct exported, convert settings dslFile description.dslText = .ok direct ∧
          convert settings jsonFile text = .ok exported ∧
          (direct.schema = exported.schema ↔
            ∀ model ∈ description.models, ∀ field ∈ model.fields, description.Keeps field)) ∧
      (description.enums = [] → description.models = [] →
        convert settings dslFile description.dslText = .error .emptyInput ∧
          convert settings jsonFile text = .error .noDefinitions) := by
  constructor
  · intro literal member spread
    exact Json.read_write (readsBack_of_mem member) description.readable_exportValue spread
  · intro text read
    exact ⟨exists_convert oneLine isDsl isJson read,
      convert_of_no_blocks oneLine isDsl isJson read⟩

/-- Shops and their owners, with a default that looks like an attribute. -/
def shops : Description where
  enums :=
    [{ name := ⟨"Tier", by decide⟩, values := [⟨"basic", by decide⟩, ⟨"gold", by decide⟩] }]
  models :=
    [{ name := ⟨"Owner", by decide⟩
       fields :=
        [{ name := ⟨"id", by decide⟩, type := ⟨"Serial", by decide⟩, isId := true
           default? := some (.call .autoincrement)
           optional_alone := by decide, unique_alone := by decide },
         { name := ⟨"shops", by decide⟩, type := ⟨"Shop", by decide⟩, isList := true
           optional_alone := by decide, unique_alone := by decide }]
       distinct := by decide },
     { name := ⟨"Shop", by decide⟩
       fields :=
        [{ name := ⟨"name", by decide⟩, type := ⟨"String", by decide⟩, isUnique := true
           default? := some (.string "\"@id\\")
           optional_alone := by decide, unique_alone := by decide },
         { name := ⟨"tier", by decide⟩, type := ⟨"Tier", by decide⟩, isOptional := true
           optional_alone := by decide, unique_alone := by decide },
         { name := ⟨"debt", by decide⟩, type := ⟨"Int", by decide⟩
           default? := some (.int (-12) (by decide))
           optional_alone := by decide, unique_alone := by decide },
         { name := ⟨"ownerId", by decide⟩, type := ⟨"Int", by decide⟩
           optional_alone := by decide, unique_alone := by decide },
         { name := ⟨"owner", by decide⟩, type := ⟨"Owner", by decide⟩
           relation? := some
            { name := "OwnerToShop", fields := [⟨"ownerId", by decide⟩]
              references := [⟨"id", by decide⟩]
              named := by decide, hasFields := by simp, hasReferences := by simp }
           optional_alone := by decide, unique_alone := by decide }]
       distinct := by decide }]
  distinct := by decide

/-- All fields of the shops are kept, so both notations give one schema. -/
theorem convert_agree_shops :
    (shops.enums ≠ [] ∨ shops.models ≠ []) ∧ '\n' ∉ ({} : Settings).headerComment.text.toList ∧
      ({} : Settings).detectFormat? "shops.prisma" = some .dsl ∧
      ({} : Settings).detectFormat? "shops.json" = some .json ∧
      ∃ direct exported, convert {} "shops.prisma" shops.dslText = .ok direct ∧
        convert {} "shops.json" (shops.exportValue.write Json.quoteAscii .line) = .ok exported ∧
        direct.schema = exported.schema := by
  have filled : shops.enums ≠ [] ∨ shops.models ≠ [] := .inl (by simp [shops])
  have oneLine := Settings.oneLine_standard
  have isDsl : ({} : Settings).detectFormat? "shops.prisma" = some .dsl := by decide +kernel
  have isJson : ({} : Settings).detectFormat? "shops.json" = some .json := by decide +kernel
  obtain ⟨written, agree⟩ := shops.convert_agree_iff {} oneLine isDsl isJson
  obtain ⟨direct, exported, directly, throughExport, same⟩ :=
    (agree _ (written Json.quoteAscii (by simp) .line)).1 filled
  have keeps : ∀ model ∈ shops.models, ∀ field ∈ model.fields, shops.Keeps field := by
    decide +kernel
  exact ⟨filled, oneLine, isDsl, isJson, direct, exported, directly, throughExport, same.mpr keeps⟩

/-- Whether both notations of a description are converted to one schema. -/
def Agrees (description : Description) : Prop :=
  ∃ direct exported, convert {} "s.prisma" description.dslText = .ok direct ∧
    convert {} "s.json" (description.exportValue.write Json.quoteAscii .line) = .ok exported ∧
    direct.schema = exported.schema

/-- A field of a type that numbers itself, without a default. -/
def numbered : Description where
  enums := []
  models :=
    [{ name := ⟨"T", by decide⟩
       fields :=
        [{ name := ⟨"a", by decide⟩, type := ⟨"Serial", by decide⟩
           optional_alone := by decide, unique_alone := by decide }]
       distinct := by decide }]
  distinct := by decide

/-- A field whose type is the name of an enum but for the case of a letter. -/
def recased : Description where
  enums := [{ name := ⟨"E", by decide⟩, values := [⟨"x", by decide⟩] }]
  models :=
    [{ name := ⟨"T", by decide⟩
       fields :=
        [{ name := ⟨"a", by decide⟩, type := ⟨"e", by decide⟩
           optional_alone := by decide, unique_alone := by decide }]
       distinct := by decide }]
  distinct := by decide

theorem isDsl_usual : ({} : Settings).detectFormat? "s.prisma" = some .dsl := by
  decide +kernel

theorem isJson_usual : ({} : Settings).detectFormat? "s.json" = some .json := by
  decide +kernel

/-- A description with a field that is lost does not agree. -/
theorem not_agrees_of_lost {description : Description} {model : Model} {field : Field}
    (inModels : model ∈ description.models) (inFields : field ∈ model.fields)
    (lost : ¬description.Keeps field) : ¬description.Agrees := by
  rintro ⟨direct, exported, directly, throughExport, same⟩
  have filled : description.models ≠ [] := List.ne_nil_of_mem inModels
  have read := Json.read_write Json.readsBack_quoteAscii description.readable_exportValue .line
  obtain ⟨made, otherMade, directlyMade, exportMade, iff⟩ :=
    exists_convert Settings.oneLine_standard isDsl_usual isJson_usual read (.inr filled)
  obtain rfl := Except.ok.inj (directlyMade.symm.trans directly)
  obtain rfl := Except.ok.inj (exportMade.symm.trans throughExport)
  exact lost (iff.mp same model inModels field inFields)

/-- Neither a number without a default nor a type in other letters comes out the
same. -/
theorem not_agrees_numbered : ¬numbered.Agrees ∧ ¬recased.Agrees :=
  ⟨not_agrees_of_lost List.mem_cons_self List.mem_cons_self (by decide +kernel),
    not_agrees_of_lost List.mem_cons_self List.mem_cons_self (by decide +kernel)⟩

end Description

end Crowsfoot
