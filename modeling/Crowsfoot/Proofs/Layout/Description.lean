import Crowsfoot.Dsl.Printer
import Crowsfoot.Layout.Reader
import Crowsfoot.Proofs.Json.Values
import Mathlib.Data.List.Nodup

/-!
# Descriptions of schemas

A description holds what both the schema DSL and the export layout can say:
enums, and models whose fields have modifiers, keys, defaults and relations.
It has a text in the schema DSL and a value in the export layout.  The value
survives being written as JSON text, and this module finds the document that it
is read as.
-/

namespace Crowsfoot

open Crowsfoot.Text (joined)
open Json (Value)

namespace Description

/-- An identifier. -/
structure Name where
  text : String
  isIdentifier : Dsl.isIdentifier text.toList = true

/-- A function that stands as a default. -/
inductive Function
  | now
  | autoincrement
  | uuid
  deriving DecidableEq

def Function.name : Function → String
  | now => "now"
  | autoincrement => "autoincrement"
  | uuid => "uuid"

/-- The default of a field.  Integers are as long as JSON texts may have
them. -/
inductive Default
  | call (function : Function)
  | int (number : Int)
      (short : (Nat.toDigits 10 number.natAbs).length ≤ Json.maxIntegerDigits)
  | bool (truth : Bool)
  | string (text : String)
  deriving DecidableEq

/-- The relation of a field: its name, the columns that it is built on, and the
columns that it references. -/
structure Relation where
  name : String
  fields : List Name
  references : List Name
  named : name ≠ ""
  hasFields : fields ≠ []
  hasReferences : references ≠ []

/-- A field of a model.  A list and a key are not optional, and a key is not
unique besides. -/
structure Field where
  name : Name
  type : Name
  isList : Bool := false
  isOptional : Bool := false
  isId : Bool := false
  isUnique : Bool := false
  default? : Option Default := none
  relation? : Option Relation := none
  optional_alone : isOptional = true → isList = false ∧ isId = false
  unique_alone : isUnique = true → isId = false

/-- A model whose fields have distinct names. -/
structure Model where
  name : Name
  fields : List Field
  distinct : (fields.map fun field => field.name.text).Nodup

structure Enum where
  name : Name
  values : List Name

end Description

/-- A description of enums and models with distinct names. -/
structure Description where
  enums : List Description.Enum
  models : List Description.Model
  distinct : ((models.map fun model => model.name.text) ++
    enums.map fun enumeration => enumeration.name.text).Nodup

namespace Description

/-- The argument of a default attribute. -/
def Default.argument : Default → String
  | .call function => function.name ++ "()"
  | .int number _ => toString number
  | .bool truth => if truth then "true" else "false"
  | .string text => Json.quote text

def texts (names : List Name) : List String :=
  names.map Name.text

def Relation.text (relation : Relation) : String :=
  "@relation(fields: [" ++ joined ", " (texts relation.fields) ++ "], references: [" ++
    joined ", " (texts relation.references) ++ "])"

def Field.modifier (field : Field) : String :=
  if field.isList then "[]" else if field.isOptional then "?" else ""

def Field.attributes (field : Field) : List String :=
  (if field.isId then ["@id"] else []) ++
    (if field.isUnique then ["@unique"] else []) ++
    field.default?.toList.map (fun stated => "@default(" ++ stated.argument ++ ")") ++
    field.relation?.toList.map Relation.text

/-- The line of a field. -/
def Field.line (field : Field) : String :=
  "  " ++ joined " " (field.name.text :: (field.type.text ++ field.modifier) :: field.attributes)

def Model.block (model : Model) : String :=
  Dsl.blockText "model" model.name.text (model.fields.map Field.line)

def Enum.block (enumeration : Enum) : String :=
  Dsl.blockText "enum" enumeration.name.text
    (enumeration.values.map fun value => "  " ++ value.text)

/-- The text of a description in the schema DSL: the enums and then the models,
one field or value on each line. -/
def dslText (description : Description) : String :=
  joined "\n\n" (description.enums.map Enum.block ++ description.models.map Model.block) ++ "\n"

def Default.value : Default → Value
  | .call function => .object [("name", .string function.name)]
  | .int number _ => .int number
  | .bool truth => .bool truth
  | .string text => .string text

def Relation.members (relation : Relation) : List (String × Value) :=
  [("relationName", .string relation.name),
    ("relationFromFields", .strings (texts relation.fields)),
    ("relationToFields", .strings (texts relation.references))]

def Field.value (field : Field) : Value :=
  .object
    ([("name", .string field.name.text), ("type", .string field.type.text),
        ("isList", .bool field.isList), ("isRequired", .bool !field.isOptional),
        ("isId", .bool field.isId), ("isUnique", .bool field.isUnique)] ++
      field.default?.toList.map (fun stated => ("default", stated.value)) ++
      field.relation?.toList.flatMap Relation.members)

def Model.value (model : Model) : Value :=
  .object
    [("name", .string model.name.text), ("fields", .array (model.fields.map Field.value))]

def Enum.value (enumeration : Enum) : Value :=
  .object
    [("name", .string enumeration.name.text), ("values", .strings (texts enumeration.values))]

/-- The value of a description in the export layout. -/
def exportValue (description : Description) : Value :=
  .object
    [("models", .array (description.models.map Model.value)),
      ("enums", .array (description.enums.map Enum.value))]

/-! ## The document that the value is read as -/

/-- A default as the export layout states it: string literals are in ASCII. -/
def Default.declared : Default → String
  | .string text => Json.quoteAscii text
  | stated => stated.argument

def Field.column (field : Field) : Column where
  name := field.name.text
  typeToken := field.type.text
  nullable := field.isOptional
  primaryKey := field.isId
  unique := field.isUnique
  isList := field.isList
  defaultText := field.default?.map Default.declared

def Field.key? (field : Field) : Option ForeignKey :=
  field.relation?.map fun relation =>
    { columns := texts relation.fields
      refTable := field.type.text
      refColumns := texts relation.references
      fieldName := field.name.text }

def Model.table (model : Model) : Table where
  name := model.name.text
  columns := model.fields.map Field.column
  foreignKeys := model.fields.filterMap Field.key?

def Enum.enumeration (enumeration : Enum) : Enumeration where
  name := enumeration.name.text
  values := texts enumeration.values

/-- The document that the value of a description is read as. -/
def document (description : Description) : Document where
  format := SourceFormat.dsl.name
  tables := description.models.map Model.table
  enums := description.enums.map Enum.enumeration

theorem Name.text_ne_empty (name : Name) : name.text ≠ "" := by
  intro empty
  have valid := name.isIdentifier
  rw [empty] at valid
  contradiction

theorem Name.isFilled (name : Name) : (Value.string name.text).isFilled = true := by
  simp [Value.isFilled, name.text_ne_empty]

section Field

variable (field : Field)

theorem Field.get_members :
    field.value.get "name" = .string field.name.text ∧
      field.value.get "type" = .string field.type.text ∧
      field.value.get "isList" = .bool field.isList ∧
      field.value.get "isRequired" = .bool !field.isOptional ∧
      field.value.get "isId" = .bool field.isId ∧
      field.value.get "isUnique" = .bool field.isUnique := by
  simp [Field.value, Value.get, Value.get?, Value.members, List.lookup_cons]

theorem Field.get_default :
    field.value.get "default" = (field.default?.map Default.value).getD .null := by
  cases stated : field.default? <;> cases related : field.relation? <;>
    simp [Field.value, Value.get, Value.get?, Value.members, List.lookup_cons, Relation.members,
      stated, related]

/-- Members that a field is not described with. -/
theorem Field.get_missing : field.value.get "isPrimaryKey" = .null ∧
    field.value.get "optional" = .null ∧ field.value.get "hasDefaultValue" = .null := by
  cases stated : field.default? <;> cases related : field.relation? <;>
    simp [Field.value, Value.get, Value.get?, Value.members, List.lookup_cons, Relation.members,
      stated, related]

theorem Field.get_relation {relation : Relation} (related : field.relation? = some relation) :
    field.value.get "relationName" = .string relation.name ∧
      field.value.get "relationFromFields" = .strings (texts relation.fields) ∧
      field.value.get "relationToFields" = .strings (texts relation.references) := by
  cases stated : field.default? <;>
    simp [Field.value, Value.get, Value.get?, Value.members, List.lookup_cons, Relation.members,
      stated, related]

theorem Field.get_no_relation (unrelated : field.relation? = none) :
    field.value.get "relationName" = .null := by
  cases stated : field.default? <;>
    simp [Field.value, Value.get, Value.get?, Value.members, List.lookup_cons, stated, unrelated]

theorem Field.defaultOf_value :
    Layout.Export.defaultOf field.value = field.default?.map Default.declared := by
  obtain ⟨noKey, -, noMark⟩ := field.get_missing
  rw [Layout.Export.defaultOf, field.get_default]
  cases field.default? with
  | none => simp [Layout.Export.flag, noMark, Value.isFilled]
  | some stated =>
      cases stated with
      | call function =>
          cases function <;>
            simp [Default.value, Value.get, Value.get?, Value.members, Value.isFilled, Value.text,
              Layout.Export.defaultFunctions, Function.name, Default.declared, Default.argument]
      | int number short => rfl
      | bool truth => rfl
      | string text => rfl

theorem Field.columnOf_value : Layout.Export.columnOf field.value = field.column := by
  obtain ⟨name, type, isList, isRequired, isId, isUnique⟩ := field.get_members
  obtain ⟨noKey, notOptional, -⟩ := field.get_missing
  simp only [Layout.Export.columnOf, Layout.Export.isKey, Layout.Export.isRefused,
    Layout.Export.flag, name, type, isList, isRequired, isId, isUnique, noKey, notOptional,
    field.type.isFilled, Field.defaultOf_value]
  simp [Field.column, Value.isFilled, Value.text]

theorem Field.isNamed_value : Layout.Export.isNamed field.value = true := by
  have name := field.get_members.1
  rw [Layout.Export.isNamed, Layout.Export.flag, name, field.name.isFilled]
  rfl

/-- A list of strings that is not empty is listed as it is. -/
theorem listed_strings (texts : List String) :
    (Value.strings texts).listed = .ok (texts.map Value.string) := by
  cases texts <;> rfl

theorem isFilled_texts {names : List Name} (nonempty : names ≠ []) :
    (Value.strings (texts names)).isFilled = true := by
  cases names with
  | nil => contradiction
  | cons => rfl

theorem map_text_string (texts : List String) :
    (texts.map Value.string).map Value.text = texts := by
  rw [List.map_map]
  exact List.map_id texts

theorem Field.keyOf_value : Layout.Export.keyOf field.value = .ok field.key? := by
  rw [Layout.Export.keyOf, field.columnOf_value]
  cases related : field.relation? with
  | none =>
      simp only [Layout.Export.flag, field.get_no_relation related, Field.key?, related]
      rfl
  | some relation =>
      obtain ⟨name, fields, references⟩ := field.get_relation related
      have named : (Value.string relation.name).isFilled = true := by
        simp [Value.isFilled, relation.named]
      simp only [Layout.Export.flag, name, fields, references, named,
        isFilled_texts relation.hasFields, isFilled_texts relation.hasReferences,
        listed_strings, bind, Except.bind, map_text_string, Field.key?, related]
      rfl

end Field

theorem listed_array (items : List Value) : (Value.array items).listed = .ok items := by
  cases items <;> rfl

section Parts

variable {α β : Type} {value : α → Value}

/-- Parts that are all named are all kept. -/
theorem filter_isNamed (named : ∀ part, Layout.Export.isNamed (value part) = true)
    (parts : List α) : (parts.map value).filter Layout.Export.isNamed = parts.map value :=
  List.filter_eq_self.mpr fun described member => by
    obtain ⟨part, -, rfl⟩ := List.mem_map.mp member
    exact named part

/-- Parts that are all read are read in order. -/
theorem mapM_values {read : Value → Except SourceError β} {answer : α → β}
    (reads : ∀ part, read (value part) = .ok (answer part)) (parts : List α) :
    (parts.map value).mapM read = .ok (parts.map answer) := by
  have each : read ∘ value = fun part => pure (answer part) := funext reads
  rw [List.mapM_map, each, List.mapM_pure]
  rfl

end Parts

section Model

variable (model : Model)

theorem Model.get_members : model.value.get "name" = .string model.name.text ∧
    model.value.get "fields" = .array (model.fields.map Field.value) := by
  simp [Model.value, Value.get, Value.get?, Value.members, List.lookup_cons]

theorem Model.isNamed_value : Layout.Export.isNamed model.value = true := by
  rw [Layout.Export.isNamed, Layout.Export.flag, model.get_members.1, model.name.isFilled]
  rfl

theorem Model.tableOf_value : Layout.Export.tableOf model.value = .ok model.table := by
  obtain ⟨name, fields⟩ := model.get_members
  have columns : Layout.Export.columnOf ∘ Field.value = Field.column :=
    funext Field.columnOf_value
  simp only [Layout.Export.tableOf, name, fields, listed_array, bind, Except.bind,
    filter_isNamed Field.isNamed_value, mapM_values Field.keyOf_value, List.map_map, columns]
  rw [List.filterMap_map]
  rfl

end Model

section Enum

variable (enumeration : Enum)

theorem Enum.get_members : enumeration.value.get "name" = .string enumeration.name.text ∧
    enumeration.value.get "values" = .strings (texts enumeration.values) := by
  simp [Enum.value, Value.get, Value.get?, Value.members, List.lookup_cons]

theorem Enum.isNamed_value : Layout.Export.isNamed enumeration.value = true := by
  rw [Layout.Export.isNamed, Layout.Export.flag, enumeration.get_members.1,
    enumeration.name.isFilled]
  rfl

theorem Enum.enumerationOf_value :
    Layout.Export.enumerationOf enumeration.value = .ok enumeration.enumeration := by
  obtain ⟨name, values⟩ := enumeration.get_members
  have kept : (texts enumeration.values).filterMap (Layout.Export.valueText ∘ Value.string) =
      texts enumeration.values := by
    have each : (Layout.Export.valueText ∘ Value.string) ∘ Name.text = some ∘ Name.text := by
      funext name
      simp [Layout.Export.valueText, Value.isObject, name.isFilled, Value.text]
    rw [texts, List.filterMap_map, each, List.filterMap_eq_map]
  simp only [Layout.Export.enumerationOf, name, values, listed_strings, bind, Except.bind,
    List.filterMap_map, kept]
  rfl

end Enum

/-- The value of a description is read as its document. -/
theorem ofValue_exportValue (description : Description) :
    Document.ofValue description.exportValue = .ok description.document := by
  have models : description.exportValue.get "models" =
      .array (description.models.map Model.value) := by
    simp [exportValue, Value.get, Value.get?, Value.members]
  have enums : description.exportValue.get "enums" =
      .array (description.enums.map Enum.value) := by
    simp [exportValue, Value.get, Value.get?, Value.members, List.lookup_cons]
  have layout : Layout.Export.matchesLayout description.exportValue = true := by
    simp [exportValue, Layout.Export.matchesLayout, Value.has, Value.get?, Value.members]
  have isObject : ∃ members, description.exportValue = .object members := ⟨_, rfl⟩
  obtain ⟨members, spelled⟩ := isObject
  rw [Document.ofValue, if_pos layout]
  rw [spelled] at models enums ⊢
  simp only [Layout.Export.document, enums, models, listed_array, bind, Except.bind,
    filter_isNamed Enum.isNamed_value, filter_isNamed Model.isNamed_value,
    mapM_values Enum.enumerationOf_value, mapM_values Model.tableOf_value]
  rfl

/-! ## JSON texts of the value -/

theorem readable_array {α : Type} {value : α → Value}
    (readable : ∀ part, Json.Readable (value part)) (parts : List α) :
    Json.Readable (.array (parts.map value)) := by
  apply Json.Readable.array
  intro item member
  obtain ⟨part, -, rfl⟩ := List.mem_map.mp member
  exact readable part

theorem readable_strings (texts : List String) : Json.Readable (.strings texts) :=
  readable_array Json.Readable.string texts

theorem Default.readable_value (stated : Default) : Json.Readable stated.value := by
  cases stated with
  | call function =>
      apply Json.Readable.object (by simp [Assoc.keys])
      simp only [List.forall_mem_singleton]
      exact .string _
  | int number short => exact .int short
  | bool truth => exact .bool truth
  | string text => exact .string text

theorem Relation.readable_members (relation : Relation) :
    ∀ member ∈ relation.members, Json.Readable member.2 := by
  simp only [Relation.members, List.forall_mem_cons, List.not_mem_nil, false_imp_iff,
    implies_true, and_true]
  exact ⟨.string _, readable_strings _, readable_strings _⟩

theorem Field.readable_value (field : Field) : Json.Readable field.value := by
  apply Json.Readable.object
  · cases field.default? <;> cases field.relation? <;>
      simp [Assoc.keys, Relation.members]
  · intro member inMembers
    simp only [List.mem_append, List.mem_map, List.mem_flatMap] at inMembers
    rcases inMembers with (plain | ⟨stated, -, rfl⟩) | ⟨relation, -, inRelation⟩
    · simp only [List.mem_cons, List.not_mem_nil, or_false] at plain
      rcases plain with rfl | rfl | rfl | rfl | rfl | rfl
      · exact .string _
      · exact .string _
      · exact .bool _
      · exact .bool _
      · exact .bool _
      · exact .bool _
    · exact stated.readable_value
    · exact relation.readable_members member inRelation

theorem Model.readable_value (model : Model) : Json.Readable model.value := by
  apply Json.Readable.object (by simp [Assoc.keys])
  simp only [List.forall_mem_cons, List.not_mem_nil, false_imp_iff, implies_true, and_true]
  exact ⟨.string _, readable_array Field.readable_value _⟩

theorem Enum.readable_value (enumeration : Enum) : Json.Readable enumeration.value := by
  apply Json.Readable.object (by simp [Assoc.keys])
  simp only [List.forall_mem_cons, List.not_mem_nil, false_imp_iff, implies_true, and_true]
  exact ⟨.string _, readable_strings _⟩

/-- The value of a description can be written and read back. -/
theorem readable_exportValue (description : Description) :
    Json.Readable description.exportValue := by
  apply Json.Readable.object (by simp [Assoc.keys])
  simp only [List.forall_mem_cons, List.not_mem_nil, false_imp_iff, implies_true, and_true]
  exact ⟨readable_array Model.readable_value _, readable_array Enum.readable_value _⟩

end Description

end Crowsfoot
