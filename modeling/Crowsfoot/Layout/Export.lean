import Crowsfoot.Document
import Crowsfoot.ScalarKind
import Crowsfoot.SourceError

/-!
# The export layout

A JSON description with the shape of the schema DSL: lists of models and
enums, or a bare list of models.  Fields carry flags for lists, keys and
uniqueness, and relation fields name the columns at both ends.  Items without
a name are passed over.
-/

namespace Crowsfoot

open Json (Value)

/-- The parts of a value that says something; other values have none. -/
def Json.Value.listed (value : Value) : Except SourceError (List Value) :=
  if value.isFilled then
    match value.parts with
    | .ok parts => .ok parts
    | .error shape => .error (.notListable shape)
  else .ok []

/-- The default that a scalar value in a definition stands for. -/
def Json.Value.literalDefault : Value → String
  | .bool truth => if truth then "true" else "false"
  | .string text => Json.quoteAscii text
  | value => value.shown

namespace Layout.Export

/-- Whether a member says something. -/
def flag (object : Value) (name : String) : Bool :=
  (object.get name).isFilled

/-- Whether a value is an object with a name. -/
def isNamed (value : Value) : Bool :=
  value.isObject && flag value "name"

/-- Whether a member is the word `false`. -/
def isRefused (object : Value) (name : String) : Bool :=
  match object.get name with
  | .bool truth => !truth
  | _ => false

/-- Functions that may stand as defaults. -/
def defaultFunctions : List String :=
  ["now", "autoincrement", "uuid"]

/-- Whether a field is a key. -/
def isKey (field : Value) : Bool :=
  flag field "isId" || flag field "isPrimaryKey"

/-- The default of a field. -/
def defaultOf (field : Value) : Option String :=
  let unstated :=
    if isKey field && flag field "hasDefaultValue" then some "autoincrement()" else none
  match field.get "default" with
  | .object members =>
      let stated := (Value.object members).get "name"
      let name := if stated.isFilled then stated.text else ""
      if defaultFunctions.contains name then some (name ++ "()") else none
  | .null => unstated
  | .array _ => unstated
  | value => some value.literalDefault

/-- The column of a named field. -/
def columnOf (field : Value) : Column where
  name := (field.get "name").text
  typeToken := if flag field "type" then (field.get "type").text else "String"
  nullable := isRefused field "isRequired" || flag field "optional"
  primaryKey := isKey field
  unique := flag field "isUnique"
  isList := flag field "isList"
  defaultText := defaultOf field

/-- The foreign key of a named field that stands for a relation. -/
def keyOf (field : Value) : Except SourceError (Option ForeignKey) :=
  let fromFields := field.get "relationFromFields"
  let toFields := field.get "relationToFields"
  if flag field "relationName" && fromFields.isFilled && toFields.isFilled then do
    let columns ← fromFields.listed
    let references ← toFields.listed
    let column := columnOf field
    pure (some
      { columns := columns.map Value.text
        refTable := column.typeToken
        refColumns := references.map Value.text
        fieldName := column.name })
  else pure none

/-- The table of a named model. -/
def tableOf (model : Value) : Except SourceError Table := do
  let fields := (← (model.get "fields").listed).filter isNamed
  let keys ← fields.mapM keyOf
  pure
    { name := (model.get "name").text
      columns := fields.map columnOf
      foreignKeys := keys.filterMap id }

/-- The text of an enum value, which may be an object with a name. -/
def valueText (value : Value) : Option String :=
  let meant := if value.isObject then value.get "name" else value
  if meant.isFilled then some meant.text else none

/-- The enum of a named enum description. -/
def enumerationOf (description : Value) : Except SourceError Enumeration := do
  let values ← (description.get "values").listed
  pure
    { name := (description.get "name").text
      values := values.filterMap valueText }

/-- Whether a value has this layout. -/
def matchesLayout : Value → Bool
  | .object members => (Value.object members).has "models" || (Value.object members).has "enums"
  | .array (first :: _) => isNamed first && flag first "fields"
  | _ => false

/-- The document of a description.  Enums are read before models. -/
def document (description : Value) : Except SourceError Document := do
  let enums := (← (description.get "enums").listed).filter isNamed
  let enums ← enums.mapM enumerationOf
  let models ← match description with
    | .array items => pure items
    | _ => (description.get "models").listed
  let tables ← (models.filter isNamed).mapM tableOf
  pure { format := SourceFormat.dsl.name, tables := tables, enums := enums }

end Layout.Export

end Crowsfoot
