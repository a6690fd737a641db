import Crowsfoot.Dsl.Identifier
import Crowsfoot.Layout.Export

/-!
# The tables layout

A JSON description of tables as other tools write it.  Most members go under
several names; the first one that says something counts.  Columns may be given
as a list, or as an object from column names to definitions.
-/

namespace Crowsfoot.Layout.Tables

open Json (Value)

def tableListNames : List String := ["tables", "schemas", "entities"]

def tableNames : List String := ["name", "tableName", "entityName"]

def columnListNames : List String := ["fields", "columns", "properties"]

def columnNames : List String := ["name", "columnName", "propertyName"]

def typeNames : List String := ["type", "dataType"]

def primaryKeyNames : List String := ["primaryKey", "isPrimaryKey", "primary"]

def uniqueNames : List String := ["unique", "isUnique"]

def columnKeyNames : List String := ["foreignKey", "foreign_key", "references"]

def relationListNames : List String := ["relations", "foreignKeys"]

def relationTargetNames : List String := ["references", "referencedTable", "toTable"]

def relationColumnNames : List String := ["field", "column"]

def relationReferenceNames : List String := ["referencesField", "referencedColumn"]

/-- The first member under one of several names that says something. -/
def firstFilled (object : Value) (names : List String) : Option Value :=
  (names.map object.get).find? Value.isFilled

/-- Whether some member under several names says something. -/
def anyFilled (object : Value) (names : List String) : Bool :=
  (firstFilled object names).isSome

/-- The text of the first such member. -/
def firstText (object : Value) (names : List String) (otherwise : String) : String :=
  ((firstFilled object names).map Value.text).getD otherwise

/-- The form in which tables are named. -/
def tableName (name : String) : String :=
  Dsl.pascal "_-" name

/-- A definition under its name; a name inside the definition wins. -/
def namedDefinition (name : String) (definition : Value) : Value :=
  .object (Assoc.ofList (("name", .string name) :: definition.members))

/-- The column definitions of a table. -/
def columnDefinitions (table : Value) : List Value :=
  match firstFilled table columnListNames with
  | some (.object members) =>
      members.map fun (name, definition) => namedDefinition name definition
  | some (.array items) => items.filter Value.isObject
  | _ => []

/-- The default of a column. -/
def defaultOf (column : Value) : Option String :=
  let stated := (column.get? "default").getD (column.get "defaultValue")
  match stated with
  | .null => none
  | .string text =>
      if text == "now" || text == "CURRENT_TIMESTAMP" then some "now()"
      else some stated.literalDefault
  | _ => some stated.literalDefault

/-- The column with a given name. -/
def columnOf (name : String) (column : Value) : Column where
  name := name
  typeToken := firstText column typeNames ""
  nullable :=
    Export.flag column "nullable" || Export.flag column "optional" ||
      Export.isRefused column "required"
  primaryKey := anyFilled column primaryKeyNames
  unique := anyFilled column uniqueNames
  defaultText := defaultOf column
  typeFormat := column.get "format"

/-- The foreign key that a column carries. -/
def columnKey? (name : String) (column : Value) : Option ForeignKey :=
  match firstFilled column columnKeyNames with
  | some (.object members) =>
      let key := Value.object members
      if Export.flag key "table" then
        let target := tableName (key.get "table").text
        some
          { columns := [name]
            refTable := target
            refColumns := [if Export.flag key "column" then (key.get "column").text else "id"]
            fieldName := Text.lower target }
      else none
  | _ => none

/-- The named columns of a table with their names. -/
def namedColumns (table : Value) : List (String × Value) :=
  (columnDefinitions table).filterMap fun column =>
    (firstFilled column columnNames).map fun name => (name.text, column)

/-- The foreign key of a relation between tables. -/
def relationKey? (relation : Value) : Option ForeignKey :=
  if !relation.isObject then none
  else
    let target := tableName (firstText relation relationTargetNames "")
    match firstFilled relation relationColumnNames with
    | none => none
    | some column =>
        if target == "" then none
        else some
          { columns := [column.text]
            refTable := target
            refColumns := [firstText relation relationReferenceNames "id"]
            fieldName :=
              if Export.flag relation "name" then (relation.get "name").text
              else Text.lower target }

/-- The relations of a table. -/
def relations (table : Value) : Except SourceError (List Value) :=
  match firstFilled table relationListNames with
  | some listed => listed.listed
  | none => .ok []

/-- The table of a table description. -/
def tableOf (table : Value) : Except SourceError Table := do
  let columns := namedColumns table
  let relations ← relations table
  pure
    { name := tableName (firstText table tableNames "")
      columns := columns.map fun (name, column) => columnOf name column
      foreignKeys :=
        (columns.filterMap fun (name, column) => columnKey? name column) ++
          relations.filterMap relationKey? }

/-- Whether a value has this layout. -/
def matchesLayout (description : Value) : Bool :=
  tableListNames.any description.has

/-- The table descriptions of a description. -/
def tableDescriptions (description : Value) : List Value :=
  match firstFilled description tableListNames with
  | some (.array items) => items.filter Value.isObject
  | _ => []

/-- The document of a description. -/
def document (description : Value) : Except SourceError Document := do
  let tables ← (tableDescriptions description).mapM tableOf
  pure { format := SourceFormat.json.name, tables := tables }

end Crowsfoot.Layout.Tables
