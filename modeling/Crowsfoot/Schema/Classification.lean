import Crowsfoot.Dsl.Attribute
import Crowsfoot.Schema
import Crowsfoot.SourceError

/-!
# Classification

Turns the tables and enums of a DSL document into models and enums of a
canonical schema.  Declarations keep their order, and every column becomes one
field.  Names of models and enums have to be distinct unless the settings
allow otherwise.
-/

namespace Crowsfoot

/-- The names that occur more than once, in increasing order. -/
def repeatedNames (names : List String) : List String :=
  ((names.filter fun name => 1 < names.count name).eraseDups).mergeSort (· ≤ ·)

/-- The names that occur in both lists, in increasing order. -/
def commonNames (names others : List String) : List String :=
  ((names.filter others.contains).eraseDups).mergeSort (· ≤ ·)

/-- Refuse documents that give a name to two blocks. -/
def checkNames (document : Document) : Except SourceError Unit :=
  let models := document.tables.map Table.name
  let enums := document.enums.map Enumeration.name
  match repeatedNames models, repeatedNames enums, commonNames models enums with
  | [], [], [] => .ok ()
  | [], [], shared => .error (.sharedNames shared)
  | [], repeated, _ => .error (.repeatedEnums repeated)
  | repeated, _, _ => .error (.repeatedModels repeated)

/-- What the argument of a `@default` attribute means, blanks aside. -/
def defaultFunction? (argument : List Char) : Option DefaultKind :=
  [("now()", DefaultKind.now), ("autoincrement()", .autoincrement), ("uuid()", .uuid)].lookup
    (String.ofList (Text.removeBlanks argument))

/-- The kind of a default, and its text where it is a literal. -/
def classifyDefault : Option String → DefaultKind × Option String
  | none => (.none, none)
  | some text =>
      match defaultFunction? text.toList with
      | some kind => (kind, none)
      | none => (.literal, some text)

/-- The columns of a table that some relation of the table is built on. -/
def relationBound (table : Table) : List String :=
  table.columns.flatMap fun column => (Dsl.relationColumns column.constraints).1

/-- The kind of a column: a scalar, or a reference to an enum or a model. -/
def columnKind (enumNames : List String) (column : Column) : ScalarKind :=
  if isDslScalar column.typeToken then
    scalarKind SourceFormat.dsl.name column.typeToken .null
  else if enumNames.contains column.typeToken then .enumReference
  else .modelReference

/-- Whether a column identifies the records of its table: it says so, or it is
a scalar named `id`, or it is unique and has `id` in its name. -/
def isKeyColumn (column : Column) : Bool :=
  column.primaryKey ||
    (column.name == "id" && isDslScalar column.typeToken) ||
    (Text.contains "id".toList (Text.lower column.name).toList && column.unique)

/-- Whether a column is a scalar whose name ends in one of the suffixes. -/
def isForeignKeyColumn (suffixes : List String) (column : Column) : Bool :=
  isDslScalar column.typeToken &&
    suffixes.any fun suffix => suffix.toList.isSuffixOf column.name.toList

/-- Whether a column takes part in a relation: it refers to a block, or a
relation of its table is built on it. -/
def isRelationColumn (bound : List String) (column : Column) : Bool :=
  !isDslScalar column.typeToken || bound.contains column.name

/-- The field of a column. -/
def Field.ofColumn (enumNames bound suffixes : List String) (column : Column) : Field :=
  let kind := columnKind enumNames column
  let isRelationField := isRelationColumn bound column
  let (defaultKind, defaultValue) := classifyDefault column.defaultText
  let (columns, references) := Dsl.relationColumns column.constraints
  { name := column.name
    kind := kind
    typeName := column.typeToken
    isList := column.isList
    isNullable := column.nullable
    isPrimaryKey := isKeyColumn column
    isUnique := column.unique
    isForeignKey := isForeignKeyColumn suffixes column
    isRelationField := isRelationField
    hasConnections := isRelationField || kind == .modelReference
    defaultKind := defaultKind
    defaultValue := defaultValue
    hasRelationAttribute := Dsl.hasRelation column.constraints
    relationColumns := columns
    relationReferences := references }

/-- The model of a table. -/
def Model.ofTable (enumNames suffixes : List String) (table : Table) : Model where
  name := table.name
  fields := table.columns.map (Field.ofColumn enumNames (relationBound table) suffixes)

/-- The models of a document. -/
def modelsOf (suffixes : List String) (document : Document) : List Model :=
  document.tables.map (Model.ofTable (document.enums.map Enumeration.name) suffixes)

/-- Classify a document. -/
def Document.classify (document : Document) (rejectCollisions : Bool)
    (suffixes : List String) : Except SourceError (List Model × List Enumeration) :=
  match (if rejectCollisions then checkNames document else .ok ()) with
  | .ok () => .ok (modelsOf suffixes document, document.enums)
  | .error cause => .error cause

end Crowsfoot
