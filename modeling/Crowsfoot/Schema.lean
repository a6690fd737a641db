import Crowsfoot.Document
import Crowsfoot.ScalarKind

/-!
# Canonical schemas

The entity–relationship model that a document is classified into: models with
typed fields, enums, and directed relationships between models.
-/

namespace Crowsfoot

/-- What a field takes as its value when none is given. -/
inductive DefaultKind
  | none
  | literal
  | now
  | autoincrement
  | uuid
  deriving DecidableEq

namespace DefaultKind

def name : DefaultKind → String
  | none => "none"
  | literal => "literal"
  | now => "now"
  | autoincrement => "autoincrement"
  | uuid => "uuid"

def all : List DefaultKind := [none, literal, now, autoincrement, uuid]

def ofName? (name : String) : Option DefaultKind :=
  all.find? (·.name == name)

end DefaultKind

/-- How many records stand at the two ends of a relationship. -/
inductive Cardinality
  | oneToOne
  | oneToMany
  | manyToOne
  | manyToMany
  deriving DecidableEq

namespace Cardinality

def name : Cardinality → String
  | oneToOne => "OneToOne"
  | oneToMany => "OneToMany"
  | manyToOne => "ManyToOne"
  | manyToMany => "ManyToMany"

def all : List Cardinality := [oneToOne, oneToMany, manyToOne, manyToMany]

def ofName? (name : String) : Option Cardinality :=
  all.find? (·.name == name)

end Cardinality

/-- A field of a model. -/
structure Field where
  name : String
  kind : ScalarKind
  typeName : String
  isList : Bool := false
  isNullable : Bool := false
  isPrimaryKey : Bool := false
  isUnique : Bool := false
  isForeignKey : Bool := false
  isRelationField : Bool := false
  hasConnections : Bool := false
  defaultKind : DefaultKind := .none
  defaultValue : Option String := none
  hasRelationAttribute : Bool := false
  relationColumns : List String := []
  relationReferences : List String := []
  deriving DecidableEq

structure Model where
  name : String
  fields : List Field := []
  deriving DecidableEq

namespace Model

/-- The first field with a given name. -/
def field? (model : Model) (name : String) : Option Field :=
  model.fields.find? (·.name == name)

/-- Whether a model holds a connected field whose name ends in `Id`. -/
def isChild (model : Model) : Bool :=
  model.fields.any fun field =>
    field.hasConnections && "Id".toList.isSuffixOf field.name.toList

end Model

/-- A directed relationship.  A relation that both models declare appears once
in each direction. -/
structure Relationship where
  sourceModel : String
  sourceField : String
  targetModel : String
  cardinality : Cardinality
  foreignKeyColumns : List String := []
  referencedColumns : List String := []
  displayLabel : String := ""
  deriving DecidableEq

namespace Relationship

/-- The anchor of a relationship at its source in a diagram. -/
def sourceHandle (relationship : Relationship) : String :=
  relationship.sourceModel ++ "-" ++ relationship.sourceField ++ "-source"

/-- The anchor of a relationship at its target in a diagram. -/
def targetHandle (relationship : Relationship) : String :=
  relationship.targetModel ++ "-target"

end Relationship

structure Schema where
  models : List Model := []
  enums : List Enumeration := []
  relationships : List Relationship := []
  deriving DecidableEq

namespace Schema

/-- A schema without models and enums. -/
def isEmpty (schema : Schema) : Bool :=
  schema.models.isEmpty && schema.enums.isEmpty

/-- The first model with a given name. -/
def model? (schema : Schema) (name : String) : Option Model :=
  schema.models.find? (·.name == name)

/-- The first enum with a given name. -/
def enum? (schema : Schema) (name : String) : Option Enumeration :=
  schema.enums.find? (·.name == name)

end Schema

end Crowsfoot
