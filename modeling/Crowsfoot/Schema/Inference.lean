import Crowsfoot.Assoc
import Crowsfoot.Schema
import Crowsfoot.Text.Split

/-!
# Relationship inference

Every field that refers to a block makes one directed relationship, in the
order of models and fields.  Its cardinality is first read off the field.
Then junction models are found: models that hold two foreign keys or more and
are built on relations to two other models or more.  A relationship from a
junction to a model it links is many to many, and so is a list of junctions.
-/

namespace Crowsfoot

open Crowsfoot.Text (joined)

/-- The cardinality and the label that a field shows by itself. -/
def fieldCardinality (field : Field) : Cardinality × String :=
  if field.isList then (.oneToMany, field.name ++ " (1:N)")
  else if !field.relationColumns.isEmpty then
    (.manyToOne,
      joined ", " field.relationColumns ++ " → " ++ joined ", " field.relationReferences ++
        " (N:1)")
  else if field.hasRelationAttribute then (.oneToOne, field.name ++ " (1:1)")
  else (.oneToOne, field.name)

/-- The relationship that a field of a model makes. -/
def Relationship.ofField (model : Model) (field : Field) : Relationship :=
  let (cardinality, label) := fieldCardinality field
  { sourceModel := model.name
    sourceField := field.name
    targetModel := field.typeName
    cardinality := cardinality
    foreignKeyColumns := field.relationColumns
    referencedColumns := field.relationReferences
    displayLabel := label }

/-- The relationships that the fields of a model make by themselves. -/
def directRelationships (model : Model) : List Relationship :=
  (model.fields.filter (·.kind.isReference)).map (Relationship.ofField model)

/-- The models that the relations of a model are built on, the model itself
excepted, in the order of their first mention. -/
def linkedModels (model : Model) : List String :=
  ((model.fields.filter fun field =>
      !field.relationColumns.isEmpty && field.kind.isReference &&
        field.typeName != model.name).map Field.typeName).eraseDups

/-- The models that a junction links; `none` for a model that is no
junction. -/
def junctionTargets? (model : Model) : Option (List String) :=
  let targets := linkedModels model
  if model.fields.countP (·.isForeignKey) < 2 || targets.length < 2 then none else some targets

/-- The junctions of a list of models with the models they link.  Of two
junctions with one name the later one counts. -/
def junctions (models : List Model) : List (String × List String) :=
  Assoc.ofList (models.filterMap fun model =>
    (junctionTargets? model).map fun targets => (model.name, targets))

/-- Whether a model is a junction that links another. -/
def links (junctions : List (String × List String)) (model other : String) : Bool :=
  match junctions.lookup model with
  | some targets => targets.contains other
  | none => false

/-- Make a relationship many to many where it leaves a junction for a model
that the junction links, or is a list of junctions. -/
def Relationship.through (junctions : List (String × List String))
    (relationship : Relationship) : Relationship :=
  let source := relationship.sourceModel
  let target := relationship.targetModel
  let field := relationship.sourceField
  if links junctions source target then
    { relationship with
      cardinality := .manyToMany
      displayLabel := field ++ " (M:N via " ++ source ++ ")" }
  else if relationship.cardinality == .oneToMany && Assoc.hasKey junctions target then
    { relationship with
      cardinality := .manyToMany
      displayLabel :=
        if links junctions target source then field ++ " (M:N via " ++ target ++ ")"
        else field ++ " (M:N)" }
  else relationship

/-- The relationships of a list of models. -/
def inferRelationships (models : List Model) : List Relationship :=
  (models.flatMap directRelationships).map (Relationship.through (junctions models))

end Crowsfoot
