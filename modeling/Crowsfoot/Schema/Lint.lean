import Crowsfoot.Issue
import Crowsfoot.Schema

/-!
# Lint

Advice on a converted schema: repeated field names, models without a primary
key, enums without values, and relationships whose target is declared nowhere.
Only the last is an error.
-/

namespace Crowsfoot

/-- The fields whose name occurs earlier; `seen` holds the earlier names. -/
def repeatedFields (seen : List String) : List Field → List Field
  | [] => []
  | field :: fields =>
      if seen.contains field.name then field :: repeatedFields seen fields
      else repeatedFields (field.name :: seen) fields

def duplicateField (model : Model) (field : Field) : Issue where
  severity := .warn
  code := "DUPLICATE_FIELD"
  message := "Duplicate field '" ++ field.name ++ "' in model '" ++ model.name ++ "'."
  path := "/models/" ++ model.name ++ "/fields"

def missingPrimaryKey (model : Model) : Issue where
  severity := .warn
  code := "MISSING_PRIMARY_KEY"
  message := "Model '" ++ model.name ++ "' has no primary key."
  path := "/models/" ++ model.name

def emptyEnum (enumeration : Enumeration) : Issue where
  severity := .warn
  code := "EMPTY_ENUM"
  message := "Enum '" ++ enumeration.name ++ "' declares no values."
  path := "/enums/" ++ enumeration.name

def unknownTarget (index : Nat) (relationship : Relationship) : Issue where
  severity := .error
  code := "UNKNOWN_RELATIONSHIP_TARGET"
  message := "Relationship '" ++ relationship.sourceModel ++ "." ++ relationship.sourceField ++
    "' targets unknown type '" ++ relationship.targetModel ++ "'."
  path := "/relationships/" ++ toString index

/-- The advice on a model. -/
def lintModel (model : Model) : List Issue :=
  (repeatedFields [] model.fields).map (duplicateField model) ++
    (if model.fields.any (·.isPrimaryKey) then [] else [missingPrimaryKey model])

/-- The names that a relationship may target. -/
def Schema.declaredNames (schema : Schema) : List String :=
  schema.models.map Model.name ++ schema.enums.map Enumeration.name

/-- The errors of relationships, numbered from `index` on. -/
def unknownTargets (known : List String) (index : Nat) : List Relationship → List Issue
  | [] => []
  | relationship :: later =>
      (if known.contains relationship.targetModel then []
        else [unknownTarget index relationship]) ++
        unknownTargets known (index + 1) later

/-- The advice on a schema. -/
def Schema.lint (schema : Schema) : List Issue :=
  schema.models.flatMap lintModel ++
    (schema.enums.filter (·.values.isEmpty)).map emptyEnum ++
    unknownTargets schema.declaredNames 0 schema.relationships

end Crowsfoot
