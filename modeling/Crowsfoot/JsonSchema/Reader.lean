import Crowsfoot.JsonSchema.Constraint
import Crowsfoot.Text.Pattern.Reader

/-!
# Reading JSON Schemas

A schema is an object of keywords, or one of the words `true` and `false`.
Keywords count in the order in which they stand; those that are not known, or
have a value of another form, are passed over.
-/

namespace Crowsfoot.JsonSchema

open Crowsfoot.Json (Value)
open Crowsfoot.Text (Pattern)

/-- The strings among the items of an array. -/
def stringItems : Value → List String
  | .array items => items.filterMap fun
      | .string text => some text
      | _ => none
  | _ => []

/-- The type names of a `type` keyword. -/
def typeNames : Value → List String
  | .string name => [name]
  | value => stringItems value

/-- The constraint of a `pattern` keyword. -/
def patternOf (source : String) : Constraint :=
  match Pattern.read source with
  | .ok pattern => .pattern source pattern
  | .error fault => .unreadable ⟨source, fault⟩

/-- A keyword that needs no other schema.  `declared` lists the members that
the schema describes. -/
def leafKeyword (declared : List String) (keyword : String) (value : Value) :
    Option Constraint :=
  match keyword, value with
  | "type", value => some (.types ((typeNames value).filterMap ValueType.ofName?))
  | "required", value => some (.required (stringItems value))
  | "additionalProperties", .bool false => some (.closed declared)
  | "pattern", .string source => some (patternOf source)
  | "minLength", .int least => some (.minLength least.toNat)
  | "enum", value => some (.oneOf (stringItems value))
  | _, _ => none

/-- The members that a schema describes. -/
def declaredNames (schema : Value) : List String :=
  Assoc.keys (schema.get "properties").members

mutual

/-- The constraint that a schema states. -/
def ofValue : Value → Constraint
  | .bool truth => if truth then .all [] else .nothing
  | .object keywords =>
      .all (ofKeywords (declaredNames (.object keywords)) keywords)
  | _ => .all []

def ofKeywords (declared : List String) : List (String × Value) → List Constraint
  | [] => []
  | (keyword, value) :: keywords =>
      let stated : Option Constraint :=
        if keyword == "properties" then
          match value with
          | .object members => some (.members (ofMembers members))
          | _ => none
        else if keyword == "items" then
          match value with
          | .bool false => some .noItems
          | _ => some (.items (ofValue value))
        else leafKeyword declared keyword value
      stated.toList ++ ofKeywords declared keywords

def ofMembers : List (String × Value) → List (String × Constraint)
  | [] => []
  | (name, schema) :: members => (name, ofValue schema) :: ofMembers members

end

end Crowsfoot.JsonSchema
