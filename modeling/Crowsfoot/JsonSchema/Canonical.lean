import Crowsfoot.JsonSchema.Constraint

/-!
# The shape of canonical schemas

The JSON Schema that every canonical schema is held to.  Keywords stand in the
order in which their violations are reported.
-/

namespace Crowsfoot.JsonSchema

open Crowsfoot.Text (CharSet Pattern)

/-- ASCII letters and the underscore. -/
def asciiLetter : CharSet :=
  .ofClasses [.between 'A' 'Z', .between 'a' 'z', .between '_' '_']

/-- ASCII letters, digits and the underscore. -/
def asciiWord : CharSet :=
  .ofClasses [.between 'A' 'Z', .between 'a' 'z', .between '0' '9', .between '_' '_']

/-- An ASCII identifier: a letter or an underscore, then letters, digits and
underscores up to the end. -/
def identifierPattern : Pattern :=
  .sequence [.anchor .textStart, .one asciiLetter, .many asciiWord, .anchor .textStop]

/-- The pattern in its usual notation. -/
def identifierSource : String := "^[A-Za-z_][A-Za-z0-9_]*$"

def identifier : Constraint :=
  .all [.types [.string], .pattern identifierSource identifierPattern]

/-- A list of nonempty strings. -/
def names : Constraint :=
  .all [.types [.array], .items (.all [.types [.string], .minLength 1])]

def ofType (type : ValueType) : Constraint :=
  .all [.types [type]]

def listOf (constraint : Constraint) : Constraint :=
  .all [.types [.array], .items constraint]

/-- An object with declared members only, some of them required. -/
def record (required : List String) (members : List (String × Constraint)) : Constraint :=
  .all [.types [.object], .required required, .closed (Assoc.keys members), .members members]

def field : Constraint :=
  record
    ["name", "canonical_type", "type_name", "is_list", "is_nullable", "is_primary_key",
      "is_unique", "is_foreign_key", "is_relation_field", "has_connections", "default_kind",
      "default_value"]
    [("name", identifier),
      ("canonical_type", .all [.oneOf
        ["Text", "Integer", "BigInteger", "Float", "Decimal", "Boolean", "DateTime", "Json",
          "Bytes", "ModelReference", "EnumReference"]]),
      ("type_name", identifier),
      ("is_list", ofType .boolean),
      ("is_nullable", ofType .boolean),
      ("is_primary_key", ofType .boolean),
      ("is_unique", ofType .boolean),
      ("is_foreign_key", ofType .boolean),
      ("is_relation_field", ofType .boolean),
      ("has_connections", ofType .boolean),
      ("default_kind", .all [.oneOf ["none", "literal", "now", "autoincrement", "uuid"]]),
      ("default_value", .all [.types [.string, .null]]),
      ("has_relation_attribute", ofType .boolean),
      ("relation_columns", names),
      ("relation_references", names)]

def model : Constraint :=
  record ["name", "fields"] [("name", identifier), ("fields", listOf field)]

def enumeration : Constraint :=
  record ["name", "values"] [("name", identifier), ("values", names)]

def relationship : Constraint :=
  record
    ["source_model", "source_field", "target_model", "cardinality", "display_label"]
    [("source_model", identifier),
      ("source_field", identifier),
      ("target_model", identifier),
      ("cardinality", .all [.oneOf ["OneToOne", "OneToMany", "ManyToOne", "ManyToMany"]]),
      ("foreign_key_columns", names),
      ("referenced_columns", names),
      ("display_label", ofType .string),
      ("source_handle", ofType .string),
      ("target_handle", ofType .string)]

/-- A canonical schema. -/
def canonical : Constraint :=
  record ["models", "enums", "relationships"]
    [("models", listOf model),
      ("enums", listOf enumeration),
      ("relationships", listOf relationship)]

end Crowsfoot.JsonSchema
