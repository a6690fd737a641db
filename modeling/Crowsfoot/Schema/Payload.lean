import Crowsfoot.Schema

/-!
# Schemas as JSON values

The form in which a canonical schema leaves the program.
-/

namespace Crowsfoot

open Json (Value)

def Field.toJson (field : Field) : Value :=
  .object
    [("name", .string field.name),
      ("canonical_type", .string field.kind.name),
      ("type_name", .string field.typeName),
      ("is_list", .bool field.isList),
      ("is_nullable", .bool field.isNullable),
      ("is_primary_key", .bool field.isPrimaryKey),
      ("is_unique", .bool field.isUnique),
      ("is_foreign_key", .bool field.isForeignKey),
      ("is_relation_field", .bool field.isRelationField),
      ("has_connections", .bool field.hasConnections),
      ("default_kind", .string field.defaultKind.name),
      ("default_value", (field.defaultValue.map Value.string).getD .null),
      ("has_relation_attribute", .bool field.hasRelationAttribute),
      ("relation_columns", .strings field.relationColumns),
      ("relation_references", .strings field.relationReferences)]

def Model.toJson (model : Model) : Value :=
  .object [("name", .string model.name), ("fields", .array (model.fields.map Field.toJson))]

def Enumeration.toJson (enumeration : Enumeration) : Value :=
  .object [("name", .string enumeration.name), ("values", .strings enumeration.values)]

def Relationship.toJson (relationship : Relationship) : Value :=
  .object
    [("source_model", .string relationship.sourceModel),
      ("source_field", .string relationship.sourceField),
      ("target_model", .string relationship.targetModel),
      ("cardinality", .string relationship.cardinality.name),
      ("foreign_key_columns", .strings relationship.foreignKeyColumns),
      ("referenced_columns", .strings relationship.referencedColumns),
      ("display_label", .string relationship.displayLabel),
      ("source_handle", .string relationship.sourceHandle),
      ("target_handle", .string relationship.targetHandle)]

def Schema.toJson (schema : Schema) : Value :=
  .object
    [("models", .array (schema.models.map Model.toJson)),
      ("enums", .array (schema.enums.map Enumeration.toJson)),
      ("relationships", .array (schema.relationships.map Relationship.toJson))]

end Crowsfoot
