import Crowsfoot.Json.Value

/-!
# Documents

What a source text declares, before classification: tables with their columns
and foreign keys, and enums, in the order of the text.  All notations are read
into documents, and a document can be written in the schema DSL.
-/

namespace Crowsfoot

/-- A column as it is declared.  `constraints` is the text after the type;
`typeFormat` is the format hint of a JSON definition, `null` elsewhere. -/
structure Column where
  name : String
  typeToken : String
  constraints : String := ""
  nullable : Bool := true
  primaryKey : Bool := false
  unique : Bool := false
  isList : Bool := false
  defaultText : Option String := none
  typeFormat : Json.Value := .null

/-- A foreign key.  `fieldName` names the field that stands for it in the
schema DSL; an empty name leaves the choice to the referenced table. -/
structure ForeignKey where
  columns : List String
  refTable : String
  refColumns : List String
  fieldName : String := ""
  deriving DecidableEq

structure Table where
  name : String
  columns : List Column := []
  foreignKeys : List ForeignKey := []

/-- An enum with its values. -/
structure Enumeration where
  name : String
  values : List String := []
  deriving DecidableEq

/-- A document.  `format` names the notation that it was read from. -/
structure Document where
  format : String
  tables : List Table := []
  enums : List Enumeration := []

/-- A document that declares nothing. -/
def Document.isEmpty (document : Document) : Bool :=
  document.tables.isEmpty && document.enums.isEmpty

end Crowsfoot
