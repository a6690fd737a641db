import Crowsfoot.Assoc
import Crowsfoot.Document
import Crowsfoot.Dsl.Default
import Crowsfoot.Dsl.Identifier
import Crowsfoot.ScalarKind

/-!
# Writing the schema DSL

Writes a document as DSL text: a comment line, the enums, the models, each
block separated from the next by an empty line.  Names that are not
identifiers are written as identifiers, and the source name is kept in a
`@map` or `@@map` attribute.

A document read from an export of the DSL has its relation fields among its
columns already; the foreign keys of such fields are written on the line of
the column, all others get a line of their own.
-/

namespace Crowsfoot

namespace Dsl

open Crowsfoot.Text (joined lower upper)

/-- The form that the tables and enums of a notation are named in: names of
SQL are capitalised words, other names are kept. -/
def sourceName (format name : String) : String :=
  if format == SourceFormat.sql.name then pascal "_ -" name else name

/-- The identifier of a table or an enum. -/
def blockName (format name : String) : String :=
  identifier (sourceName format name)

/-- The attribute that keeps a source name. -/
def mapAttribute (mark name : String) : String :=
  mark ++ "map(" ++ Json.quote name ++ ")"

/-- The identifiers of the enums of a document, by their names in lower
case. -/
def enumNames (document : Document) : List (String × String) :=
  Assoc.ofList (document.enums.map fun enumeration =>
    (lower enumeration.name, blockName document.format enumeration.name))

/-- The type that a column is written with. -/
def typeName (document : Document) (column : Column) : String :=
  match (enumNames document).lookup (lower column.typeToken) with
  | some name => name
  | none =>
      if document.format == SourceFormat.dsl.name then identifier column.typeToken
      else (scalarKind document.format column.typeToken column.typeFormat).dslName

/-- Type words of columns that number themselves. -/
def serialTypes : List String :=
  ["serial", "bigserial", "smallserial"]

/-- Whether a type token names a self-numbering type, parameters aside. -/
def isSerial (token : String) : Bool :=
  serialTypes.contains (String.ofList ((lower token).toList.takeWhile (· != '(')))

/-- Whether a kind is an integer kind. -/
def isIntegerKind : ScalarKind → Bool
  | .integer | .bigInteger => true
  | _ => false

/-- The default that the declaration of a column states. -/
def declaredDefault? (column : Column) : Option String :=
  match column.defaultText with
  | some text => if text == "" then none else defaultArgument? text
  | none => none

/-- The default that a column is written with.  Self-numbering columns, and
integer primary keys without a default of their own outside the DSL, are
numbered automatically. -/
def columnDefault? (format : String) (column : Column) : Option String :=
  let declared := declaredDefault? column
  if isSerial column.typeToken then some "autoincrement()"
  else if column.primaryKey && declared.isNone &&
      isIntegerKind (scalarKind format column.typeToken column.typeFormat) &&
      format != SourceFormat.dsl.name then
    some "autoincrement()"
  else declared

/-- The identifiers of names, separated by commas. -/
def nameList (names : List String) : String :=
  joined ", " (names.map identifier)

/-- The attribute of a foreign key. -/
def relationAttribute (key : ForeignKey) : String :=
  "@relation(fields: [" ++ nameList key.columns ++ "], references: [" ++
    nameList key.refColumns ++ "])"

/-- The attributes of a column in the order in which they are written. -/
def columnAttributes (format : String) (column : Column) (key? : Option ForeignKey) :
    List String :=
  (if column.primaryKey then ["@id"] else []) ++
    (if column.unique && !column.primaryKey then ["@unique"] else []) ++
    (columnDefault? format column).toList.map (fun text => "@default(" ++ text ++ ")") ++
    key?.toList.map relationAttribute ++
    (if identifier column.name != column.name then [mapAttribute "@" column.name] else [])

/-- What follows the type of a column. -/
def modifierText (column : Column) : String :=
  if column.isList then "[]"
  else if column.nullable && !column.primaryKey then "?"
  else ""

/-- The line of a column. -/
def columnLine (document : Document) (column : Column) (key? : Option ForeignKey) : String :=
  let attributes := columnAttributes document.format column key?
  "  " ++ identifier column.name ++ " " ++ typeName document column ++ modifierText column ++
    (if attributes.isEmpty then "" else " " ++ joined " " attributes)

/-! ## Relations -/

/-- The foreign keys that are written on the line of a column, by the name of
that column. -/
def inlineKeys (document : Document) (table : Table) : List (String × ForeignKey) :=
  if document.format == SourceFormat.dsl.name then
    let declared := table.columns.map Column.name
    Assoc.ofList ((table.foreignKeys.filter fun key => declared.contains key.fieldName).map
      fun key => (key.fieldName, key))
  else []

/-- The name of the field that stands for a foreign key. -/
def keyFieldName (key : ForeignKey) : String :=
  identifier (if key.fieldName == "" then key.refTable else key.fieldName)

/-- The line of a foreign key that has no column of its own. -/
def relationLine (format : String) (key : ForeignKey) : String :=
  "  " ++ keyFieldName key ++ " " ++ blockName format key.refTable ++ " " ++
    relationAttribute key

/-- A block: its header, its lines, and its closing brace. -/
def blockText (keyword name : String) (lines : List String) : String :=
  joined "\n" ((keyword ++ " " ++ name ++ " \x7b") :: (lines ++ ["\x7d"]))

/-- The foreign keys of a table that get a line of their own. -/
def ownKeys (document : Document) (table : Table) : List ForeignKey :=
  table.foreignKeys.filter fun key => !Assoc.hasKey (inlineKeys document table) key.fieldName

/-- The lines that keep the source name of a table, where it was changed. -/
def mapLines (document : Document) (table : Table) : List String :=
  if blockName document.format table.name != sourceName document.format table.name then
    ["", "  " ++ mapAttribute "@@" table.name]
  else []

/-- The lines between the braces of a model. -/
def modelLines (document : Document) (table : Table) : List String :=
  (table.columns.map fun column =>
      columnLine document column ((inlineKeys document table).lookup column.name)) ++
    (ownKeys document table).map (relationLine document.format) ++
    mapLines document table

/-- The block of a table. -/
def modelText (document : Document) (table : Table) : String :=
  blockText "model" (blockName document.format table.name) (modelLines document table)

/-- The line of an enum value. -/
def valueLine (value : String) : String :=
  if identifier value == value then "  " ++ value
  else "  " ++ identifier value ++ " " ++ mapAttribute "@" value

/-- The block of an enum. -/
def enumText (document : Document) (enumeration : Enumeration) : String :=
  blockText "enum" (blockName document.format enumeration.name)
    (enumeration.values.map valueLine)

/-- The comment that says where a document comes from. -/
def originComment (header origin : String) : String :=
  "// " ++ header ++ " from " ++ upper origin

/-- The comment line of texts without one of their own. -/
def defaultHeader : String := "Auto-generated schema"

end Dsl

/-- The DSL text of a document.  An empty origin stands for the notation that
the document was read from. -/
def Document.toDsl (document : Document) (header origin : String) : String :=
  let source := if origin == "" then document.format else origin
  Text.joined "\n\n"
    (Dsl.originComment header source ::
      (document.enums.map (Dsl.enumText document) ++
        document.tables.map (Dsl.modelText document))) ++ "\n"

end Crowsfoot
