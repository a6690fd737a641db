import Crowsfoot.Json.Printer
import Crowsfoot.Text.Blank
import Crowsfoot.Text.Case

/-!
# Scalar kinds and type tokens

Every column type of every notation is one of nine scalar kinds, or refers to
a model or an enum.  Each notation has a table of type words; a word that its
table does not know stands for text.  A type token is looked up by its first
word, without letter case and without parameters, so `VARCHAR (255)` and
`double precision` are found as `varchar` and `double`.
-/

namespace Crowsfoot

/-- The kind of a field. -/
inductive ScalarKind
  | text
  | integer
  | bigInteger
  | float
  | decimal
  | boolean
  | dateTime
  | json
  | bytes
  | modelReference
  | enumReference
  deriving DecidableEq

namespace ScalarKind

/-- The name of a kind in a canonical schema. -/
def name : ScalarKind → String
  | text => "Text"
  | integer => "Integer"
  | bigInteger => "BigInteger"
  | float => "Float"
  | decimal => "Decimal"
  | boolean => "Boolean"
  | dateTime => "DateTime"
  | json => "Json"
  | bytes => "Bytes"
  | modelReference => "ModelReference"
  | enumReference => "EnumReference"

/-- All kinds. -/
def all : List ScalarKind :=
  [text, integer, bigInteger, float, decimal, boolean, dateTime, json, bytes,
    modelReference, enumReference]

theorem mem_all (kind : ScalarKind) : kind ∈ all := by
  cases kind <;> decide

/-- The kind with a given name. -/
def ofName? (name : String) : Option ScalarKind :=
  all.find? (·.name == name)

/-- Whether a kind refers to a declared block. -/
def isReference : ScalarKind → Bool
  | modelReference | enumReference => true
  | _ => false

/-- The type word of a kind in the schema DSL; references have no word of
their own and count as strings. -/
def dslName : ScalarKind → String
  | text => "String"
  | integer => "Int"
  | bigInteger => "BigInt"
  | float => "Float"
  | decimal => "Decimal"
  | boolean => "Boolean"
  | dateTime => "DateTime"
  | json => "Json"
  | bytes => "Bytes"
  | modelReference | enumReference => "String"

end ScalarKind

/-- The notations that a schema can be written in. -/
inductive SourceFormat
  | dsl
  | sql
  | json
  deriving DecidableEq

namespace SourceFormat

def name : SourceFormat → String
  | dsl => "dsl"
  | sql => "sql"
  | json => "json"

/-- The notation with a given name. -/
def ofName? (name : String) : Option SourceFormat :=
  [dsl, sql, json].find? (·.name == name)

/-- The type words of a notation. -/
def typeWords : SourceFormat → List (String × ScalarKind)
  | dsl =>
      [("string", .text), ("int", .integer), ("bigint", .bigInteger), ("float", .float),
        ("decimal", .decimal), ("boolean", .boolean), ("datetime", .dateTime),
        ("json", .json), ("bytes", .bytes)]
  | sql =>
      [("int", .integer), ("integer", .integer), ("int2", .integer), ("int4", .integer),
        ("smallint", .integer), ("tinyint", .integer), ("mediumint", .integer),
        ("serial", .integer), ("smallserial", .integer),
        ("bigint", .bigInteger), ("int8", .bigInteger), ("bigserial", .bigInteger),
        ("varchar", .text), ("char", .text), ("character", .text), ("nvarchar", .text),
        ("nchar", .text), ("text", .text), ("tinytext", .text), ("mediumtext", .text),
        ("longtext", .text), ("citext", .text), ("uuid", .text),
        ("decimal", .decimal), ("numeric", .decimal), ("money", .decimal),
        ("float", .float), ("float4", .float), ("float8", .float), ("double", .float),
        ("real", .float),
        ("date", .dateTime), ("datetime", .dateTime), ("datetime2", .dateTime),
        ("timestamp", .dateTime), ("timestamptz", .dateTime), ("time", .dateTime),
        ("timetz", .dateTime),
        ("boolean", .boolean), ("bool", .boolean), ("bit", .boolean),
        ("json", .json), ("jsonb", .json),
        ("blob", .bytes), ("longblob", .bytes), ("bytea", .bytes), ("binary", .bytes),
        ("varbinary", .bytes)]
  | json =>
      [("string", .text), ("text", .text), ("varchar", .text), ("char", .text),
        ("int", .integer), ("integer", .integer), ("number", .integer),
        ("smallint", .integer), ("bigint", .bigInteger), ("long", .bigInteger),
        ("float", .float), ("double", .float), ("real", .float),
        ("decimal", .decimal), ("numeric", .decimal),
        ("boolean", .boolean), ("bool", .boolean),
        ("date", .dateTime), ("datetime", .dateTime), ("timestamp", .dateTime),
        ("json", .json), ("jsonb", .json), ("object", .json),
        ("bytes", .bytes), ("binary", .bytes), ("blob", .bytes)]

end SourceFormat

/-- Format hints of JSON definitions, which refine the type word. -/
def formatHints : List (String × ScalarKind) :=
  [("date", .dateTime), ("date-time", .dateTime), ("time", .dateTime),
    ("int32", .integer), ("int64", .bigInteger), ("float", .float), ("double", .float),
    ("byte", .bytes), ("binary", .bytes)]

/-- The type words of the schema DSL, in their exact spelling. -/
def dslScalars : List String :=
  ["String", "Int", "BigInt", "Float", "Decimal", "Boolean", "DateTime", "Json", "Bytes"]

/-- Whether a type token is a scalar of the schema DSL. -/
def isDslScalar (token : String) : Bool :=
  dslScalars.contains token

/-- The word by which a type token is looked up. -/
def typeWord (token : String) : String :=
  let lowered := Text.lowerChars (Text.strip token.toList)
  String.ofList (Text.firstWord (lowered.takeWhile (· != '(')))

/-- The type words of the notation with a given name, in either case; other
notations have none. -/
def typeWordsOf (format : String) : List (String × ScalarKind) :=
  match SourceFormat.ofName? (Text.lower format) with
  | some known => known.typeWords
  | none => []

/-- Whether a notation knows a type token. -/
def isKnownType (format token : String) : Bool :=
  ((typeWordsOf format).lookup (typeWord token)).isSome

/-- The kind that a format hint of a JSON definition asks for. -/
def hintedKind? (format : String) (hint : Json.Value) : Option ScalarKind :=
  if Text.lower format == SourceFormat.json.name && hint.isFilled then
    formatHints.lookup (Text.lower (Text.stripped hint.text))
  else none

/-- The kind of a type token: what its format hint asks for, else what its
notation knows, else text. -/
def scalarKind (format token : String) (hint : Json.Value) : ScalarKind :=
  match hintedKind? format hint with
  | some kind => kind
  | none => ((typeWordsOf format).lookup (typeWord token)).getD .text

end Crowsfoot
