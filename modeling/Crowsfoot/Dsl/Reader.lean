import Crowsfoot.Document
import Crowsfoot.Dsl.Attribute
import Crowsfoot.Dsl.Block
import Crowsfoot.ScalarKind

/-!
# Reading the schema DSL

A model block declares one column per line: a name, a type with an optional
`[]` or `?`, and attributes.  An enum block declares one value per line.
Comment lines, block attributes and lines of any other shape are passed over.
-/

namespace Crowsfoot

open Crowsfoot.Text

namespace Dsl

/-- How the type of a field is modified. -/
inductive Modifier
  | none
  | list
  | optional
  deriving DecidableEq

/-- The modifier after a type. -/
def modifier : List Char → Modifier × List Char
  | '[' :: ']' :: rest => (.list, rest)
  | '?' :: rest => (.optional, rest)
  | rest => (.none, rest)

/-- The parts of a field line: name, type, modifier and attributes. -/
def fieldLine? (line : List Char) : Option (List Char × List Char × Modifier × List Char) := do
  let (name, rest) ← name? line
  let rest ← blanks? rest
  let (type, rest) ← name? rest
  let (modified, rest) := modifier rest
  match rest with
  | [] => pure (name, type, modified, [])
  | _ =>
      let attributes ← blanks? rest
      pure (name, type, modified, attributes)

/-- Whether a line of a block is a comment or a block attribute. -/
def isAside (line : List Char) : Bool :=
  (literal? "//".toList line).isSome || (literal? "@@".toList line).isSome

/-- The column that a line of a model declares. -/
def column? (line : List Char) : Option Column := do
  let (name, type, modified, attributes) ← fieldLine? line
  let constraints := String.ofList attributes
  pure
    { name := String.ofList name
      typeToken := String.ofList type
      constraints := constraints
      nullable := modified == .optional
      primaryKey := isPrimaryKey constraints
      unique := isUnique constraints
      isList := modified == .list
      defaultText := argument? constraints "@default" }

/-- The lines of a block that can declare something. -/
def declarations (body : List Char) : List (List Char) :=
  (strippedLines body).filter (!isAside ·)

/-- The table of a model block. -/
def Block.table (block : Block) : Table where
  name := String.ofList block.name
  columns := (declarations block.body).filterMap column?

/-- The enum of an enum block: the first word of each line. -/
def Block.enumeration (block : Block) : Enumeration where
  name := String.ofList block.name
  values := (declarations block.body).map fun line => String.ofList (firstWord line)

/-- The document of a list of blocks. -/
def documentOf (blocks : List Block) : Document where
  format := SourceFormat.dsl.name
  tables := (blocks.filter (·.kind == .model)).map Block.table
  enums := (blocks.filter (·.kind == .enumeration)).map Block.enumeration

end Dsl

/-- Read a text of the schema DSL. -/
def Document.ofDsl (text : String) : Except SourceError Document :=
  (Dsl.blocksFrom true text.toList).map Dsl.documentOf

end Crowsfoot
