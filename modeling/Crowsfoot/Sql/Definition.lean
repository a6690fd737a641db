import Crowsfoot.Document
import Crowsfoot.ScalarKind
import Crowsfoot.Sql.Default
import Crowsfoot.Sql.Name

/-!
# Definitions of a table

A table body is a list of definitions.  A definition that holds a foreign key
clause is a foreign key, or is passed over if the clause is incomplete; a key,
index or check is passed over; every other definition that begins with a name
and a type word is a column, whose constraints are found anywhere after the
type.
-/

namespace Crowsfoot.Sql

open Crowsfoot.Text

/-- The list in parentheses at the beginning of a text, blanks aside. -/
def parenthesizedList? (text : List Char) : Option (List Char × List Char) :=
  match skipBlanks text with
  | '(' :: inside => upTo? ')' inside
  | _ => none

/-- The table and the columns of a references clause. -/
structure Reference where
  table : List Char
  columns : List (List Char)

/-- A references clause.  Without a list of columns it means the column
`id`. -/
def reference? (text : List Char) : Option Reference := do
  let rest ← keyword? "references" text
  let rest ← blanks? rest
  let (table, rest) ← qualifiedName? rest
  let columns := match parenthesizedList? rest with
    | some (inside, _) => nameList inside
    | none => []
  pure ⟨unqualified table, if columns.isEmpty then ["id".toList] else columns⟩

/-- A foreign key clause: its columns and its references clause. -/
def foreignKeyClause? (text : List Char) : Option (List (List Char) × Reference) := do
  let rest ← keywords? ["foreign", "key"] text
  let (columns, rest) ← parenthesizedList? rest
  let reference ← reference? (skipBlanks rest)
  pure (nameList columns, reference)

/-- The foreign key from some columns along a reference. -/
def foreignKey (columns : List (List Char)) (reference : Reference) : ForeignKey where
  columns := columns.map String.ofList
  refTable := String.ofList reference.table
  refColumns := reference.columns.map String.ofList

/-- A keyword that is not the beginning of a longer word. -/
def wholeKeyword? (word : String) (text : List Char) : Option (List Char) := do
  let rest ← keyword? word text
  if wordFollows rest then none else pure rest

/-- Whether a text goes on with a parenthesis, blanks aside. -/
def parenFollows (text : List Char) : Bool :=
  (skipBlanks text).head? == some '('

/-- Whether a definition begins with the words of a table constraint. -/
def beginsConstraint (definition : List Char) : Bool :=
  (wholeKeyword? "constraint" definition).isSome ||
    (match keywords? ["primary", "key"] definition with
      | some rest => !wordFollows rest
      | none => false) ||
    (match keyword? "check" definition with
      | some rest => parenFollows rest
      | none => false) ||
    (match keyword? "unique" definition with
      | some rest =>
          (wholeKeyword? "key" (skipBlanks rest)).isSome ||
            (wholeKeyword? "index" (skipBlanks rest)).isSome || parenFollows rest
      | none => false)

/-- Words that begin an index, or name a column. -/
def indexWords : List String :=
  ["key", "index", "fulltext"]

/-- Whether a definition begins an index: an index word that no type
follows. -/
def beginsIndex (definition : List Char) : Bool :=
  let (first, rest) := splitWord definition
  let second := firstWord rest
  !second.isEmpty && indexWords.contains (lower (String.ofList first)) &&
    !isKnownType SourceFormat.sql.name (String.ofList second)

/-- Whether a definition constrains the table and declares no column. -/
def isTableConstraint (definition : List Char) : Bool :=
  beginsConstraint definition || beginsIndex definition

/-! ## Columns -/

/-- The quotation marks of column names. -/
def isNameMark (c : Char) : Bool :=
  c == '\x22' || c == '\x60'

/-- The name at the beginning of a column definition. -/
def columnName? : List Char → Option (List Char × List Char)
  | [] => none
  | c :: rest =>
      if isNameMark c then
        match run? (!isNameMark ·) rest with
        | some (name, _ :: after) => some (name, after)
        | _ => none
      else name? (c :: rest)

/-- A character of a type word after its first letter. -/
def isTypeChar (c : Char) : Bool :=
  c.isAlphanum || c == '_'

/-- The type at the beginning of a text, without blanks: a word, parameters,
and array brackets. -/
def typeToken? : List Char → Option (List Char × List Char)
  | [] => none
  | c :: rest =>
      if !c.isAlpha then none
      else
        let word := c :: rest.takeWhile isTypeChar
        let afterWord := rest.dropWhile isTypeChar
        let (parameters, afterParameters) := match parenthesizedList? afterWord with
          | some (inside, after) => ('(' :: (inside ++ [')']), after)
          | none => ([], afterWord)
        match afterParameters with
        | '[' :: ']' :: after => some (removeBlanks (word ++ parameters) ++ ['[', ']'], after)
        | after => some (removeBlanks (word ++ parameters), after)

/-- Whether a keyword stands in a text as a whole word.  `inWord` tells
whether a word character stands before the text. -/
def hasWholeKeyword (word : String) (inWord : Bool) : List Char → Bool
  | [] => false
  | c :: rest =>
      (!inWord && (wholeKeyword? word (c :: rest)).isSome) ||
        hasWholeKeyword word (isWord c) rest

/-- The name, the type and the constraints of a column definition. -/
def columnParts? (definition : List Char) : Option (List Char × List Char × List Char) := do
  let (name, rest) ← columnName? definition
  let rest ← blanks? rest
  let (type, rest) ← typeToken? rest
  pure (name, type, skipBlanks rest)

/-- Whether the constraints of a column make it a primary key. -/
def isPrimaryKey (constraints : List Char) : Bool :=
  occurs (keywords? ["primary", "key"]) constraints

/-- Whether the constraints of a column refuse null. -/
def isNotNull (constraints : List Char) : Bool :=
  occurs (keywords? ["not", "null"]) constraints

/-- The column with a given name, type and constraints. -/
def columnOf (name type constraints : List Char) : Column where
  name := String.ofList name
  typeToken := String.ofList type
  constraints := String.ofList (strip constraints)
  nullable := !isPrimaryKey constraints && !isNotNull constraints
  primaryKey := isPrimaryKey constraints
  unique := hasWholeKeyword "unique" false constraints
  defaultText := (defaultValue? constraints).map String.ofList

/-- What a definition adds to its table. -/
inductive Definition
  | key (key : ForeignKey)
  | column (column : Column) (key? : Option ForeignKey)
  | nothing

/-- Whether a definition speaks of a foreign key. -/
def mentionsForeignKey (definition : List Char) : Bool :=
  occurs (keywords? ["foreign", "key"]) definition

/-- Read a definition. -/
def Definition.read (definition : List Char) : Definition :=
  match find? foreignKeyClause? definition with
  | some (columns, reference) => .key (foreignKey columns reference)
  | none =>
      if mentionsForeignKey definition || isTableConstraint definition then .nothing
      else match columnParts? definition with
        | none => .nothing
        | some (name, type, constraints) =>
            .column (columnOf name type constraints)
              ((find? reference? constraints).map (foreignKey [name]))

/-- The column that a definition declares. -/
def Definition.column? : Definition → Option Column
  | .column declared _ => some declared
  | _ => none

/-- The foreign key that a definition declares. -/
def Definition.key? : Definition → Option ForeignKey
  | .key declared => some declared
  | .column _ declared? => declared?
  | .nothing => none

end Crowsfoot.Sql
