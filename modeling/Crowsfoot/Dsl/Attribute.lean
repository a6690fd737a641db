import Crowsfoot.Text.Scan
import Crowsfoot.Text.Split

/-!
# Attributes of a field

The text after the type of a field holds attributes such as `@id`, `@unique`,
`@default(…)` and `@relation(fields: […], references: […])`.  This module
finds them and takes out their arguments.
-/

namespace Crowsfoot.Dsl

open Crowsfoot.Text

/-- An attribute name that is not the beginning of a longer word. -/
def attribute? (name : String) (text : List Char) : Option (List Char) := do
  let rest ← literal? name.toList text
  if wordFollows rest then none else pure rest

/-- Whether an attribute occurs. -/
def hasAttribute (name : String) (attributes : List Char) : Bool :=
  occurs (attribute? name) attributes

/-- Whether the attributes of a field make it a primary key. -/
def isPrimaryKey (attributes : String) : Bool :=
  hasAttribute "@id" attributes.toList

/-- Whether the attributes of a field make it unique. -/
def isUnique (attributes : String) : Bool :=
  hasAttribute "@unique" attributes.toList

/-- Whether the attributes of a field declare a relation. -/
def hasRelation (attributes : String) : Bool :=
  hasAttribute "@relation" attributes.toList

/-- The opening parenthesis of an argument after an attribute name. -/
def openingOf? (name : String) (text : List Char) : Option (List Char) := do
  let rest ← literal? name.toList text
  match skipBlanks rest with
  | '(' :: argument => pure argument
  | _ => none

/-- The text up to the parenthesis that closes an argument, or all of it if
none does.  `before` is the character before the text; a quote after a
backslash does not begin or end a string. -/
def argumentText (before : Char) (inString : Bool) (depth : Nat) : List Char → List Char
  | [] => []
  | c :: rest =>
      if c == '\x22' && before != '\\' then c :: argumentText c (!inString) depth rest
      else if inString then c :: argumentText c inString depth rest
      else if c == '(' then c :: argumentText c inString (depth + 1) rest
      else if c == ')' then
        match depth with
        | 0 => []
        | outer + 1 => c :: argumentText c inString outer rest
      else c :: argumentText c inString depth rest

/-- The argument of the first attribute with a given name that has one. -/
def argumentChars? (name : String) (attributes : List Char) : Option (List Char) :=
  (find? (openingOf? name) attributes).map fun argument =>
    strip (argumentText '(' false 0 argument)

/-- The argument of an attribute, without the parentheses around it. -/
def argument? (attributes name : String) : Option String :=
  (argumentChars? name attributes.toList).map String.ofList

/-- The text between the brackets of `key: […]`. -/
def bracketed? (key : String) (text : List Char) : Option (List Char) := do
  let rest ← literal? key.toList text
  match skipBlanks rest with
  | ':' :: afterColon =>
      match skipBlanks afterColon with
      | '[' :: names =>
          let (inside, _) ← upTo? ']' names
          pure inside
      | _ => none
  | _ => none

/-- The names of the first `key: […]`. -/
def namesOf (key : String) (attributes : List Char) : List String :=
  match find? (bracketed? key) attributes with
  | some inside => (strippedPieces (· == ',') inside).map String.ofList
  | none => []

/-- The columns that a relation is built on and the columns that it
references; both are empty without a relation. -/
def relationColumns (attributes : String) : List String × List String :=
  if hasRelation attributes then
    (namesOf "fields" attributes.toList, namesOf "references" attributes.toList)
  else ([], [])

end Crowsfoot.Dsl
