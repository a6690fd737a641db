import Crowsfoot.Json.Literal
import Crowsfoot.Text.Alphanumeric
import Crowsfoot.Text.Case
import Crowsfoot.Text.Digit
import Crowsfoot.Text.Scan

/-!
# Default expressions

Turns the default expression of a source into the argument of a `@default`
attribute.  The usual spellings of the current time, a fresh identifier and an
automatic number have function names in the DSL; booleans and numbers stay as
they are; a quoted string becomes a string literal; any other function call is
handed on to the database as `dbgenerated("…")`; what remains is quoted.
-/

namespace Crowsfoot.Dsl

open Crowsfoot.Text

/-- Whether the parenthesis that a text begins with is closed before its end.
Single quotes hide parentheses; `depth` counts the open ones. -/
def closesEarly (quoted : Bool) (depth : Nat) : List Char → Bool
  | [] => false
  | c :: rest =>
      if c == '\x27' then closesEarly (!quoted) depth rest
      else if quoted then closesEarly quoted depth rest
      else if c == '(' then closesEarly quoted (depth + 1) rest
      else if c == ')' then
        (depth == 1 && !rest.isEmpty) || closesEarly quoted (depth - 1) rest
      else closesEarly quoted depth rest

/-- A text without its first and last character. -/
def inner (text : List Char) : List Char :=
  (text.drop 1).dropLast

/-- Whether a text begins and ends with parentheses. -/
def hasOuterParens (text : List Char) : Bool :=
  text.head? == some '(' && text.getLast? == some ')'

/-- Remove one layer of parentheses that encloses a whole text. -/
def stripParens (text : List Char) : List Char :=
  if hasOuterParens text && !closesEarly false 0 text then strip (inner text) else text

/-- A doubled single quote stands for one. -/
def undouble : List Char → List Char
  | '\x27' :: '\x27' :: rest => '\x27' :: undouble rest
  | c :: rest => c :: undouble rest
  | [] => []

/-- The content of a text between single or double quotes.  A text between
double quotes is a JSON literal where it can be read as one. -/
def unquote? (text : List Char) : Option (List Char) :=
  if text.length < 2 || text.head? != text.getLast? then none
  else if text.head? == some '\x27' then some (undouble (inner text))
  else if text.head? == some '\x22' then
    some ((Json.unquote? text).getD (inner text))
  else none

/-- The text after an optional minus sign. -/
def unsigned : List Char → List Char
  | '-' :: rest => rest
  | text => text

/-- Whether a text is a decimal numeral with an optional sign and fraction. -/
def isNumber (text : List Char) : Bool :=
  match run? isDecimal (unsigned text) with
  | none => false
  | some (_, []) => true
  | some (_, '.' :: fraction) => !fraction.isEmpty && fraction.all isDecimal
  | some _ => false

/-- Whether a text is a function call on one line: a dotted name and
parentheses up to the end. -/
def isCall : List Char → Bool
  | [] => false
  | c :: rest =>
      (c.isAlpha || c == '_') &&
        match skipBlanks (rest.dropWhile fun c => isWord c || c == '.') with
        | '(' :: arguments => arguments.getLast? == some ')' && !arguments.contains '\n'
        | _ => false

/-- Spellings of the current time. -/
def nowForms : List String :=
  ["now()", "current_timestamp", "current_timestamp()", "localtimestamp", "getdate()", "now"]

/-- Spellings of a fresh identifier. -/
def uuidForms : List String :=
  ["uuid()", "gen_random_uuid()", "uuid_generate_v4()", "newid()"]

/-- Whether a lowered expression asks for the next number of a sequence. -/
def isAutoincrement (lowered : String) : Bool :=
  lowered == "autoincrement()" || lowered == "autoincrement" ||
    (literal? "nextval(".toList lowered.toList).isSome

/-- The expression as it is classified: without blanks around it and without
one layer of enclosing parentheses. -/
def bareExpression (expression : String) : List Char :=
  stripParens (strip expression.toList)

/-- The `@default` argument for a source expression; a null default has
none. -/
def defaultArgument? (expression : String) : Option String :=
  let text := bareExpression expression
  let lowered := lower (String.ofList text)
  if nowForms.contains lowered then some "now()"
  else if uuidForms.contains lowered then some "uuid()"
  else if isAutoincrement lowered then some "autoincrement()"
  else if lowered == "true" || lowered == "false" then some lowered
  else if lowered == "null" then none
  else if isNumber text then some (String.ofList text)
  else match unquote? text with
    | some content => some (Json.quote (String.ofList content))
    | none =>
        let literal := Json.quote (String.ofList text)
        if isCall text then some ("dbgenerated(" ++ literal ++ ")") else some literal

end Crowsfoot.Dsl
