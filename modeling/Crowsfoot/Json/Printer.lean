import Crowsfoot.Decimal.Layout
import Crowsfoot.Json.Literal
import Crowsfoot.Json.Value
import Crowsfoot.Text.Printable
import Crowsfoot.Text.Split

/-!
# Writing values

Two ways to write a value.  As *JSON text*, either on one line or spread over
lines that are indented by two blanks for each level.  And *inside a message*,
where a string stands between single quotes unless it holds single quotes and
no double ones, and where the three words are `True`, `False` and `None`.
-/

namespace Crowsfoot.Json

open Crowsfoot.Text (joined isPrintable)

/-- The number layout of JSON texts. -/
def numberLayout : Decimal.Layout :=
  { Decimal.Layout.plain with infinity := "Infinity", notANumber := "NaN" }

/-- How a JSON text is spread: on one line, or over indented lines. -/
inductive Spread
  | line
  | lines (depth : Nat)

/-- The spread of the parts of a value. -/
def Spread.deeper : Spread → Spread
  | .line => .line
  | .lines depth => .lines (depth + 1)

/-- What stands before each part, or before a closing bracket. -/
def Spread.break : Spread → String
  | .line => ""
  | .lines depth => "\n" ++ String.ofList (List.replicate (2 * depth) ' ')

/-- What separates two parts. -/
def Spread.separator (spread : Spread) : String :=
  match spread with
  | .line => ", "
  | .lines _ => "," ++ spread.break

/-- Put brackets around parts. -/
def Spread.enclose (spread : Spread) (opening closing : String) (parts : List String) : String :=
  if parts.isEmpty then opening ++ closing
  else
    opening ++ spread.deeper.break ++ joined spread.deeper.separator parts ++
      spread.break ++ closing

mutual

/-- The JSON text of a value; `literal` writes its strings. -/
def Value.write (literal : String → String) (spread : Spread) : Value → String
  | .null => "null"
  | .bool truth => if truth then "true" else "false"
  | .int number => toString number
  | .float number => numberLayout.write number
  | .string text => literal text
  | .array items => spread.enclose "[" "]" (writeItems literal spread.deeper items)
  | .object members =>
      spread.enclose "\x7b" "\x7d" (writeMembers literal spread.deeper members)

def writeItems (literal : String → String) (spread : Spread) : List Value → List String
  | [] => []
  | item :: items => item.write literal spread :: writeItems literal spread items

def writeMembers (literal : String → String) (spread : Spread) :
    List (String × Value) → List String
  | [] => []
  | (name, value) :: members =>
      (literal name ++ ": " ++ value.write literal spread) ::
        writeMembers literal spread members

end

/-- The JSON text of a value over indented lines. -/
def Value.pretty (value : Value) : String :=
  value.write quote (.lines 0)

/-- The same in ASCII. -/
def Value.prettyAscii (value : Value) : String :=
  value.write quoteAscii (.lines 0)

/-- The JSON text of a value on one line. -/
def Value.compact (value : Value) : String :=
  value.write quote .line

/-- A character of a quoted text inside a message. -/
def shownChar (mark c : Char) : List Char :=
  let code := c.toNat
  if c == mark || c == '\\' then ['\\', c]
  else if c == '\t' then ['\\', 't']
  else if c == '\n' then ['\\', 'n']
  else if c == '\r' then ['\\', 'r']
  else if isPrintable c then [c]
  else if code < 0x100 then '\\' :: 'x' :: hexadecimal 2 code
  else if code < 0x10000 then '\\' :: 'u' :: hexadecimal 4 code
  else '\\' :: 'U' :: hexadecimal 8 code

/-- A quoted text inside a message. -/
def shownText (text : String) : String :=
  let chars := text.toList
  let mark := if chars.contains '\x27' && !chars.contains '\x22' then '\x22' else '\x27'
  String.ofList (mark :: (chars.flatMap (shownChar mark) ++ [mark]))

mutual

/-- A value inside a message. -/
def Value.shown : Value → String
  | .null => "None"
  | .bool truth => if truth then "True" else "False"
  | .int number => toString number
  | .float number => Decimal.Layout.plain.write number
  | .string text => shownText text
  | .array items => "[" ++ joined ", " (shownItems items) ++ "]"
  | .object members => "\x7b" ++ joined ", " (shownMembers members) ++ "\x7d"

def shownItems : List Value → List String
  | [] => []
  | item :: items => item.shown :: shownItems items

def shownMembers : List (String × Value) → List String
  | [] => []
  | (name, value) :: members =>
      (shownText name ++ ": " ++ value.shown) :: shownMembers members

end

/-- The text that a value stands for where a name is expected: a string is
itself, any other value is shown. -/
def Value.text : Value → String
  | .string text => text
  | value => value.shown

end Crowsfoot.Json
