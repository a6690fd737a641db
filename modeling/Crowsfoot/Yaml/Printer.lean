import Crowsfoot.Json.Printer
import Crowsfoot.Yaml.Scalar

/-!
# Writing YAML

Values in block style: each member of an object and each item of an array on
lines of its own, two blanks deeper at each level, where the items of an array
stand below the name of the array without further indentation.
-/

namespace Crowsfoot.Yaml

open Crowsfoot.Json (Value)
open Crowsfoot.Text (joined)

/-- Entries that begin at the same column. -/
def stacked (indent : Nat) (entries : List String) : String :=
  joined (String.ofList (lineBreak indent)) entries

/-- The numbers of YAML. -/
def numberLayout : Decimal.Layout :=
  { Decimal.Layout.plain with infinity := ".inf", notANumber := ".nan" }

mutual

/-- What follows the name of a member.  `indent` is the column of the name,
and `column` the place after its colon. -/
def afterName (indent column : Nat) : Value → String
  | .null => " null"
  | .bool truth => if truth then " true" else " false"
  | .int number => " " ++ toString number
  | .float number => " " ++ numberLayout.write number
  | .string text => " " ++ scalarText (indent + 2) (column + 1) text
  | .array items =>
      if items.isEmpty then " []"
      else String.ofList (lineBreak indent) ++ stacked indent (itemEntries indent items)
  | .object members =>
      if members.isEmpty then " \x7b\x7d"
      else
        String.ofList (lineBreak (indent + 2)) ++
          stacked (indent + 2) (memberEntries (indent + 2) members)

/-- What follows the dash of an item at column `indent`. -/
def afterDash (indent : Nat) : Value → String
  | .null => " null"
  | .bool truth => if truth then " true" else " false"
  | .int number => " " ++ toString number
  | .float number => " " ++ numberLayout.write number
  | .string text => " " ++ scalarText (indent + 2) (indent + 2) text
  | .array items =>
      if items.isEmpty then " []"
      else " " ++ stacked (indent + 2) (itemEntries (indent + 2) items)
  | .object members =>
      if members.isEmpty then " \x7b\x7d"
      else " " ++ stacked (indent + 2) (memberEntries (indent + 2) members)

def itemEntries (indent : Nat) : List Value → List String
  | [] => []
  | item :: items => ("-" ++ afterDash indent item) :: itemEntries indent items

def memberEntries (indent : Nat) : List (String × Value) → List String
  | [] => []
  | (name, value) :: members =>
      (name ++ ":" ++ afterName indent (indent + name.length + 1) value) ::
        memberEntries indent members

end

/-- The YAML text of an object. -/
def ofMembers (members : List (String × Value)) : String :=
  if members.isEmpty then "\x7b\x7d\n" else stacked 0 (memberEntries 0 members) ++ "\n"

end Crowsfoot.Yaml
