import Crowsfoot.Json.Printer
import Crowsfoot.Json.Reader
import Crowsfoot.Text.Split

/-!
# Why a source is refused

The causes for which a source text cannot be read as a document, or a document
cannot be classified, each with its wording.
-/

namespace Crowsfoot

open Crowsfoot.Text (joined)

/-- The kinds of values whose parts cannot be listed. -/
inductive ScalarShape
  | none
  | bool
  | int
  | float
  deriving DecidableEq

def ScalarShape.message : ScalarShape → String
  | none => "'NoneType' object is not iterable"
  | bool => "'bool' object is not iterable"
  | int => "'int' object is not iterable"
  | float => "'float' object is not iterable"

/-- The parts of a value: the items of an array, the names of an object, the
characters of a string. -/
def Json.Value.parts : Json.Value → Except ScalarShape (List Json.Value)
  | .array items => .ok items
  | .object members => .ok (members.map fun member => .string member.1)
  | .string text => .ok (text.toList.map fun c => .string (String.singleton c))
  | .null => .error .none
  | .bool _ => .error .bool
  | .int _ => .error .int
  | .float _ => .error .float

/-- Why a source is refused. -/
inductive SourceError
  | openBlock (name : String)
  | openTable (name : String)
  | invalidJson (fault : Json.Fault)
  | unknownLayout
  | repeatedModels (names : List String)
  | repeatedEnums (names : List String)
  | sharedNames (names : List String)
  | notListable (shape : ScalarShape)
  | oversizedInteger (digits : Nat)
  deriving DecidableEq

namespace SourceError

/-- Whether the source itself is at fault.  Otherwise a value in it is used
where the layout has no use for it. -/
def isMalformed : SourceError → Bool
  | notListable _ | oversizedInteger _ => false
  | _ => true

/-- The wording of an integer that is too long. -/
def oversizedMessage (digits : Nat) : String :=
  "Exceeds the limit (" ++ toString Json.maxIntegerDigits ++
    " digits) for integer string conversion: value has " ++ toString digits ++
    " digits; use sys.set_int_max_str_digits() to increase the limit"

/-- The wording of a cause. -/
def message : SourceError → String
  | openBlock name => "Unbalanced braces in block '" ++ name ++ "'"
  | openTable name => "Unbalanced parentheses in CREATE TABLE " ++ name
  | invalidJson fault =>
      "Invalid JSON format: " ++ fault.reason.message ++ " (line " ++ toString fault.line ++
        ", column " ++ toString fault.column ++ ")"
  | unknownLayout => "Unsupported JSON schema format"
  | repeatedModels names => "Duplicate model names: " ++ joined ", " names
  | repeatedEnums names => "Duplicate enum names: " ++ joined ", " names
  | sharedNames names => "Names used by both a model and an enum: " ++ joined ", " names
  | notListable shape => shape.message
  | oversizedInteger digits => oversizedMessage digits

end SourceError

end Crowsfoot
