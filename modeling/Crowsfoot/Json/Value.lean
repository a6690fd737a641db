import Crowsfoot.Assoc

/-!
# JSON values

The value type of JSON texts and of configuration files.  Integers are exact
and of any size; a number written with a point or an exponent is a double
precision number.  The members of an object keep the order in which their
names first appear.
-/

namespace Crowsfoot.Json

/-- A JSON value. -/
inductive Value
  | null
  | bool (truth : Bool)
  | int (number : Int)
  | float (number : Float)
  | string (text : String)
  | array (items : List Value)
  | object (members : List (String × Value))
  deriving Inhabited

namespace Value

/-- The members of an object; other values have none. -/
def members : Value → List (String × Value)
  | .object members => members
  | _ => []

/-- The member of an object with a given name. -/
def get? (value : Value) (name : String) : Option Value :=
  value.members.lookup name

/-- The member with a given name, `null` where it is missing. -/
def get (value : Value) (name : String) : Value :=
  (value.get? name).getD .null

/-- Whether an object has a member with a given name. -/
def has (value : Value) (name : String) : Bool :=
  (value.get? name).isSome

/-- A value that says something: not null, false or zero, and not empty. -/
def isFilled : Value → Bool
  | .null => false
  | .bool truth => truth
  | .int number => number != 0
  | .float number => !(number == 0.0)
  | .string text => text != ""
  | .array items => !items.isEmpty
  | .object members => !members.isEmpty

def isObject : Value → Bool
  | .object _ => true
  | _ => false

/-- A list of strings. -/
def strings (texts : List String) : Value :=
  .array (texts.map .string)

end Value

end Crowsfoot.Json
