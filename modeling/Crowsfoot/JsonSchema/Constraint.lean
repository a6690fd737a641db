import Crowsfoot.Json.Printer
import Crowsfoot.Text.Pattern.Fault
import Crowsfoot.Text.Pattern.Matching

/-!
# JSON Schema constraints

The part of JSON Schema that describes objects, arrays and strings: types,
required, declared and undeclared members, array items, patterns, lengths and
enumerations.  A constraint speaks only of the values it can apply to, and all
its violations are reported, each with the path that leads to it.

A pattern that cannot be read harms only once a string is to be held to it;
then there are no violations to report.
-/

namespace Crowsfoot.JsonSchema

open Crowsfoot.Json (Value shownText)
open Crowsfoot.Text (joined Pattern)

/-- The types of JSON Schema. -/
inductive ValueType
  | null
  | boolean
  | integer
  | number
  | string
  | array
  | object
  deriving DecidableEq

namespace ValueType

def name : ValueType → String
  | null => "null"
  | boolean => "boolean"
  | integer => "integer"
  | number => "number"
  | string => "string"
  | array => "array"
  | object => "object"

/-- The type with a given name. -/
def ofName? (name : String) : Option ValueType :=
  [null, boolean, integer, number, string, array, object].find? (·.name == name)

/-- Whether a value has a type. -/
def admits : ValueType → Value → Bool
  | null, .null => true
  | boolean, .bool _ => true
  | integer, .int _ => true
  | integer, .float x => x.floor == x && x.isFinite
  | number, .int _ => true
  | number, .float _ => true
  | string, .string _ => true
  | array, .array _ => true
  | object, .object _ => true
  | _, _ => false

end ValueType

/-! ## Constraints -/

/-- A text that was meant as a pattern. -/
structure BadPattern where
  source : String
  fault : Pattern.Fault
  deriving DecidableEq

/-- The wording of what is wrong with the text. -/
def BadPattern.message (bad : BadPattern) : String :=
  bad.fault.message bad.source

/-- A constraint on values. -/
inductive Constraint
  /-- No value is allowed. -/
  | nothing
  /-- All of several constraints. -/
  | all (parts : List Constraint)
  /-- One of several types. -/
  | types (types : List ValueType)
  /-- An object has these members. -/
  | required (names : List String)
  /-- An object has no other members than these. -/
  | closed (declared : List String)
  /-- Members of an object, where present, satisfy constraints. -/
  | members (constraints : List (String × Constraint))
  /-- All items of an array satisfy a constraint. -/
  | items (constraint : Constraint)
  /-- An array has no items. -/
  | noItems
  /-- A string matches a pattern. -/
  | pattern (source : String) (pattern : Pattern)
  /-- No string can be held to a pattern, for it cannot be read. -/
  | unreadable (bad : BadPattern)
  /-- A string has a least length. -/
  | minLength (length : Nat)
  /-- One of several strings. -/
  | oneOf (texts : List String)
  deriving Inhabited

/-- A step into a value. -/
inductive Step
  | member (name : String)
  | item (index : Nat)
  deriving DecidableEq

/-- The text of a step in a path. -/
def Step.text : Step → String
  | member name => name
  | item index => toString index

/-- A violation of a constraint and the path to it. -/
structure Violation where
  message : String
  path : List Step
  deriving DecidableEq

/-- A violation one step further down. -/
def Violation.under (step : Step) (violation : Violation) : Violation :=
  { violation with path := step :: violation.path }

/-- What holding a value to a constraint comes across. -/
abbrev Finding := Except BadPattern Violation

/-- A finding one step further down. -/
def Finding.under (step : Step) (finding : Finding) : Finding :=
  finding.map (Violation.under step)

/-- A violation at the value itself. -/
def violated (message : String) : List Finding := [.ok ⟨message, []⟩]

/-- The wording for members that are not declared. -/
def undeclaredMessage (names : List String) : String :=
  let verb := if names.length == 1 then "was" else "were"
  "Additional properties are not allowed (" ++
    joined ", " ((names.mergeSort (· ≤ ·)).map shownText) ++ " " ++ verb ++ " unexpected)"

/-- The wording for items where there are to be none.  One item alone is shown
without brackets. -/
def itemsMessage (items : List Value) : String :=
  let shown := match items with
    | [item] => item.shown
    | _ => (Value.array items).shown
  "Expected at most 0 items but found " ++ toString items.length ++ " extra: " ++ shown

/-- Put the findings of the items of an array under their indices. -/
def findingsOfItems (check : Value → List Finding) (index : Nat) :
    List Value → List Finding
  | [] => []
  | item :: items =>
      (check item).map (Finding.under (.item index)) ++
        findingsOfItems check (index + 1) items

mutual

/-- What holding a value to a constraint comes across, in order. -/
def Constraint.findings : Constraint → Value → List Finding
  | .nothing, value => violated ("False schema does not allow " ++ value.shown)
  | .all parts, value => findingsOfAll parts value
  | .types types, value =>
      if types.any (·.admits value) then []
      else
        violated (value.shown ++ " is not of type " ++
          joined ", " (types.map fun type => shownText type.name))
  | .required names, .object members =>
      (names.filter fun name => !Assoc.hasKey members name).flatMap fun name =>
        violated (shownText name ++ " is a required property")
  | .closed declared, .object members =>
      let undeclared := (Assoc.keys members).filter fun name => !declared.contains name
      if undeclared.isEmpty then [] else violated (undeclaredMessage undeclared)
  | .members constraints, .object members => findingsOfMembers constraints members
  | .items constraint, .array items => findingsOfItems constraint.findings 0 items
  | .noItems, .array items => if items.isEmpty then [] else violated (itemsMessage items)
  | .pattern source pattern, .string text =>
      if pattern.occursIn text then []
      else violated (shownText text ++ " does not match " ++ shownText source)
  | .unreadable bad, .string _ => [.error bad]
  | .minLength least, .string text =>
      if least ≤ text.length then []
      else
        violated (shownText text ++
          (if least == 1 then " should be non-empty" else " is too short"))
  | .oneOf texts, value =>
      let listed := match value with
        | .string text => texts.contains text
        | _ => false
      if listed then []
      else violated (value.shown ++ " is not one of " ++ (Value.strings texts).shown)
  | _, _ => []

def findingsOfAll : List Constraint → Value → List Finding
  | [], _ => []
  | part :: parts, value => part.findings value ++ findingsOfAll parts value

def findingsOfMembers :
    List (String × Constraint) → List (String × Value) → List Finding
  | [], _ => []
  | (name, constraint) :: constraints, members =>
      (match members.lookup name with
        | some value => (constraint.findings value).map (Finding.under (.member name))
        | none => []) ++ findingsOfMembers constraints members

end

/-- The violations of a constraint by a value, or the first pattern that a
string was to be held to and that cannot be read. -/
def Constraint.violations (constraint : Constraint) (value : Value) :
    Except BadPattern (List Violation) :=
  (constraint.findings value).mapM id

end Crowsfoot.JsonSchema
