import Crowsfoot.Issue
import Crowsfoot.JsonSchema.Constraint

/-!
# Violations as issues

Violations become errors in the order of their paths, where every step counts
as text.  The path of an issue names the items of an array that have a name,
and numbers the others.
-/

namespace Crowsfoot.JsonSchema

open Crowsfoot.Json (Value)
open Crowsfoot.Text (joined)

/-- The name of an item, or its index. -/
def itemSegment (item : Value) (index : Nat) : String :=
  match item.get "name" with
  | .string name => if name == "" then toString index else name
  | _ => toString index

/-- The segments of a path through a value. -/
def pathSegments (value : Value) : List Step → List String
  | [] => []
  | .item index :: steps =>
      match value with
      | .array items =>
          match items[index]? with
          | some item => itemSegment item index :: pathSegments item steps
          | none => toString index :: pathSegments .null steps
      | _ => toString index :: pathSegments .null steps
  | .member name :: steps => name :: pathSegments (value.get name) steps

/-- The path of an issue. -/
def namedPath (value : Value) (steps : List Step) : String :=
  "/" ++ joined "/" (pathSegments value steps)

/-- Whether a violation is reported no later than another. -/
def Violation.precedes (first second : Violation) : Bool :=
  !decide (second.path.map Step.text < first.path.map Step.text)

/-- The issue of a violation. -/
def Violation.issue (value : Value) (violation : Violation) : Issue where
  severity := .error
  code := "SCHEMA_VALIDATION_FAILED"
  message := violation.message
  path := namedPath value violation.path

/-- The issues of the violations by a value. -/
def issuesOf (value : Value) (violations : List Violation) : List Issue :=
  (violations.mergeSort Violation.precedes).map (Violation.issue value)

/-- The issues of a value under a constraint. -/
def Constraint.issues (constraint : Constraint) (value : Value) :
    Except BadPattern (List Issue) :=
  (constraint.violations value).map (issuesOf value)

end Crowsfoot.JsonSchema
