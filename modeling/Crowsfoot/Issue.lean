import Crowsfoot.Json.Value
import Crowsfoot.Text.Split

/-!
# Issues

Findings about a schema.  Only errors make a schema unacceptable; warnings are
advice.
-/

namespace Crowsfoot

inductive Severity
  | error
  | warn
  deriving DecidableEq

def Severity.name : Severity → String
  | error => "error"
  | warn => "warn"

/-- The mark of a severity at the beginning of a report line. -/
def Severity.mark : Severity → String
  | error => "ERROR"
  | warn => "WARN"

/-- A finding.  `path` leads to the place in the schema. -/
structure Issue where
  severity : Severity
  code : String
  message : String
  path : String
  deriving DecidableEq

namespace Issue

/-- The line of an issue in a report. -/
def line (issue : Issue) : String :=
  "[" ++ issue.severity.mark ++ "] " ++ issue.code ++ " " ++ issue.path ++ ": " ++ issue.message

/-- An issue as a JSON object. -/
def toJson (issue : Issue) : Json.Value :=
  .object
    [("severity", .string issue.severity.name), ("code", .string issue.code),
      ("message", .string issue.message), ("path", .string issue.path)]

end Issue

/-- Whether some issue is an error. -/
def hasErrors (issues : List Issue) : Bool :=
  issues.any (·.severity == .error)

/-- The number of issues of a severity. -/
def countOf (severity : Severity) (issues : List Issue) : Nat :=
  issues.countP (·.severity == severity)

end Crowsfoot
