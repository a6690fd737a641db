import Crowsfoot.Layout.Export
import Crowsfoot.Layout.Tables

/-!
# Reading JSON descriptions

A JSON description has the export layout or the tables layout; where both
would fit, the export layout counts.
-/

namespace Crowsfoot

/-- The document of a JSON value. -/
def Document.ofValue (description : Json.Value) : Except SourceError Document :=
  if Layout.Export.matchesLayout description then Layout.Export.document description
  else if Layout.Tables.matchesLayout description then Layout.Tables.document description
  else .error .unknownLayout

/-- Read a JSON text. -/
def Document.ofJson (text : String) : Except SourceError Document :=
  match Json.read text with
  | .ok description => Document.ofValue description
  | .error (.fault fault) => .error (.invalidJson fault)
  | .error (.oversizedInteger digits) => .error (.oversizedInteger digits)

end Crowsfoot
