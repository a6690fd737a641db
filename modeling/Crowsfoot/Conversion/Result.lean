import Crowsfoot.Conversion
import Crowsfoot.Schema.Payload

/-!
# Results of conversions

The record in which a conversion is answered.  A success holds the schema, the
name of the notation and the DSL text; a failure holds its kind and its
wording.
-/

namespace Crowsfoot

open Json (Value)

structure ConversionResult where
  success : Bool
  schema : Option Schema := none
  errorKind : Option FailureKind := none
  message : String := ""
  fileType : String := ""
  dslText : String := ""
  deriving DecidableEq

namespace ConversionResult

def ofConversion (conversion : Conversion) : ConversionResult where
  success := true
  schema := some conversion.schema
  fileType := conversion.format.name
  dslText := conversion.dslText

def ofFailure (failure : Failure) : ConversionResult where
  success := false
  errorKind := some failure.kind
  message := failure.message

/-- A result as a JSON object, without its DSL text. -/
def toJson (result : ConversionResult) : Value :=
  match result.success, result.schema with
  | true, some schema =>
      .object
        [("success", .bool true), ("file_type", .string result.fileType),
          ("schema", schema.toJson)]
  | _, _ =>
      .object
        [("success", .bool false),
          ("error_kind", .string (result.errorKind.getD .conversionInternal).name),
          ("message", .string result.message)]

end ConversionResult

/-- Convert a source text, and answer with a result. -/
def conversionResult (settings : Settings) (fileName text : String) : ConversionResult :=
  match convert settings fileName text with
  | .ok conversion => .ofConversion conversion
  | .error failure => .ofFailure failure

end Crowsfoot
