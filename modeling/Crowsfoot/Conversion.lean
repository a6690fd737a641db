import Crowsfoot.Dsl.Reader
import Crowsfoot.Layout.Reader
import Crowsfoot.Schema.Classification
import Crowsfoot.Schema.Inference
import Crowsfoot.Settings
import Crowsfoot.Sql.Reader

/-!
# Conversion

From a source text to a canonical schema.  Text of the schema DSL is read as
it is; SQL and JSON are read into documents and written in the DSL first, so
that all notations share one classification.
-/

namespace Crowsfoot

/-- A source text that was converted: its schema, its notation, and the DSL
text that was classified. -/
structure Conversion where
  schema : Schema
  format : SourceFormat
  dslText : String

/-- Why a source text is not converted.  `imported` names the notation whose
reader found the cause; it is `none` for causes in DSL text. -/
inductive Failure
  | unsupportedFormat (fileName : String) (supported : List String)
  | emptyInput
  | source (imported : Option SourceFormat) (cause : SourceError)
  | noDefinitions
  deriving DecidableEq

/-- The kinds of failures. -/
inductive FailureKind
  | unsupportedFormat
  | emptyInput
  | malformedSource
  | noDefinitionsFound
  | conversionInternal
  deriving DecidableEq

def FailureKind.name : FailureKind → String
  | unsupportedFormat => "UnsupportedFormat"
  | emptyInput => "EmptyInput"
  | malformedSource => "MalformedSource"
  | noDefinitionsFound => "NoDefinitionsFound"
  | conversionInternal => "ConversionInternal"

namespace Failure

def kind : Failure → FailureKind
  | unsupportedFormat _ _ => .unsupportedFormat
  | emptyInput => .emptyInput
  | source _ cause => if cause.isMalformed then .malformedSource else .conversionInternal
  | noDefinitions => .noDefinitionsFound

/-- What stands before a cause that was found while reading a notation. -/
def importMark : SourceFormat → String
  | .dsl => ""
  | .sql => "SQL conversion error: "
  | .json => "JSON conversion error: "

/-- The wording of a failure. -/
def message : Failure → String
  | unsupportedFormat fileName supported =>
      "Unsupported file type: " ++ fileName ++ ". Supported: " ++ Text.joined ", " supported
  | emptyInput => "File is empty"
  | source (some format) cause => importMark format ++ cause.message
  | source none cause => cause.message
  | noDefinitions => "Schema must contain at least one model or enum definition"

/-- The error records in the log of a conversion that fails: an unexpected cause
is recorded with the name of the file. -/
def log (fileName : String) (failure : Failure) : List String :=
  if failure.kind = .conversionInternal then ["Unexpected failure converting " ++ fileName]
  else []

end Failure

/-- Read a source text as a document of its notation. -/
def Document.ofSource (format : SourceFormat) (text : String) : Except SourceError Document :=
  match format with
  | .dsl => Document.ofDsl text
  | .sql => Document.ofSql text
  | .json => Document.ofJson text

/-- The DSL text for a source text. -/
def dslTextOf (settings : Settings) (format : SourceFormat) (text : String) :
    Except Failure String :=
  match format with
  | .dsl => .ok text
  | imported =>
      match Document.ofSource imported text with
      | .ok document => .ok (document.toDsl settings.headerComment.text imported.name)
      | .error cause => .error (.source (some imported) cause)

/-- The schema of a DSL text. -/
def schemaOf (settings : Settings) (dslText : String) : Except SourceError Schema := do
  let document ← Document.ofDsl dslText
  let (models, enums) ←
    document.classify settings.rejectCollisions.isFilled settings.foreignKeySuffixes
  pure { models := models, enums := enums, relationships := inferRelationships models }

/-- Whether a text has nothing but blanks. -/
def isBlankText (text : String) : Bool :=
  text.toList.all Text.isBlank

/-- Convert a source text; its notation is found by the name of its file. -/
def convert (settings : Settings) (fileName text : String) : Except Failure Conversion :=
  match settings.detectFormat? fileName with
  | none => .error (.unsupportedFormat fileName settings.supportedExtensions)
  | some format =>
      if isBlankText text then .error .emptyInput
      else match dslTextOf settings format text with
        | .error failure => .error failure
        | .ok dslText =>
            match schemaOf settings dslText with
            | .error cause => .error (.source none cause)
            | .ok schema =>
                if schema.isEmpty then .error .noDefinitions
                else .ok { schema := schema, format := format, dslText := dslText }

end Crowsfoot
