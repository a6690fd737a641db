import Crowsfoot.Command
import Crowsfoot.Command.Libraries
import Crowsfoot.Command.Workspace
import Crowsfoot.Conversion.Surrogates
import Crowsfoot.JsonSchema.Canonical
import Crowsfoot.JsonSchema.Issues
import Crowsfoot.JsonSchema.Reader
import Crowsfoot.Schema.Lint
import Crowsfoot.Schema.Payload

/-!
# Carrying out commands

A command reads its settings first, then its source file, and a JSON Schema
only for a source that was converted.  A source that cannot be converted gives
exit code 1 and one line on the error output.  Files that cannot be read or
written, and settings that are refused, are errors of the command itself.

Nothing here touches a file system: a command is carried out on a workspace,
and its outcome says what is to be written.
-/

namespace Crowsfoot

open Json (Value)

/-- What a command gives: its exit code, its two outputs, the file that it
writes, and the error records of its log, which a program that configures no log
shows on the error output as well. -/
structure Outcome where
  exitCode : Nat
  output : String
  errors : String
  written : Option (String × String)
  log : List String
  deriving DecidableEq

/-- Why a command has no outcome. -/
inductive CommandError
  | noSettings (path : String)
  | noSource (path : String)
  | noConstraint (path : String)
  | file (path : String) (fault : FileFault)
  | notUtf8 (fault : Text.Utf8Fault)
  | notEncodable (path : String) (fault : Text.EncodeFault)
  | unreadableSettings (cause : Yaml.ReadError)
  | settingsNotObject
  | settings (cause : SettingsError)
  | constraint (cause : Json.ReadError)
  | pattern (bad : JsonSchema.BadPattern)
  deriving DecidableEq

namespace CommandError

/-- The wording of bytes that are not UTF-8. -/
def utf8Message (fault : Text.Utf8Fault) : String :=
  let reason := match fault.reason with
    | .startByte => "invalid start byte"
    | .continuationByte => "invalid continuation byte"
    | .endOfData => "unexpected end of data"
  let place :=
    if fault.count == 1 then
      "byte 0x" ++ String.ofList (Json.hexadecimal 2 fault.first.toNat) ++ " in position " ++
        toString fault.offset
    else
      "bytes in position " ++ toString fault.offset ++ "-" ++
        toString (fault.offset + fault.count - 1)
  "'utf-8' codec can't decode " ++ place ++ ": " ++ reason

/-- The wording of a text that cannot be encoded. -/
def encodeMessage (fault : Text.EncodeFault) : String :=
  let place :=
    if fault.count == 1 then
      "character '\\u" ++ String.ofList (Json.hexadecimal 4 fault.unit) ++ "' in position " ++
        toString fault.offset
    else
      "characters in position " ++ toString fault.offset ++ "-" ++
        toString (fault.offset + fault.count - 1)
  "'utf-8' codec can't encode " ++ place ++ ": surrogates not allowed"

/-- The wording of a file that cannot be read or written. -/
def fileMessage (path : String) (fault : FileFault) : String :=
  let cause := match fault with
    | .missing => "[Errno 2] No such file or directory: "
    | .isFolder => "[Errno 21] Is a directory: "
    | .underFile => "[Errno 20] Not a directory: "
  cause ++ Json.shownText (Path.normal path)

/-- The wording of an error. -/
def message : CommandError → String
  | noSettings path => "Config file not found: " ++ path
  | noSource path => "Schema file not found: " ++ path
  | noConstraint path => "Schema file not found: " ++ Path.normal path
  | file path fault => fileMessage path fault
  | notUtf8 fault => utf8Message fault
  | notEncodable _ fault => encodeMessage fault
  | unreadableSettings .form => "Config YAML cannot be parsed."
  | unreadableSettings (.oversizedInteger digits) => SourceError.oversizedMessage digits
  | settingsNotObject => "Config YAML must parse to an object/map at root."
  | settings cause => cause.message
  | constraint (.fault fault) =>
      fault.reason.message ++ ": line " ++ toString fault.line ++ " column " ++
        toString fault.column ++ " (char " ++ toString fault.offset ++ ")"
  | constraint (.oversizedInteger digits) => SourceError.oversizedMessage digits
  | pattern bad => bad.message

/-- The file that an error leaves behind: before a text is encoded, its file is
opened, and then stays empty. -/
def written : CommandError → Option (String × String)
  | notEncodable path _ => some (Path.normal path, "")
  | _ => none

end CommandError

/-! ## Reading files -/

namespace Workspace

/-- The text of a file, with line feeds as line ends; `missing` is the error
where nothing stands at the path. -/
def text (workspace : Workspace) (missing : CommandError) (path : String) :
    Except CommandError String :=
  match workspace.entry? path with
  | none => .error missing
  | some .folder => .error (.file path .isFolder)
  | some (.file bytes) =>
      match Text.decodeUtf8 bytes with
      | .ok text => .ok (String.ofList (Text.normalizeLineEnds text))
      | .error fault => .error (.notUtf8 fault)

/-- The settings in a file, or the standard ones. -/
def settings (libraries : Libraries) (workspace : Workspace) (path : Option String) :
    Except CommandError Settings :=
  match path with
  | none => .ok {}
  | some path =>
      match workspace.text (.noSettings path) path with
      | .error error => .error error
      | .ok text =>
          match libraries.readYaml text with
          | .error cause => .error (.unreadableSettings cause)
          | .ok .null => .ok {}
          | .ok (.object members) =>
              (Settings.ofValue (.object members)).mapError .settings
          | .ok _ => .error .settingsNotObject

/-- The constraint in a JSON Schema file, or the built-in one. -/
def constraint (workspace : Workspace) (path : Option String) :
    Except CommandError JsonSchema.Constraint :=
  match path with
  | none => .ok JsonSchema.canonical
  | some path =>
      match workspace.text (.noConstraint path) path with
      | .error error => .error error
      | .ok text =>
          match Json.read text with
          | .error cause => .error (.constraint cause)
          | .ok .null => .ok JsonSchema.canonical
          | .ok schema => .ok (JsonSchema.ofValue schema)

end Workspace

/-- The outcome for a source that cannot be converted. -/
def Failure.outcome (fileName : String) (failure : Failure) : Outcome where
  exitCode := 1
  output := ""
  errors := "[" ++ failure.kind.name ++ "] " ++ failure.message ++ "\n"
  written := none
  log := failure.log fileName

/-- The outcome of a text on the standard output. -/
def Outcome.ofOutput (output : String) : Outcome :=
  ⟨0, output, "", none, []⟩

/-- A text that ends its last line. -/
def withLineEnd (text : String) : String :=
  if text.toList.getLast? == some '\n' then text else text ++ "\n"

/-- The text of a schema in a form. -/
def Libraries.write (libraries : Libraries) (schema : Schema) : SchemaForm → String
  | .json => schema.toJson.pretty ++ "\n"
  | .yaml => libraries.writeYaml schema.toJson

/-- What follows a schema on the standard output. -/
def SchemaForm.outputEnd : SchemaForm → String
  | json => ""
  | yaml => "\n"

/-- The text that a purpose writes to its file. -/
def Purpose.content (libraries : Libraries) (conversion : Conversion) : Purpose → String
  | .schema form _ => libraries.write conversion.schema form
  | .dsl _ => conversion.dslText
  | .check _ _ => ""

/-- What keeps this text from being encoded.  YAML escapes lone surrogates. -/
def Purpose.encodeFault? (libraries : Libraries) (source : String) (conversion : Conversion)
    (purpose : Purpose) : Option Text.EncodeFault :=
  match purpose with
  | .schema .yaml _ => none
  | _ => conversion.encodeFault? source (purpose.content libraries conversion)

/-- Write the text of a purpose to a file. -/
def Purpose.writeFile (libraries : Libraries) (workspace : Workspace) (source : String)
    (conversion : Conversion) (path notice : String) (purpose : Purpose) :
    Except CommandError Outcome :=
  match workspace.writeFault? path, purpose.encodeFault? libraries source conversion with
  | some fault, _ => .error (.file path fault)
  | none, some fault => .error (.notEncodable path fault)
  | none, none =>
      .ok
        ⟨0, notice ++ path ++ "\n", "",
          some (Path.normal path, purpose.content libraries conversion), []⟩

/-- The report of the issues of a schema. -/
def issueReport (issues : List Issue) : String :=
  if issues.isEmpty then "No issues found.\n"
  else
    String.join (issues.map fun issue => issue.line ++ "\n") ++
      toString (countOf .error issues) ++ " error(s), " ++
      toString (countOf .warn issues) ++ " warning(s)\n"

/-- The issues of a schema: violations of a constraint, then advice. -/
def Libraries.issues (libraries : Libraries) (constraint : JsonSchema.Constraint)
    (schema : Schema) : Except JsonSchema.BadPattern (List Issue) :=
  (libraries.violations constraint schema.toJson).map fun violations =>
    JsonSchema.issuesOf schema.toJson violations ++ schema.lint

/-- The outcome of a check. -/
def checkOutcome (issues : List Issue) (asJson : Bool) : Outcome where
  exitCode := if hasErrors issues then 1 else 0
  output :=
    if asJson then (Value.array (issues.map Issue.toJson)).prettyAscii ++ "\n"
    else issueReport issues
  errors := ""
  written := none
  log := []

/-- Put a conversion of a source text to a purpose. -/
def Purpose.run (libraries : Libraries) (workspace : Workspace) (source : String)
    (conversion : Conversion) (purpose : Purpose) : Except CommandError Outcome :=
  match purpose with
  | .schema form none =>
      .ok (.ofOutput (libraries.write conversion.schema form ++ form.outputEnd))
  | .schema _ (some path) =>
      purpose.writeFile libraries workspace source conversion path "Wrote canonical schema: "
  | .dsl none => .ok (.ofOutput (withLineEnd conversion.dslText))
  | .dsl (some path) =>
      purpose.writeFile libraries workspace source conversion path "Wrote schema DSL: "
  | .check path asJson => do
      let constraint ← workspace.constraint path
      let issues ← (libraries.issues constraint conversion.schema).mapError .pattern
      pure (checkOutcome issues asJson)

/-- The lines of extensions with their notations. -/
def formatList (settings : Settings) : String :=
  String.join (settings.supportedExtensions.map fun extension =>
    let format := settings.detectFormat? ("schema" ++ extension)
    extension ++ "\t" ++ (format.map SourceFormat.name).getD "" ++ "\n")

/-- Carry out a command. -/
def Command.run (libraries : Libraries) (workspace : Workspace) :
    Command → Except CommandError Outcome
  | .formats path => do
      let settings ← workspace.settings libraries path
      pure (.ofOutput (formatList settings))
  | .process source path purpose => do
      let settings ← workspace.settings libraries path
      let text ← workspace.text (.noSource source) source
      match convert settings (Path.name source) text with
      | .ok conversion => purpose.run libraries workspace text conversion
      | .error failure => pure (failure.outcome (Path.name source))

end Crowsfoot
