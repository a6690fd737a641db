import Crowsfoot.Dsl.Printer
import Crowsfoot.SourceError

/-!
# Settings

What a user can configure: which file extensions belong to which notation,
which endings of a name mark a foreign key, whether blocks may share a name,
and the comment line of generated texts.  Settings are given as an object; its
values are taken as generously as they can be understood.
-/

namespace Crowsfoot

open Json (Value)

/-- Settings for a conversion.  The last two are kept as they are given: a
collision of names is refused where `rejectCollisions` says something, and the
header is written as text. -/
structure Settings where
  extensions : List (String × SourceFormat) :=
    [("prisma", .dsl), ("sql", .sql), ("psql", .sql), ("json", .json)]
  foreignKeySuffixes : List String := ["Id"]
  rejectCollisions : Value := .bool true
  headerComment : Value := .string Dsl.defaultHeader

/-- Why settings are refused. -/
inductive SettingsError
  | unknownKeys (keys : List String)
  | unknownFormats (formats : List String)
  | notListable (shape : ScalarShape)
  | notAPair (index : Nat)
  | wrongPairLength (index length : Nat)
  | unusableKey (isList : Bool)
  deriving DecidableEq

namespace SettingsError

/-- The wording of a cause. -/
def message : SettingsError → String
  | unknownKeys keys => "Unknown config keys: " ++ Text.joined ", " keys
  | unknownFormats formats =>
      "Unknown source formats in extensions: " ++ Text.joined ", " formats
  | notListable shape => shape.message
  | notAPair index =>
      "cannot convert dictionary update sequence element #" ++ toString index ++
        " to a sequence"
  | wrongPairLength index length =>
      "dictionary update sequence element #" ++ toString index ++ " has length " ++
        toString length ++ "; 2 is required"
  | unusableKey isList => "unhashable type: '" ++ (if isList then "list" else "dict") ++ "'"

/-- Whether a value has a form that settings cannot use, rather than a content
that they refuse. -/
def isFormError : SettingsError → Bool
  | notListable _ | notAPair _ | unusableKey _ => true
  | _ => false

end SettingsError

namespace Settings

/-- The number that a value counts as among the keys of a mapping. -/
def keyNumber? : Value → Option Float
  | .bool truth => some (if truth then 1.0 else 0.0)
  | .int number => some (Float.ofInt number)
  | .float number => some number
  | _ => none

/-- Whether two values are the same key of a mapping: numbers of equal value
are, whatever their type. -/
def sameKey (first second : Value) : Bool :=
  match first, second with
  | .int one, .int other => one == other
  | .string one, .string other => one == other
  | .null, .null => true
  | one, other =>
      match keyNumber? one, keyNumber? other with
      | some one, some other => one == other
      | _, _ => false

/-- Enter a value under a key. -/
def enter (entries : List (Value × Value)) (key value : Value) : List (Value × Value) :=
  match entries with
  | [] => [(key, value)]
  | (present, old) :: later =>
      if sameKey present key then (present, value) :: later
      else (present, old) :: enter later key value

/-- The key and the value that a pair in a list stands for. -/
def pairOf (index : Nat) (pair : Value) : Except SettingsError (Value × Value) :=
  match pair.parts with
  | .error _ => .error (.notAPair index)
  | .ok [.array _, _] => .error (.unusableKey true)
  | .ok [.object _, _] => .error (.unusableKey false)
  | .ok [key, value] => .ok (key, value)
  | .ok parts => .error (.wrongPairLength index parts.length)

/-- Enter the pairs of a list, numbered from `index` on. -/
def enterPairs (entries : List (Value × Value)) (index : Nat) :
    List Value → Except SettingsError (List (Value × Value))
  | [] => .ok entries
  | pair :: pairs =>
      match pairOf index pair with
      | .ok (key, value) => enterPairs (enter entries key value) (index + 1) pairs
      | .error cause => .error cause

/-- The entries of a value that is a mapping: an object, or a list of
pairs. -/
def entriesOf (value : Value) : Except SettingsError (List (Value × Value)) :=
  match value with
  | .object members => .ok (members.map fun (name, value) => (.string name, value))
  | _ =>
      match value.parts with
      | .ok pairs => enterPairs [] 0 pairs
      | .error shape => .error (.notListable shape)

/-! ## Reading settings -/

/-- The form in which extensions are looked up: in lower case and without
leading dots. -/
def extensionKey (key : Value) : String :=
  String.ofList ((Text.lower key.text).toList.dropWhile (· == '.'))

/-- The extensions of a mapping from extensions to notations. -/
def extensionsOf (value : Value) : Except SettingsError (List (String × SourceFormat)) :=
  match entriesOf value with
  | .error cause => .error cause
  | .ok entries =>
      let named := Assoc.ofList (entries.map fun (key, format) =>
        (extensionKey key, Text.lower format.text))
      let unknown := (named.map Prod.snd).filter fun format =>
        (SourceFormat.ofName? format).isNone
      if unknown.isEmpty then
        .ok (named.filterMap fun (extension, format) =>
          (SourceFormat.ofName? format).map fun known => (extension, known))
      else .error (.unknownFormats (unknown.mergeSort (· ≤ ·)))

/-- The suffixes of a list; a bare string is one suffix. -/
def suffixesOf : Value → Except SettingsError (List String)
  | .string suffix => .ok [suffix]
  | value =>
      match value.parts with
      | .ok parts => .ok (parts.map Value.text)
      | .error shape => .error (.notListable shape)

def knownKeys : List String :=
  ["extensions", "foreign_key_suffixes", "reject_name_collisions", "header_comment"]

/-- The settings of an object. -/
def ofValue (value : Value) : Except SettingsError Settings := do
  let unknown := (Assoc.keys value.members).filter fun key => !knownKeys.contains key
  if !unknown.isEmpty then
    throw (.unknownKeys (unknown.mergeSort (· ≤ ·)))
  let standard : Settings := {}
  let extensions ← match value.get? "extensions" with
    | some given => extensionsOf given
    | none => pure standard.extensions
  let suffixes ← match value.get? "foreign_key_suffixes" with
    | some given => suffixesOf given
    | none => pure standard.foreignKeySuffixes
  pure
    { extensions := extensions
      foreignKeySuffixes := suffixes
      rejectCollisions := (value.get? "reject_name_collisions").getD standard.rejectCollisions
      headerComment := (value.get? "header_comment").getD standard.headerComment }

/-- The extension of a file name, in lower case; empty without a dot. -/
def extensionOf (fileName : String) : String :=
  let name := fileName.toList
  if name.contains '.' then
    Text.lower (String.ofList ((Text.pieces (· == '.') name).getLastD []))
  else ""

/-- The notation of files with an extension. -/
def formatFor? (settings : Settings) (extension : String) : Option SourceFormat :=
  settings.extensions.lookup (Text.lower extension)

/-- The notation of a file. -/
def detectFormat? (settings : Settings) (fileName : String) : Option SourceFormat :=
  settings.formatFor? (extensionOf fileName)

/-- The extensions that have a notation, each with its dot. -/
def supportedExtensions (settings : Settings) : List String :=
  settings.extensions.map fun entry => "." ++ entry.1

end Settings

end Crowsfoot
