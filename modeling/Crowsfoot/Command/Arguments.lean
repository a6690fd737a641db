import Crowsfoot.Assoc
import Crowsfoot.Command
import Crowsfoot.Text.Pattern.Matching
import Crowsfoot.Text.Pattern.Reader

/-!
# Reading command lines

A command line names a command and then its options and its source file, in
any order.  The name of an option may be cut short where it stays unique; its
value is the next argument, or stands behind an equals sign.  After `--` every
argument is a plain one.  Of repeated options the last counts.

A command line that asks for help is understood up to that point; the earlier
of two faults counts, except that an ambiguous option is noticed first and an
argument that is left over last.
-/

namespace Crowsfoot.Command

open Crowsfoot.Text (Pattern)

/-- The options, apart from the request for help. -/
inductive OptionName
  | verbose
  | format
  | out
  | config
  | schema
  | outputJson
  deriving DecidableEq

namespace OptionName

def spelling : OptionName → String
  | verbose => "--verbose"
  | format => "--format"
  | out => "--out"
  | config => "--config"
  | schema => "--schema"
  | outputJson => "--output-json"

/-- Whether an option comes with a value. -/
def takesValue : OptionName → Bool
  | verbose | outputJson => false
  | _ => true

end OptionName

/-- Why a command line is not carried out: it asks for help, or it is wrong. -/
inductive Usage
  | help
  | invalid
  deriving DecidableEq

/-- The exit code for a command line that is not carried out. -/
def Usage.exitCode : Usage → Nat
  | help => 0
  | invalid => 2

/-- What an argument is on its own.  `given` is the text behind an equals
sign. -/
inductive Argument
  | plain
  | separator
  | known (option : OptionName) (given : Option String)
  | help
  | unknown
  | invalid
  deriving DecidableEq

/-- Cut an argument at its first equals sign. -/
def splitValue (argument : List Char) : String × Option String :=
  let name := String.ofList (argument.takeWhile (· != '='))
  match argument.dropWhile (· != '=') with
  | [] => (name, none)
  | _ :: given => (name, some (String.ofList given))

/-- Whether an argument looks like a negative number. -/
def looksNegative (argument : String) : Bool :=
  (Pattern.read? "^-\\d+$|^-\\d*\\.\\d+$").any (·.occursIn argument)

/-- The kind of an argument that begins with two dashes and goes on. -/
def longArgument (options : List OptionName) (argument : String) : Argument :=
  let (name, given) := splitValue argument.toList
  let exact := options.find? (·.spelling == name)
  let matching := options.filter fun option => name.toList.isPrefixOf option.spelling.toList
  let asksHelp := name.toList.isPrefixOf "--help".toList
  match exact, matching, asksHelp with
  | some option, _, _ => .known option given
  | none, [option], false => .known option given
  | none, [], true => if given.isNone then .help else .invalid
  | none, [], false => if argument.toList.contains ' ' then .plain else .unknown
  | none, _, _ => .invalid

/-- Whether what follows `-h` leaves it a request for help: only more of the
same letter does.  One equals sign may stand before them. -/
def isHelpTail : List Char → Bool
  | '=' :: rest => !rest.isEmpty && rest.all (· == 'h')
  | rest => rest.all (· == 'h')

/-- The kind of an argument that begins with one dash and goes on. -/
def shortArgument (argument : String) : Argument :=
  match argument.toList with
  | '-' :: 'h' :: tail => if isHelpTail tail then .help else .invalid
  | text =>
      if looksNegative argument || text.contains ' ' then .plain else .unknown

/-- The kind of an argument where `options` are understood. -/
def Argument.classify (options : List OptionName) (argument : String) : Argument :=
  match argument.toList with
  | ['-', '-'] => .separator
  | '-' :: '-' :: _ => longArgument options argument
  | ['-'] => .plain
  | '-' :: _ => shortArgument argument
  | _ => .plain

/-- Whether an argument is the beginning of every option. -/
def isAmbiguous (argument : String) : Bool :=
  "--=".toList.isPrefixOf argument.toList

/-! ## Options and source file -/

/-- What has been read of the arguments of a command.  Later options come
first in `options`; `atSource` holds right after the source file, and
`leftOver` where some argument has no use. -/
structure Reading where
  source : Option String
  options : List (OptionName × String)
  atSource : Bool
  leftOver : Bool

namespace Reading

/-- Nothing has been read. -/
def start : Reading := ⟨none, [], false, false⟩

/-- Take an option with its value; a flag has an empty one.  A value `--` counts
as a separator, which leaves the option empty. -/
def option (reading : Reading) (name : OptionName) (value : String) : Except Usage Reading :=
  let taken (value : String) : Reading :=
    { reading with options := (name, value) :: reading.options, atSource := false }
  if value == "--" then .ok (taken "")
  else if name == .format && (SchemaForm.ofName? value).isNone then .error .invalid
  else .ok (taken value)

/-- Take a plain argument. -/
def plain (reading : Reading) (wantsSource : Bool) (argument : String) : Reading :=
  if wantsSource && reading.source.isNone then
    { reading with source := some argument, atSource := true }
  else { reading with leftOver := true, atSource := false }

/-- Take the arguments after a separator.  The separator itself belongs to a
source file beside it. -/
def afterSeparator (reading : Reading) (wantsSource : Bool) (arguments : List String) :
    Reading :=
  match arguments with
  | [] => { reading with leftOver := reading.leftOver || !reading.atSource }
  | [argument] => reading.plain wantsSource argument
  | _ => { reading with leftOver := true }

/-- An argument that nothing can be done with. -/
def unused (reading : Reading) : Reading :=
  { reading with leftOver := true, atSource := false }

/-- The value of an option that was given and is not empty. -/
def value? (reading : Reading) (name : OptionName) : Option String :=
  (reading.options.lookup name).filter (· != "")

/-- Whether a flag was given. -/
def has (reading : Reading) (name : OptionName) : Bool :=
  (reading.options.lookup name).isSome

end Reading

/-- Read the arguments of a command. -/
def readArguments (options : List OptionName) (wantsSource : Bool) (reading : Reading) :
    List String → Except Usage Reading
  | [] => .ok reading
  | argument :: rest =>
      match Argument.classify options argument with
      | .plain => readArguments options wantsSource (reading.plain wantsSource argument) rest
      | .separator => .ok (reading.afterSeparator wantsSource rest)
      | .unknown => readArguments options wantsSource reading.unused rest
      | .help => .error .help
      | .invalid => .error .invalid
      | .known name (some given) =>
          if name.takesValue then
            match reading.option name given with
            | .ok reading => readArguments options wantsSource reading rest
            | .error usage => .error usage
          else .error .invalid
      | .known name none =>
          if name.takesValue then
            match rest with
            | [] => .error .invalid
            | value :: rest =>
                if Argument.classify options value == .plain then
                  match reading.option name value with
                  | .ok reading => readArguments options wantsSource reading rest
                  | .error usage => .error usage
                else .error .invalid
          else
            match reading.option name "" with
            | .ok reading => readArguments options wantsSource reading rest
            | .error usage => .error usage

/-- A command by its name: the options that it understands, whether it takes a
source file, and the command that its arguments make. -/
structure Shape where
  name : String
  options : List OptionName
  takesSource : Bool
  build : Reading → Command

/-- The commands. -/
def shapes : List Shape :=
  [{ name := "convert"
     options := [.format, .out, .config]
     takesSource := true
     build := fun reading =>
       let form := (reading.value? .format).bind SchemaForm.ofName?
       .process (reading.source.getD "") (reading.value? .config)
         (.schema (form.getD .json) (reading.value? .out)) },
    { name := "dsl"
      options := [.out, .config]
      takesSource := true
      build := fun reading =>
        .process (reading.source.getD "") (reading.value? .config)
          (.dsl (reading.value? .out)) },
    { name := "validate"
      options := [.schema, .config, .outputJson]
      takesSource := true
      build := fun reading =>
        .process (reading.source.getD "") (reading.value? .config)
          (.check (reading.value? .schema) (reading.has .outputJson)) },
    { name := "formats"
      options := [.config]
      takesSource := false
      build := fun reading => .formats (reading.value? .config) }]

/-- The command that a shape makes of its arguments. -/
def Shape.read (shape : Shape) (arguments : List String) : Except Usage Command :=
  match readArguments shape.options shape.takesSource .start arguments with
  | .error usage => .error usage
  | .ok reading =>
      if reading.leftOver || (shape.takesSource && reading.source.isNone) then .error .invalid
      else .ok (shape.build reading)

/-- Read the arguments up to the name of the command, and the command.
`leftOver` holds after an argument that nothing can be done with. -/
def readFrom (leftOver : Bool) : List String → Except Usage Command
  | [] => .error .invalid
  | argument :: rest =>
      match Argument.classify [.verbose] argument with
      | .known _ none => readFrom leftOver rest
      | .unknown => readFrom true rest
      | .help => .error .help
      | .plain =>
          match shapes.find? (·.name == argument) with
          | none => .error .invalid
          | some shape =>
              match shape.read rest with
              | .error usage => .error usage
              | .ok command => if leftOver then .error .invalid else .ok command
      | _ => .error .invalid

/-- Read a command line. -/
def read (arguments : List String) : Except Usage Command :=
  if (arguments.takeWhile (· != "--")).any isAmbiguous then .error .invalid
  else readFrom false arguments

end Crowsfoot.Command
