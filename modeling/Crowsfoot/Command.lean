/-!
# Commands

What can be asked of the program: to convert a source file and to write the
schema or its DSL text, to check the schema of a source file, or to list the
file extensions that are understood.
-/

namespace Crowsfoot

/-- The forms in which a canonical schema is written. -/
inductive SchemaForm
  | json
  | yaml
  deriving DecidableEq

def SchemaForm.name : SchemaForm → String
  | json => "json"
  | yaml => "yaml"

/-- The form with a name. -/
def SchemaForm.ofName? (name : String) : Option SchemaForm :=
  [json, yaml].find? (·.name == name)

/-- What a source file is converted for.  Without `target` a
text goes to the standard output; `constraint` is the path of a JSON Schema
that replaces the built-in one. -/
inductive Purpose
  | schema (form : SchemaForm) (target : Option String)
  | dsl (target : Option String)
  | check (constraint : Option String) (asJson : Bool)
  deriving DecidableEq

/-- The path of the file that is written. -/
def Purpose.target? : Purpose → Option String
  | schema _ target => target
  | dsl target => target
  | check _ _ => none

/-- A command.  `settings` is the path of a settings file. -/
inductive Command
  | process (source : String) (settings : Option String) (purpose : Purpose)
  | formats (settings : Option String)
  deriving DecidableEq

end Crowsfoot
