import Crowsfoot.JsonSchema.Constraint
import Crowsfoot.Yaml.Printer
import Crowsfoot.Yaml.Reader

/-!
# Libraries

What a command leaves to others: reading and writing YAML, and holding a value to
a JSON Schema.
-/

namespace Crowsfoot

open Json (Value)

/-- The libraries that a command is carried out with. -/
structure Libraries where
  /-- The value of a YAML document. -/
  readYaml : String → Except Yaml.ReadError Value
  /-- A YAML document of a value. -/
  writeYaml : Value → String
  /-- The violations of a constraint by a value, in any order. -/
  violations : JsonSchema.Constraint → Value →
    Except JsonSchema.BadPattern (List JsonSchema.Violation)

/-- Libraries that know a part of YAML and of JSON Schema. -/
def Libraries.own : Libraries where
  readYaml := Yaml.read
  writeYaml value := Yaml.ofMembers value.members
  violations := JsonSchema.Constraint.violations

end Crowsfoot
