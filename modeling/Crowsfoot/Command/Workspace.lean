import Crowsfoot.Command
import Crowsfoot.Text.Split
import Crowsfoot.Text.Utf8

/-!
# Workspaces

The part of a file system that a command sees: files with their bytes, and
folders.  Paths are compared in a normal form without repeated slashes and
without components that name the folder they stand in.
-/

namespace Crowsfoot

namespace Path

/-- The components of a path. -/
def components (path : String) : List String :=
  ((Text.pieces (· == '/') path.toList).map String.ofList).filter
    fun component => component != "" && component != "."

/-- Whether a path begins at the root. -/
def isAbsolute (path : String) : Bool :=
  path.toList.head? == some '/'

/-- A path from its components. -/
def ofComponents (absolute : Bool) (components : List String) : String :=
  if absolute then "/" ++ Text.joined "/" components
  else if components.isEmpty then "."
  else Text.joined "/" components

/-- The normal form of a path. -/
def normal (path : String) : String :=
  ofComponents (isAbsolute path) (components path)

/-- The last component of a path. -/
def name (path : String) : String :=
  (components path).getLastD ""

/-- The folders that lead to a path, the nearest first. -/
def ancestors (path : String) : List String :=
  let parts := components path
  (List.range parts.length).reverse.map fun count =>
    ofComponents (isAbsolute path) (parts.take count)

end Path

/-- The normal forms of the paths that a command looks at: of the files that
it reads, and of the file that it writes with the folders that lead there. -/
def Command.paths (command : Command) : List String :=
  let named := match command with
    | .formats settings => settings.toList
    | .process source settings purpose =>
        let read := match purpose with
          | .check constraint _ => constraint.toList
          | _ => []
        let written := match purpose.target? with
          | some target => target :: Path.ancestors target
          | none => []
        source :: settings.toList ++ read ++ written
  (named.map Path.normal).eraseDups

/-- What stands at a path. -/
inductive Entry
  | file (bytes : List UInt8)
  | folder

/-- Files and folders by the normal forms of their paths. -/
structure Workspace where
  entries : List (String × Entry)

/-- Why a file cannot be read or written. -/
inductive FileFault
  | missing
  | isFolder
  | underFile
  deriving DecidableEq

namespace Workspace

/-- What stands at a path. -/
def entry? (workspace : Workspace) (path : String) : Option Entry :=
  workspace.entries.lookup (Path.normal path)

/-- Whether a folder stands at a path. -/
def hasFolder (workspace : Workspace) (path : String) : Bool :=
  match workspace.entry? path with
  | some .folder => true
  | _ => false

/-- Whether a file stands at a path. -/
def hasFile (workspace : Workspace) (path : String) : Bool :=
  match workspace.entry? path with
  | some (.file _) => true
  | _ => false

/-- What keeps a file from being written at a path: a folder there, a file
among its ancestors, or the lack of the folder that it would stand in. -/
def writeFault? (workspace : Workspace) (path : String) : Option FileFault :=
  if workspace.hasFolder path then some .isFolder
  else if (Path.ancestors path).any workspace.hasFile then some .underFile
  else match Path.ancestors path with
    | [] => some .isFolder
    | parent :: _ => if workspace.hasFolder parent then none else some .missing

end Workspace

end Crowsfoot
