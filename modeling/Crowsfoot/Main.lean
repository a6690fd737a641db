import Crowsfoot.Command.Arguments
import Crowsfoot.Command.Run

/-!
# The command line program

Reads the files that the command line names, carries out the command on them,
and writes what comes out of it.
-/

open Crowsfoot

/-- The number by which the system says that a path names a folder. -/
def folderCode : UInt32 := 21

/-- What stands at a path of the file system. -/
def entryAt? (path : String) : IO (Option Entry) := do
  try
    let bytes ← IO.FS.readBinFile path
    return some (.file bytes.toList)
  catch
    | .inappropriateType _ code _ => return if code == folderCode then some .folder else none
    | _ => return none

/-- The part of the file system that a command looks at. -/
def workspaceFor (command : Command) : IO Workspace := do
  let found ← command.paths.filterMapM fun path => do
    return (← entryAt? path).map fun entry => (path, entry)
  return ⟨found⟩

/-- The forms of a command line. -/
def usageText : String :=
  "usage: crowsfoot [--verbose] COMMAND\n" ++
    "  convert SOURCE [--format json|yaml] [--out FILE] [--config FILE]\n" ++
    "  dsl SOURCE [--out FILE] [--config FILE]\n" ++
    "  validate SOURCE [--schema FILE] [--config FILE] [--output-json]\n" ++
    "  formats [--config FILE]\n"

/-- Print and write an outcome. -/
def deliver (outcome : Outcome) : IO UInt32 := do
  if let some (path, text) := outcome.written then
    IO.FS.writeFile path text
  IO.print outcome.output
  for entry in outcome.log do
    IO.eprintln entry
  IO.eprint outcome.errors
  return UInt32.ofNat outcome.exitCode

def main (arguments : List String) : IO UInt32 := do
  match Command.read arguments with
  | .error usage =>
      if usage == .help then IO.print usageText else IO.eprint usageText
      return UInt32.ofNat usage.exitCode
  | .ok command =>
      match command.run .own (← workspaceFor command) with
      | .ok outcome => deliver outcome
      | .error cause =>
          if let some (path, text) := cause.written then
            IO.FS.writeFile path text
          IO.eprintln cause.message
          return 1
