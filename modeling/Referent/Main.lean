import Referent.CommandLine.Run

/-!
# The program

Reads the universe file that the arguments name, runs the command, and writes what it leaves.
-/

open Referent.CommandLine

/-- The text of a file, none if it cannot be read. -/
def readFile? (path : String) : IO (Option String) := do
  try
    return some (← IO.FS.readFile path)
  catch _ => return none

/-- The program. -/
def main (args : List String) : IO UInt32 := do
  let path := (parse args).toOption.bind Command.path?
  let content ← match path with
    | some path => readFile? path
    | none => pure none
  let output := run args fun _ => content
  IO.print output.stdout
  IO.eprint output.stderr
  return output.exit
