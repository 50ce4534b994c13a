import Transpile.Command.Run

/-! The command line. -/

namespace Transpile.Command

/-- The text of a file, if it can be read. -/
def readFile? (path : String) : IO (Option String) := do
  try return some (← IO.FS.readFile path) catch _ => return none

/-- Reads the files that a request names, and prints or writes the script. -/
def Request.perform (r : Request) : IO UInt32 := do
  let texts ← r.files.mapM fun path => return (path, ← readFile? path)
  let read (path : String) : Except Cause String :=
    match (texts.lookup path).join with
    | some s => .ok s
    | none => .error .missingFile
  let o := r.compileAll .classic read
  IO.print (unlines o.trace)
  match o.result with
  | .error c =>
    IO.eprintln ("failed: " ++ c.message.getD (reprStr c))
    return 1
  | .ok script =>
    match r.target? with
    | none => IO.println script
    | some path => IO.FS.writeFile path (script ++ "\n")
    return 0

end Transpile.Command

open Transpile.Command in
def main (args : List String) : IO UInt32 := do
  match Request.ofArgs args with
  | .error .help =>
    IO.print usage
    return 0
  | .error .refused =>
    IO.eprint usage
    return 2
  | .ok r => r.perform
