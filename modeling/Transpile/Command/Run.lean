import Transpile.Command.Folder
import Transpile.Command.Request
import Transpile.Compile

/-! Running a command line on a folder. -/

namespace Transpile.Command

open Script

namespace Request

/-- Numbers of at least this size have no half among the binary fractions of 64 bits. -/
def firstWithoutHalf : Nat := Nat.pow 2 1025 - Nat.pow 2 971

/-- The settings of a request; it needs a number for the indentation, and one that has a half. -/
def settings (r : Request) (shape : Source.Shape) : Except Cause Settings :=
  match r.indent with
  | none => .error .wrongType
  | some n =>
    if firstWithoutHalf ≤ n.natAbs then .error .outOfRange
    else .ok {
      shape
      walk := { closure := !r.bare, camelCase := r.camelCase, debug := r.debug }
      indent := n.tdiv 2 }

end Request

abbrev Reading := String → Except Cause String

/-- A file as text: all line ends are alike. -/
def readText (read : Reading) (path : String) : Except Cause String :=
  (read path).map fun s => String.ofList (Text.unifyNewlines s.toList)

def compileText (s : Settings) (source : String) : Outcome String :=
  let o := compile s source
  { result := o.result.bind fun
      | .text t => .ok t
      | _ => .error .wrongType
    trace := o.trace }

/-- Reads and compiles one file after the other, up to the first failure. -/
def compileEach (s : Settings) (read : Reading) : List String → Outcome (List String)
  | [] => { result := .ok [] }
  | path :: paths =>
    match readText read path with
    | .error c => { result := .error c }
    | .ok source =>
      let first := compileText s source
      match first.result with
      | .error c => { result := .error c, trace := first.trace }
      | .ok t =>
        let rest := compileEach s read paths
        { result := rest.result.map (t :: ·), trace := first.trace ++ rest.trace }

def compileJoined (s : Settings) (read : Reading) (paths : List String) : Outcome String :=
  match paths.mapM (readText read) with
  | .error c => { result := .error c }
  | .ok sources => compileText s ("\n".intercalate sources)

/-- The script for all files: they are compiled together, or apart with an empty line between. -/
def Request.compileAll (r : Request) (shape : Source.Shape) (read : Reading) : Outcome String :=
  match r.settings shape with
  | .error c => { result := .error c }
  | .ok s =>
    if r.join then compileJoined s read r.files
    else
      let o := compileEach s read r.files
      { result := o.result.map ("\n\n".intercalate ·), trace := o.trace }

/-- Where the script goes, unless it is printed. -/
def Request.target? (r : Request) : Option String := r.output.filter (· ≠ "")

def usage : String :=
  "usage: [-h] [-g] [-w] [-o outputfile.js] [-b] [-j] [--indent INDENT]\n" ++
  "       [--auto-camelcase] input.py [input.py ...]\n"

inductive Ending where
  | exit (code : Nat)
  | failed (c : Cause)

structure Report where
  ending : Ending
  printed : String := ""
  folder : Folder

def unlines (ls : List String) : String := String.join (ls.map (· ++ "\n"))

/-- Writes a script to a file. One that cannot be stored leaves the file empty. -/
def store (folder : Folder) (path script : String) : Ending × Folder :=
  let kept := !Text.hasHalf script
  match folder.write path (if kept then script ++ "\n" else "") with
  | .error c => (.failed c, folder)
  | .ok folder => (if kept then .exit 0 else .failed .halfCharacter, folder)

/-- Runs a command line. The trace is printed before the script, and the file for the script is
opened only when there is one. -/
def run (shape : Source.Shape) (args : List String) (folder : Folder) : Report :=
  match Request.ofArgs args with
  | .error .help => { ending := .exit 0, printed := usage, folder }
  | .error .refused => { ending := .exit 2, folder }
  | .ok r =>
    let o := r.compileAll shape folder.read
    let traced := unlines o.trace
    match o.result with
    | .error c => { ending := .failed c, printed := traced, folder }
    | .ok script =>
      match r.target? with
      | none => { ending := .exit 0, printed := traced ++ script ++ "\n", folder }
      | some path =>
        let (ending, folder) := store folder path script
        { ending, printed := traced, folder }

end Transpile.Command
