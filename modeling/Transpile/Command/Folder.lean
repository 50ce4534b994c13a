import Transpile.Cause
import Transpile.Text.Half

/-! The files that a command reads and writes. A path is walked name by name from the working folder
or from the root of all folders: every name but the last must lead to a folder, and a slash at the
end asks for a folder too. -/

namespace Transpile.Command

/-- The working folder: its files by their paths. A folder in it is there if a file in it is. -/
structure Folder where
  entries : List (String × String)

/-- Where a walk starts: in the working folder, in one that encloses it, or at the root. -/
inductive Base where
  | here | enclosing | root
  deriving DecidableEq, Repr

structure Place where
  base : Base
  names : List String := []
  deriving DecidableEq, Repr

inductive Entry where
  | file (text : String)
  | folder
  /-- A file that is empty and stays so. -/
  | sink
  | absent
  deriving DecidableEq, Repr

/-- The folder that a folder is in; the root is in itself. -/
def Place.up (p : Place) : Place :=
  if p.names.isEmpty then
    match p.base with
    | .here | .enclosing => { base := .enclosing }
    | .root => p
  else { p with names := p.names.dropLast }

namespace Path

def names (path : String) : List String := (path.splitOn "/").filter (· ≠ "")

def start (path : String) : Place := { base := if path.startsWith "/" then .root else .here }

/-- A slash at the end asks for a folder. -/
def wantsFolder (path : String) : Bool := path.endsWith "/"

def maxName : Nat := 255

def maxSize : Nat := 4095

def size (s : String) : Nat := (Text.points s.toList).foldl (fun n c => n + Text.storedSize c) 0

/-- What is wrong with a path whatever the folder holds. -/
def flaw? (path : String) : Option Cause :=
  if (Text.points path.toList).any fun n => Text.isHalf n && !Text.isByteHalf n then
    some .halfCharacter
  else if path.contains '\x00' then some .nulInPath
  else if path.isEmpty then some .missingFile
  else if size path > maxSize then some .nameTooLong
  else none

/-- The folders that every file system has at its root. -/
def rootFolders : List String :=
  ["bin", "dev", "etc", "home", "lib", "media", "mnt", "opt", "proc", "root", "run", "sbin", "srv",
   "sys", "tmp", "usr", "var"]

end Path

namespace Folder

def find? (f : Folder) (names : List String) : Option String :=
  (f.entries.find? fun e => Path.names e.1 = names).map Prod.snd

def isFolder (f : Folder) (names : List String) : Bool :=
  names.isEmpty || f.entries.any fun e => names.isPrefixOf (Path.names e.1).dropLast

/-- What is at a place. Outside the working folder only the folders that enclose it, the root and
the folders at it are known. -/
def look (f : Folder) (p : Place) : Entry :=
  match p.base with
  | .here =>
    if f.isFolder p.names then .folder else ((f.find? p.names).map Entry.file).getD .absent
  | .enclosing => if p.names.isEmpty then .folder else .absent
  | .root =>
    match p.names with
    | [] => .folder
    | [name] => if Path.rootFolders.contains name then .folder else .absent
    | ["dev", "null"] => .sink
    | _ => .absent

def step (f : Folder) (p : Place) (name : String) : Except Cause Place :=
  match f.look p with
  | .file _ | .sink => .error .notAFolder
  | .absent => .error .missingFile
  | .folder =>
    if name = "." then .ok p
    else if name = ".." then .ok p.up
    else if Path.size name > Path.maxName then .error .nameTooLong
    else .ok { p with names := p.names ++ [name] }

def walk (f : Folder) (p : Place) (names : List String) : Except Cause Place :=
  names.foldlM f.step p

def read (f : Folder) (path : String) : Except Cause String := do
  if let some c := Path.flaw? path then throw c
  match f.look (← f.walk (Path.start path) (Path.names path)) with
  | .folder => throw .notAFile
  | .absent => throw .missingFile
  | .file text => if Path.wantsFolder path then throw .notAFolder else return text
  | .sink => if Path.wantsFolder path then throw .notAFolder else return ""

/-- Puts a text at a place; what is put outside the working folder leaves it as it is. -/
def insert (f : Folder) (p : Place) (text : String) : Folder :=
  if p.base ≠ .here then f
  else if (f.find? p.names).isSome then
    ⟨f.entries.map fun e => if Path.names e.1 = p.names then (e.1, text) else e⟩
  else ⟨f.entries ++ [("/".intercalate p.names, text)]⟩

/-- Writes a file, a new one too. A path that asks for a folder is refused if its last name could
stand where it is, whether or not it is there. -/
def write (f : Folder) (path text : String) : Except Cause Folder := do
  if let some c := Path.flaw? path then throw c
  let names := Path.names path
  if Path.wantsFolder path then
    let _ ← f.walk (Path.start path) (names.dropLast ++ ["."])
    throw .notAFile
  let p ← f.walk (Path.start path) names
  match f.look p with
  | .folder => throw .notAFile
  | .sink => return f
  | .file _ | .absent => return f.insert p text

/-- The files that are not in `g`, or not with the same text. -/
def changedFrom (f g : Folder) : List (String × String) :=
  f.entries.filter fun e => g.find? (Path.names e.1) ≠ some e.2

end Folder

end Transpile.Command
