import Transpile.Script.Build
import Transpile.Text.Camel
import Transpile.Walk.State

/-! Names in a walk: identifiers, bindings, temporaries, and the statement that declares what a
scope binds. -/

namespace Transpile.Walk

open Script Source

def identifier (value : Piece) : Piece := (Form.leaf .ident value).piece

/-- A fixed identifier. -/
def word (s : String) : Piece := identifier (.text s)

/-- The identifier for a name of the source, in camel case if the options ask for it. -/
def sourceName (name : Piece) : Walker Piece := do
  if (← read).camelCase then
    match name with
    | .text s => return word (Text.camel s)
    | _ => throw .missingAttribute
  else return identifier name

/-- What a field of a node holds where a name is expected. -/
def atomField : Tree → Walker Piece
  | .missing => throw .missingAttribute
  | .atom a => pure (.atom a)
  | .list _ => pure (.items [])
  | .node _ _ => pure (.record [])

/-- Gives a piece a binding of its own. -/
def atSite (p : Piece) : Walker Piece :=
  match p with
  | .node f m => do
    let n := (← get).sites
    modify fun s => { s with sites := n + 1 }
    return .node f { m with site := some n }
  | p => pure p

def keyOf : Piece → Option String
  | .text s => some s
  | _ => none

/-- Binds a piece under a key unless a visible name has the key. -/
def bindAs (key : Piece) (p : Piece) : Walker Piece := do
  if ← inScope (keyOf key) then return p
  let p ← atSite p
  changeScope (·.set (keyOf key) p)
  return p

/-- Binds a piece under the value that it carries. -/
def bind (p : Piece) : Walker Piece := do bindAs (← need p.value) p

/-- A new identifier, numbered so that no visible name has its key. -/
def fresh (stem : String) : Walker Piece := do
  let k := (← get).scope.fresh stem
  let p ← atSite (← sourceName (.text k))
  changeScope (·.set (some k) p)
  return p

def siteOf : Piece → Option Nat
  | .node _ m => m.site
  | _ => none

/-- Marks a piece, and every other place of its binding, as introduced by a declaration. -/
def declare (p : Piece) : Walker Piece := do
  if let some n := siteOf p then
    modify fun s => { s with declared := n :: s.declared }
  need p.declare

def declaration (name value : Piece) : Walker Piece := do
  return (Form.varDecl (← declare name) value).piece

/-- The statement that declares what the innermost scope binds, if it binds anything. -/
def scopeVars (root : Bool) : Walker (List Piece) := do
  match ← need ((← get).scope.identifiers root) with
  | [] => return []
  | ps => return [(Form.group .vars (.items (← ps.mapM fun p => declaration p .absent))).piece]

end Transpile.Walk
