import Transpile.Walk.Names

/-! What a rule works with: the node that is left, with its fields as walks that can be run again,
and the results of the fields. -/

namespace Transpile.Walk

open Script Source

/-- A tree with the walk over it, and the same for its fields or members. -/
inductive Branch where
  | mk (tree : Tree) (again : Walker Piece) (parts : List Branch)

namespace Branch

def tree : Branch → Tree
  | mk t _ _ => t

/-- Walks the tree once more, at the level of whoever asks. -/
def again : Branch → Walker Piece
  | mk _ r _ => r

def parts : Branch → List Branch
  | mk _ _ ps => ps

end Branch

def child (cs : List Piece) (i : Nat) : Walker Piece :=
  match cs[i]? with
  | some p => pure p
  | none => throw .missingChild

/-- The field itself; a field that was not given cannot be read. -/
def given (t : Tree) : Walker Tree :=
  match t with
  | .missing => throw .missingAttribute
  | t => pure t

/-- How many members a field has. -/
def sizeOfField (t : Tree) : Walker Nat := do
  match ← given t with
  | .list ts => return ts.length
  | .atom (.text s) => return s.length
  | _ => throw .wrongType

def operatorOf (t : Tree) : Walker (Option Op) := do
  match ← given t with
  | .node (.op o) _ => return some o
  | _ => return none

/-- The last `n` members, all of them if there are fewer. -/
def lastOf (n : Nat) (cs : List Piece) : List Piece := cs.drop (cs.length - n)

def butLast (n : Nat) (cs : List Piece) : List Piece := cs.take (cs.length - n)

/-! Forms that rules build -/

def text (s : String) : Piece := .text s

def leaf (k : Leaf) (s : String) : Piece := (Form.leaf k (.text s)).piece

def block (ps : List Piece) : Piece := (Form.group .block (.items ps)).piece

def splice (ps : List Piece) : Piece := (Form.group .splice (.items ps)).piece

def statement (p : Piece) : Piece := (Form.exprStatement p).piece

def assignTo (op : String) (l r : Piece) : Piece := (Form.assign (text op) l r).piece

def binary (op : String) (l r : Piece) : Piece := (Form.binary (text op) l r).piece

def dot (l : Piece) (name : String) : Piece := (Form.dot l (word name)).piece

def callOf (f : Piece) (args : List Piece) : Piece := (Form.call f (.items args)).piece

/-- A function without a name. -/
def functionOf (params : Seq) (body : Seq) : Walker Piece := do
  return (← need (Form.functionOf .expr .absent params body)).piece

end Transpile.Walk
