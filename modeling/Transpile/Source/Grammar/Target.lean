import Transpile.Source.Tree

/-! Nodes that the grammar builds, and what may be assigned to or deleted. A target is read as an
expression first, and then takes its use in all of its parts. -/

namespace Transpile.Source.Tree

def use (u : Use) : Tree := .node (.use u) []

def op (o : Op) : Tree := .node (.op o) []

def const (a : Atom) : Tree := .node .constant [.atom a]

def ident (s : String) : Tree := .node .name [.text s, use .load]

def tuple (ts : List Tree) : Tree := .node .tuple [.list ts, use .load]

def starred (t : Tree) : Tree := .node .starred [t, use .load]

def opt (t : Option Tree) : Tree := t.getD .none

mutual

/-- The tree as a target. Names, attributes and subscripts are targets, and so are displays of
targets and, unless they are deleted, starred targets. -/
def target? (u : Use) : Tree → Option Tree
  | .node .name [s, _] => some (.node .name [s, use u])
  | .node .attr [v, s, _] => some (.node .attr [v, s, use u])
  | .node .subscript [v, s, _] => some (.node .subscript [v, s, use u])
  | .node .tuple [.list ts, _] => return .node .tuple [.list (← targets? u ts), use u]
  | .node .list [.list ts, _] => return .node .list [.list (← targets? u ts), use u]
  | .node .starred [t, _] =>
    if u = .del then Option.none else return .node .starred [← target? u t, use u]
  | _ => Option.none

def targets? (u : Use) : List Tree → Option (List Tree)
  | [] => some []
  | t :: ts => return (← target? u t) :: (← targets? u ts)

end

/-- Targets that hold one value. -/
def single? (t : Tree) : Option Tree :=
  match t.kind? with
  | some .name | some .attr | some .subscript => t.target? .store
  | _ => Option.none

end Transpile.Source.Tree
