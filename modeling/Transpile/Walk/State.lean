import Transpile.Levels
import Transpile.Scope
import Transpile.Source.Tree
import Transpile.Stack

/-! What a walk over a source tree holds: the results collected at each level, the operators that
are open, the names in scope, and the trace. A failure leaves all of it as it was reached. -/

namespace Transpile.Walk

open Script Source

structure Options where
  /-- Wrap the program in a function that is called at once. -/
  closure : Bool := false
  camelCase : Bool := false
  debug : Bool := false

structure State where
  levels : Levels Piece := {}
  operators : Stack Kind := {}
  scope : Scope := {}
  depth : Nat := 0
  /-- The name under which the global object was imported. -/
  globalName : Option String := none
  /-- The name under which the constructor helper was imported. -/
  newName : Option String := none
  /-- The number of the next binding. -/
  sites : Nat := 0
  /-- The bindings that a declaration has introduced. -/
  declared : List Nat := []
  /-- The trace, the last line first. -/
  trace : List String := []

abbrev Walker := ReaderT Options (ExceptT Cause (StateM State))

/-- Goes on with a result or fails with its cause. -/
def need {α : Type} : Except Cause α → Walker α
  | .ok a => pure a
  | .error c => throw c

def say (line : String) : Walker Unit := do
  if (← read).debug then
    modify fun s => { s with trace :=
      (String.ofList (List.replicate (4 * s.depth) ' ') ++ " " ++ line) :: s.trace }

/-! The scope -/

def inScope (key : Option String) : Walker Bool := do return (← get).scope.hasKey key

/-- Changes the scope; the change stays when it fails. -/
def changeScope (f : Scope → Except Cause Unit × Scope) : Walker Unit := do
  let r := f (← get).scope
  modify fun s => { s with scope := r.2 }
  need r.1

def enterScope : Walker Unit := modify fun s => { s with scope := s.scope.enter }

def leaveScope : Walker Unit := modify fun s => { s with scope := s.scope.leave }

/-! The levels -/

def openLevel : Walker Unit := modify fun s => { s with levels := s.levels.up }

def closeLevel : Walker Unit := do
  let r := (← get).levels.down
  modify fun s => { s with levels := r.2 }
  need r.1

/-- The results collected at the current level. -/
def children : Walker (List Piece) := do
  modify fun s => { s with levels := s.levels.touch }
  return (← get).levels.current

/-- The pieces that a result adds to the list it is put into. -/
def spliced : Piece → List Piece
  | .node (.group .splice s) _ => (s.parts?.getD []).filter fun p => !p.isAbsent
  | .absent => []
  | p => [p]

def collect (p : Piece) : Walker Unit := do
  unless p.isAbsent do
    modify fun s => { s with levels := s.levels.appendAll (spliced p) }

/-! The operators -/

def pushOperator (k : Kind) : Walker Unit :=
  modify fun s => { s with operators := s.operators.push k }

def popOperator : Walker Unit := do
  let r := (← get).operators.pop
  modify fun s => { s with operators := r.2 }
  discard (need r.1)

/-- Whether the walk is inside the operands of an operator. -/
def inOperator : Walker Bool := do return !(← get).operators.isEmpty

def deeper : Walker Unit := modify fun s => { s with depth := s.depth + 1 }

def shallower : Walker Unit := modify fun s => { s with depth := s.depth - 1 }

/-- A walk from the given state. -/
def run {α : Type} (w : Walker α) (o : Options) (s : State) : Except Cause α × State := w o s

end Transpile.Walk
