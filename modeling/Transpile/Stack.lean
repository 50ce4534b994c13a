import Transpile.Cause

/-! A stack; popping an empty one fails and changes nothing. -/

namespace Transpile

/-- Items from the top down. -/
structure Stack (α : Type) where
  items : List α := []
  deriving Repr

namespace Stack

variable {α : Type}

def push (s : Stack α) (a : α) : Stack α := ⟨a :: s.items⟩

def top? (s : Stack α) : Option α := s.items.head?

def isEmpty (s : Stack α) : Bool := s.items.isEmpty

def size (s : Stack α) : Nat := s.items.length

/-- Items from the bottom up. -/
def toList (s : Stack α) : List α := s.items.reverse

def pop (s : Stack α) : Except Cause α × Stack α :=
  match s.items with
  | [] => (.error .emptyStack, s)
  | a :: as => (.ok a, ⟨as⟩)

end Stack

end Transpile
