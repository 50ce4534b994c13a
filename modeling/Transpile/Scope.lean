import Transpile.Script.Piece

/-! Names in scope: a chain of maps, of which the innermost takes new names, and the special forms,
which no visible name may share a key with. -/

namespace Transpile

open Script

/-- The order of names: by code points. -/
def nameLE (a b : String) : Bool := !(b < a)

/-- A name and what it stands for. What has no name is bound without a key. -/
structure Binding where
  key : Option String
  target : Piece

abbrev Bindings := List Binding

namespace Bindings

def hasKey (m : Bindings) (key : Option String) : Bool := m.any fun b => b.key = key

def has (m : Bindings) (k : String) : Bool := m.hasKey (some k)

/-- Replaces the binding of the key where it stands, or adds one at the end. -/
def put (m : Bindings) (key : Option String) (target : Piece) : Bindings :=
  if m.hasKey key then m.map fun b => if b.key = key then ⟨key, target⟩ else b
  else m ++ [⟨key, target⟩]

def erase (m : Bindings) (k : String) : Bindings := m.filter fun b => b.key ≠ some k

def keys (m : Bindings) : List String := m.filterMap (·.key)

/-- The bindings ordered by key. -/
def byKey (m : Bindings) : Bindings := m.mergeSort fun a b => nameLE (a.key.getD "") (b.key.getD "")

end Bindings

structure Scope where
  inner : Bindings := []
  outer : List Bindings := []
  special : Bindings := []

namespace Scope

/-- The maps from the innermost out. -/
def maps (s : Scope) : List Bindings := s.inner :: s.outer

def keys (s : Scope) : List String := s.maps.flatMap Bindings.keys

def hasKey (s : Scope) (key : Option String) : Bool := s.maps.any (·.hasKey key)

def contains (s : Scope) (k : String) : Bool := s.hasKey (some k)

def isEmpty (s : Scope) : Bool := s.maps.all List.isEmpty

/-- No visible name is a special form. -/
def isValid (s : Scope) : Bool := s.special.all fun b => !s.hasKey b.key

def check (s : Scope) : Except Cause Unit × Scope :=
  (if s.isValid then .ok () else .error .specialFormOverwritten, s)

/-- Binds in the innermost map; the binding stays when the check fails. -/
def set (s : Scope) (key : Option String) (target : Piece) : Except Cause Unit × Scope :=
  { s with inner := s.inner.put key target }.check

def setSpecial (s : Scope) (key : Option String) (target : Piece) : Except Cause Unit × Scope :=
  { s with special := s.special.put key target }.check

/-- Removes a name from the innermost map. -/
def unset (s : Scope) (k : String) : Except Cause Unit × Scope :=
  if s.inner.has k then (.ok (), { s with inner := s.inner.erase k }) else (.error .missingKey, s)

def enter (s : Scope) : Scope := { s with inner := [], outer := s.inner :: s.outer }

/-- Leaves the innermost map; the last one is emptied instead. -/
def leave (s : Scope) : Scope :=
  match s.outer with
  | [] => { s with inner := [] }
  | m :: ms => { s with inner := m, outer := ms }

/-- Targets with the names that order them. -/
def named (ps : List Piece) : Except Cause (List (String × Piece)) :=
  ps.mapM fun p =>
    match p.value with
    | .ok (.text s) => .ok (s, p)
    | .ok _ => .error .wrongType
    | .error c => .error c

/-- The targets ordered by name. One target needs no order, so it needs no name. -/
def sorted (ps : List Piece) : Except Cause (List Piece) :=
  match ps with
  | [p] => do
    let _ ← p.value
    return [p]
  | _ => do return ((← named ps).mergeSort fun a b => nameLE a.1 b.1).map (·.2)

/-- What the innermost map declares, with the special forms at the root. -/
def identifiers (s : Scope) (root : Bool) : Except Cause (List Piece) :=
  sorted ((if root then s.special.map (·.target) else []) ++ s.inner.map (·.target))

def numbered (stem : String) (i : Nat) : String := stem ++ "_" ++ toString i

/-- The least index from `i` on whose name is not taken, within `n` steps. -/
def firstFree (taken : List String) (stem : String) : Nat → Nat → Nat
  | 0, i => i
  | n + 1, i => if taken.contains (numbered stem i) then firstFree taken stem n (i + 1) else i

/-- The first numbered name that is not in scope. A search that gives up at the index 100000000 finds
the same name unless as many numbered names are in scope; here the index has no bound. -/
def fresh (s : Scope) (stem : String) : String :=
  numbered stem (firstFree s.keys stem s.keys.length 0)

end Scope

end Transpile
