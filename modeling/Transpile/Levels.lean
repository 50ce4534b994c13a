import Transpile.Cause

/-! Lists by level. Values are collected at the current level; a level has an entry once something
was collected there or its values were asked for, and leaving a level removes its entry. -/

namespace Transpile

structure Levels (α : Type) where
  level : Int := 0
  /-- The entries, the highest level first. -/
  entries : List (Int × List α) := []
  deriving Repr

namespace Levels

variable {α : Type}

/-- Writes the entry of a level. -/
def put (n : Int) (xs : List α) : List (Int × List α) → List (Int × List α)
  | [] => [(n, xs)]
  | e :: es =>
    if e.1 = n then (n, xs) :: es
    else if e.1 < n then (n, xs) :: e :: es
    else e :: put n xs es

def at? (l : Levels α) (n : Int) : Option (List α) := l.entries.lookup n

/-- The values at the current level. -/
def current (l : Levels α) : List α := (l.at? l.level).getD []

def up (l : Levels α) : Levels α := { l with level := l.level + 1 }

def appendAll (l : Levels α) (xs : List α) : Levels α :=
  { l with entries := put l.level (l.current ++ xs) l.entries }

def append (l : Levels α) (x : α) : Levels α := l.appendAll [x]

/-- Makes sure that the current level has an entry. -/
def touch (l : Levels α) : Levels α := l.appendAll []

/-- Leaves the current level. It must have an entry, and a level below zero is reported after the
move. -/
def down (l : Levels α) : Except Cause Unit × Levels α :=
  match l.at? l.level with
  | none => (.error .missingKey, l)
  | some _ =>
    let l' : Levels α := ⟨l.level - 1, l.entries.filter fun e => e.1 ≠ l.level⟩
    (if l'.level < 0 then .error .levelBelowZero else .ok (), l')

/-- The entries, the lowest level first. -/
def toList (l : Levels α) : List (Int × List α) := l.entries.reverse

end Levels

end Transpile
