import Transpile.Proofs.Levels
import Transpile.Walk.Names
import Mathlib.Data.List.Infix

/-! Levels under any sequence of operations, failed ones included. An operation writes at the current
level only, and a level is left without an entry, so nothing is ever held above the current one. Main
statement: a level that is opened starts empty and collects what is appended at it and nothing else, and
once it is left the levels are as they were before. -/

namespace Transpile.Levels

open Script

/-- An operation on levels. -/
inductive Op where
  | up
  | down
  | append (p : Piece)
  | values

/-- Whether a piece can be appended: a splice can if its parts can be read. -/
def isAppendable : Piece → Bool
  | .node (.group .splice s) _ => s.parts?.isSome
  | _ => true

/-- The pieces that appending a piece adds; one that is absent counts as a value. -/
def added (p : Piece) : List Piece := if p.isAbsent then [p] else Walk.spliced p

/-- The result of an operation, absent if it has none, and the levels it leaves. -/
def apply (l : Levels Piece) : Op → Except Cause Piece × Levels Piece
  | .up => (.ok .absent, l.up)
  | .down => (l.down.1.map fun _ => .absent, l.down.2)
  | .append p => (if isAppendable p then .ok .absent else .error .wrongType, l.appendAll (added p))
  | .values => (.ok (.items l.current), l.touch)

/-- The levels after operations, of which some may have failed. -/
def after (l : Levels Piece) : List Op → Levels Piece
  | [] => l
  | op :: ops => (l.apply op).2.after ops

def failureOf (l : Levels Piece) (op : Op) : List Cause :=
  match (l.apply op).1 with
  | .ok _ => []
  | .error c => [c]

/-- The failures in the course of operations. -/
def failures (l : Levels Piece) : List Op → List Cause
  | [] => []
  | op :: ops => l.failureOf op ++ (l.apply op).2.failures ops

/-- What an operation adds at a level. -/
def addedBy (l : Levels Piece) (n : Int) : Op → List Piece
  | .append p => if l.level = n then added p else []
  | _ => []

/-- What operations add at a level, in order. -/
def gathered (l : Levels Piece) (n : Int) : List Op → List Piece
  | [] => []
  | op :: ops => l.addedBy n op ++ (l.apply op).2.gathered n ops

/-- The values at a level. -/
def held (l : Levels Piece) (n : Int) : List Piece := (l.at? n).getD []

/-- Nothing is held above the current level. -/
def Clear (l : Levels Piece) : Prop := ∀ n, l.level < n → l.at? n = none

/-- Opens a level before the operations and leaves it after them. -/
def enclosed (inner : List Op) : List Op := .up :: (inner ++ [.down])

/-- The operations never go below the level that is opened before them, and end at it. -/
structure Encloses (l : Levels Piece) (inner : List Op) : Prop where
  above : ∀ ops, ops <+: inner → l.level < (l.after (.up :: ops)).level
  ends : (l.after (.up :: inner)).level = l.level + 1

/-! One operation -/

section

variable {l : Levels Piece} {n : Int}

/-- Levels other than the current one stay. -/
theorem at?_apply_of_ne (l : Levels Piece) (op : Op) (hn : n ≠ l.level) :
    (l.apply op).2.at? n = l.at? n := by
  cases op with
  | up => rfl
  | down =>
    change l.down.2.at? n = _
    cases he : l.at? l.level with
    | none => rw [down_of_none l he]
    | some xs => rw [at?_down l he, if_neg hn]
  | append p => exact at?_appendAll_of_ne l _ hn
  | values => exact at?_touch_of_ne l hn

theorem Clear.apply (h : Clear l) (op : Op) : Clear (l.apply op).2 := by
  intro n hn
  cases op with
  | up =>
    change l.level + 1 < n at hn
    exact h n (by omega)
  | down =>
    change l.down.2.level < n at hn
    change l.down.2.at? n = none
    cases he : l.at? l.level with
    | none =>
      rw [down_of_none l he] at hn ⊢
      exact h n hn
    | some xs =>
      rw [down_of_some l he] at hn
      rw [at?_down l he]
      split_ifs with hne
      · rfl
      · exact h n (by simp only at hn; omega)
  | append _ | values =>
    change l.level < n at hn
    rw [at?_apply_of_ne l _ (by omega)]
    exact h n hn

/-- A level that is opened is empty. -/
theorem Clear.held_up (h : Clear l) : l.up.held l.up.level = [] := by
  have hnone : l.at? l.up.level = none := h _ (by rw [level_up]; omega)
  rw [held, at?_up, hnone]
  rfl

theorem addedBy_of_ne (op : Op) (hn : n ≠ l.level) : l.addedBy n op = [] := by
  cases op with
  | append p => exact if_neg hn.symm
  | up | down | values => rfl

/-- A level that an operation does not leave is added to. -/
theorem held_apply (op : Op) (hn : n ≤ (l.apply op).2.level) :
    (l.apply op).2.held n = l.held n ++ l.addedBy n op := by
  unfold held
  by_cases hne : n = l.level
  · rw [hne] at hn ⊢
    cases op with
    | up => exact (List.append_nil _).symm
    | down =>
      change l.level ≤ l.down.2.level at hn
      change (l.down.2.at? l.level).getD [] = _ ++ []
      cases he : l.at? l.level with
      | none => rw [down_of_none l he, List.append_nil, he]
      | some xs =>
        -- the entry would be gone, but then the level is below the one that is asked for
        rw [down_of_some l he] at hn
        simp only at hn
        omega
    | append p =>
      change ((l.appendAll (added p)).at? l.level).getD [] = _
      rw [at?_appendAll_self, addedBy, if_pos rfl]
      rfl
    | values =>
      change (l.touch.at? l.level).getD [] = l.current ++ []
      rw [at?_touch_self, List.append_nil]
      rfl
  · rw [at?_apply_of_ne l op hne, addedBy_of_ne op hne, List.append_nil]

theorem apply_values : (l.apply .values).1 = .ok (.items (l.held l.level)) := rfl

/-- A level that is left without a failure is the one above the level reached. -/
theorem level_down_of_ok (h : l.failureOf .down = []) : (l.apply .down).2.level = l.level - 1 := by
  cases he : l.at? l.level with
  | none =>
    rw [failureOf, Levels.apply, down_of_none l he] at h
    cases h
  | some xs =>
    change l.down.2.level = _
    rw [down_of_some l he]

end

/-! Runs of operations -/

section

variable {l : Levels Piece} {n : Int} {ops : List Op}

theorem after_append (l : Levels Piece) (ops ops' : List Op) :
    l.after (ops ++ ops') = (l.after ops).after ops' := by
  induction ops generalizing l with
  | nil => rfl
  | cons op ops ih => exact ih _

/-- Without a failure up to an operation, that one does not fail. -/
theorem failureOf_of_failures {op : Op} (h : l.failures (ops ++ [op]) = []) :
    (l.after ops).failureOf op = [] := by
  induction ops generalizing l with
  | nil => exact (List.append_eq_nil_iff.1 h).1
  | cons _ _ ih => exact ih (List.append_eq_nil_iff.1 h).2

theorem clear_start : Clear {} := fun _ _ => rfl

theorem Clear.after (h : Clear l) (ops : List Op) : Clear (l.after ops) := by
  induction ops generalizing l with
  | nil => exact h
  | cons op ops ih => exact ih (h.apply op)

/-- A level under all those that the operations pass stays. -/
theorem at?_after (h : ∀ pre, pre <+: ops → n < (l.after pre).level) :
    (l.after ops).at? n = l.at? n := by
  induction ops generalizing l with
  | nil => rfl
  | cons op ops ih =>
    have hstart : n < l.level := h [] List.nil_prefix
    calc ((l.apply op).2.after ops).at? n
        = (l.apply op).2.at? n := ih fun pre hpre => h (op :: pre) (List.prefix_cons_inj op |>.2 hpre)
      _ = l.at? n := at?_apply_of_ne l op (by omega)

/-- A level that the operations never leave holds what it held and then what they add at it. -/
theorem held_after (h : ∀ pre, pre <+: ops → n ≤ (l.after pre).level) :
    (l.after ops).held n = l.held n ++ l.gathered n ops := by
  induction ops generalizing l with
  | nil => exact (List.append_nil _).symm
  | cons op ops ih =>
    have htail : ∀ pre, pre <+: ops → n ≤ ((l.apply op).2.after pre).level :=
      fun pre hpre => h (op :: pre) (List.prefix_cons_inj op |>.2 hpre)
    calc ((l.apply op).2.after ops).held n
        = (l.apply op).2.held n ++ (l.apply op).2.gathered n ops := ih htail
      _ = l.held n ++ (l.addedBy n op ++ (l.apply op).2.gathered n ops) := by
        rw [held_apply op (htail [] List.nil_prefix), List.append_assoc]

end

/-! A level that is opened -/

section

variable {l : Levels Piece} {inner : List Op}

/-- The level that is opened holds what the operations add at it. -/
theorem Encloses.held_opened (h : l.Encloses inner) (hl : Clear l) :
    (l.after (.up :: inner)).held (l.level + 1) = l.up.gathered (l.level + 1) inner :=
  calc (l.up.after inner).held (l.level + 1)
      = l.up.held (l.level + 1) ++ l.up.gathered (l.level + 1) inner :=
        held_after fun ops hops => Int.add_one_le_of_lt (h.above ops hops)
    _ = l.up.gathered (l.level + 1) inner := by rw [← level_up, hl.held_up, List.nil_append]

theorem after_enclosed (l : Levels Piece) (inner : List Op) :
    l.after (enclosed inner) = ((l.after (.up :: inner)).apply .down).2 :=
  after_append l.up inner [.down]

/-- Levels up to the one at the start stay when the level that is opened is left, also where that fails. -/
theorem Encloses.at?_closed (h : l.Encloses inner) {n : Int} (hn : n ≤ l.level) :
    (l.after (enclosed inner)).at? n = l.at? n := by
  have hne : n ≠ (l.after (.up :: inner)).level := by rw [h.ends]; omega
  calc (l.after (enclosed inner)).at? n
      = (l.up.after inner).at? n := by
        rw [after_enclosed]
        exact at?_apply_of_ne _ .down hne
    _ = l.up.at? n := at?_after fun ops hops => Int.lt_of_le_of_lt hn (h.above ops hops)
    _ = l.at? n := at?_up l n

theorem Encloses.level_closed (h : l.Encloses inner) (hok : l.failures (enclosed inner) = []) :
    (l.after (enclosed inner)).level = l.level := by
  have hdown : (l.up.after inner).failureOf .down = [] :=
    failureOf_of_failures (List.append_eq_nil_iff.1 hok).2
  calc (l.after (enclosed inner)).level
      = (l.after (.up :: inner)).level - 1 := by
        rw [after_enclosed]
        exact level_down_of_ok hdown
    _ = l.level := by rw [h.ends, Int.add_sub_cancel]

end

/-- Whatever is done to new levels, with operations that fail among it, no level above the current one
has an entry, so the values of a level that has just been opened are empty. As long as operations keep to
that level and those above it, its values are what was appended at it, in order; and where it is left in
the end and nothing has failed since it was opened, the current level is the one before and every level
has the entry that it had before, or none as before. -/
theorem siblings_apart (before : List Op) :
    let l := ({} : Levels Piece).after before
    (∀ n, l.level < n → l.at? n = none) ∧
    ((l.after [.up]).apply .values).1 = .ok (.items []) ∧
    ∀ inner, l.Encloses inner →
      ((l.after (.up :: inner)).apply .values).1 =
        .ok (.items ((l.after [.up]).gathered (l.level + 1) inner)) ∧
      (l.failures (enclosed inner) = [] →
        (l.after (enclosed inner)).level = l.level ∧
        ∀ n, (l.after (enclosed inner)).at? n = l.at? n) := by
  intro l
  have hclear : Clear l := clear_start.after before
  refine ⟨hclear, ?_, fun inner h => ⟨?_, fun hok => ⟨h.level_closed hok, fun n => ?_⟩⟩⟩
  · exact congrArg (fun xs => Except.ok (Piece.items xs)) hclear.held_up
  · rw [apply_values, h.ends, h.held_opened hclear]
    rfl
  · by_cases hn : n ≤ l.level
    · exact h.at?_closed hn
    · have hclosed := hclear.after (enclosed inner) n
      rw [h.level_closed hok] at hclosed
      rw [hclosed (Int.not_le.1 hn), hclear n (Int.not_le.1 hn)]

/-- A level below zero is reached, and then one is not left for want of an entry. -/
def faultyStart : List Op :=
  [.append (Walk.word "x"), .down, .append (Walk.word "y"), .up, .up, .down, .append (Walk.word "z")]

/-- A splice with an absent part, two levels within, of which the second has no values, and a name. -/
def twoWithin : List Op :=
  [.append (Form.group .splice (.items [Walk.word "a", .absent, Walk.word "b"])).piece,
    .up, .append (Walk.word "c"), .down, .up, .values, .down, .append (Walk.word "d")]

theorem twoWithin_apart :
    ({} : Levels Piece).failures faultyStart = [.levelBelowZero, .missingKey] ∧
    (let l := ({} : Levels Piece).after faultyStart
    l.level = 1 ∧ l.Encloses twoWithin ∧ l.failures (enclosed twoWithin) = [] ∧
    ((l.after (.up :: twoWithin)).apply .values).1 =
      .ok (.items [Walk.word "a", Walk.word "b", Walk.word "d"]) ∧
    (l.after (enclosed twoWithin)).level = 1 ∧
    ∀ n, (l.after (enclosed twoWithin)).at? n = l.at? n) := by
  have hencloses : (({} : Levels Piece).after faultyStart).Encloses twoWithin := by
    refine ⟨fun ops hops => ?_, by decide +kernel⟩
    have hlevels : ∀ ops ∈ twoWithin.inits, (({} : Levels Piece).after faultyStart).level <
        ((({} : Levels Piece).after faultyStart).after (.up :: ops)).level := by decide +kernel
    exact hlevels ops ((List.mem_inits ops _).2 hops)
  obtain ⟨hvalues, hclosed⟩ := (siblings_apart faultyStart).2.2 twoWithin hencloses
  obtain ⟨hlevel, hat⟩ := hclosed (by decide +kernel)
  exact ⟨by decide +kernel, by decide +kernel, hencloses, by decide +kernel, hvalues, hlevel, hat⟩

end Transpile.Levels
