import Transpile.Walk.Stmt
import Mathlib.Logic.Function.Basic
import Mathlib.Tactic.Common

/-! What scripts do. Expressions are evaluated in a store that gives each name its value, and may change
it; statements run to an outcome. Evaluation knows names, numbers, arrays, assignments to names and what
counting loops are made of; all other expressions mean what a world says they do. -/

namespace Transpile.Running

open Script

inductive Value (α : Type) where
  | nat (n : Nat)
  | bool (b : Bool)
  | array (vs : List (Value α))
  | other (a : α)

abbrev Store (α : Type) := String → Value α

/-- What is left open: the numbers that are not natural, what counts as true besides, and the meaning of
the other expressions. -/
structure World (α : Type) where
  number : String → α
  isTrue : α → Bool
  meaning : Form → Store α → Option (Value α × Store α)

variable {α : Type}

/-- A world in which nothing else has a meaning. -/
def bareWorld : World Unit where
  number _ := ()
  isTrue _ := false
  meaning _ _ := none

namespace World

variable (w : World α)

/-- The number that a numeral stands for: a natural number, or another one. -/
def numeral (s : String) : Nat ⊕ α :=
  if s.toList.all Char.isDigit then .inl (Nat.ofDigitChars 10 s.toList 0) else .inr (w.number s)

def holds : Value α → Bool
  | .nat n => n ≠ 0
  | .bool b => b
  | .array _ => true
  | .other a => w.isTrue a

end World

namespace Value

def ofNumber : Nat ⊕ α → Value α
  | .inl n => .nat n
  | .inr a => .other a

/-- The element of an array at an index. -/
def at? : Value α → Value α → Option (Value α)
  | .array vs, .nat n => vs[n]?
  | _, _ => none

def size? : Value α → Option (Value α)
  | .array vs => some (.nat vs.length)
  | _ => none

def less? : Value α → Value α → Option (Value α)
  | .nat m, .nat n => some (.bool (m < n))
  | _, _ => none

def next? : Value α → Option (Value α)
  | .nat n => some (.nat (n + 1))
  | _ => none

/-- An array with one more element. -/
def push? : Value α → Value α → Option (Value α)
  | .array vs, v => some (.array (vs ++ [v]))
  | _, _ => none

end Value

/-- The name that an identifier has. -/
def identifier? : Piece → Option String
  | .node (.leaf .ident (.text x)) _ => some x
  | _ => none

/-- The name of the array in a call that adds to it. -/
def pushed? : Piece → Option String
  | .node (.dot t n) _ => if identifier? n = some "push" then identifier? t else none
  | _ => none

def leafValue (w : World α) (k : Leaf) (v : Piece) (σ : Store α) : Option (Value α) :=
  match k, v with
  | .ident, .text x => some (σ x)
  | .number, .text s => some (.ofNumber (w.numeral s))
  | .boolean, .text s => some (.bool (s = "true"))
  | _, _ => none

mutual

def evalPiece (w : World α) (p : Piece) (σ : Store α) : Option (Value α × Store α) :=
  match p with
  | .node f _ => evalForm w f σ
  | _ => none

/-- A form that no rule here is for means what the world says. -/
def evalForm (w : World α) (f : Form) (σ : Store α) : Option (Value α × Store α) :=
  (match f with
  | .leaf k v => (leafValue w k v σ).map (·, σ)
  | .array s => do
    let (vs, σ) ← evalSeq w s σ
    return (.array vs, σ)
  | .bracket t i => do
    let (a, σ) ← evalPiece w t σ
    let (n, σ) ← evalPiece w i σ
    return (← a.at? n, σ)
  | .dot t n => do
    let (a, σ) ← evalPiece w t σ
    if identifier? n = some "length" then return (← a.size?, σ) else none
  | .assign (.text "=") l r => do
    let x ← identifier? l
    let (v, σ) ← evalPiece w r σ
    return (v, Function.update σ x v)
  | .binary (.text "<") l r => do
    let (a, σ) ← evalPiece w l σ
    let (b, σ) ← evalPiece w r σ
    return (← a.less? b, σ)
  | .binary (.text "&&") l r => do
    let (a, σ) ← evalPiece w l σ
    if w.holds a then evalPiece w r σ else return (a, σ)
  | .unary (.text "++") x (.atom (.flag true)) => do
    let x ← identifier? x
    return (σ x, Function.update σ x (← (σ x).next?))
  | .comma l r => do
    let (_, σ) ← evalPiece w l σ
    evalPiece w r σ
  | .call c args => do
    let x ← pushed? c
    let (vs, σ) ← evalSeq w args σ
    let [v] := vs | none
    let a ← (σ x).push? v
    return (← a.size?, Function.update σ x a)
  | _ => none).orElse fun _ => w.meaning f σ

def evalSeq (w : World α) (s : Seq) (σ : Store α) : Option (List (Value α) × Store α) :=
  match s with
  | .items ps => evalAll w ps σ
  | .spread _ ps => evalAll w ps σ
  | .single _ => none

def evalAll (w : World α) (ps : List Piece) (σ : Store α) : Option (List (Value α) × Store α) :=
  match ps with
  | [] => some ([], σ)
  | p :: ps => do
    let (v, σ) ← evalPiece w p σ
    let (vs, σ) ← evalAll w ps σ
    return (v :: vs, σ)

end

section

variable {w : World α} {σ σ' : Store α} {v : Value α}

theorem eval_identifier {p : Piece} {x : String} (h : identifier? p = some x) :
    evalPiece w p σ = some (σ x, σ) := by
  unfold identifier? at h
  split at h
  · cases h
    rfl
  · cases h

theorem eval_numeral (s : String) :
    evalPiece w (Walk.leaf .number s) σ = some (.ofNumber (w.numeral s), σ) := rfl

theorem numeral_toString (n : Nat) : w.numeral (toString n) = .inl n := by
  have hdigits : (toString n).toList = Nat.toDigits 10 n := by
    rw [Nat.toString_eq_repr, Nat.toList_repr]
  have hall : (Nat.toDigits 10 n).all Char.isDigit = true :=
    List.all_eq_true.2 fun _ hc => Nat.isDigit_of_mem_toDigits (by decide) (by decide) hc
  rw [World.numeral, hdigits, if_pos hall, Nat.ofDigitChars_toDigits (by decide) (by decide)]

theorem eval_array {ps : List Piece} {vs : List (Value α)} (h : evalAll w ps σ = some (vs, σ'))
    (m : Marks) : evalPiece w (.node (.array (.items ps)) m) σ = some (.array vs, σ') := by
  simp [evalPiece, evalForm, evalSeq, h]

theorem eval_bracket {t i : Piece} {a n : Value α} {σ1 : Store α}
    (ht : evalPiece w t σ = some (a, σ1)) (hi : evalPiece w i σ1 = some (n, σ'))
    (hv : a.at? n = some v) (m : Marks) : evalPiece w (.node (.bracket t i) m) σ = some (v, σ') := by
  simp [evalPiece, evalForm, ht, hi, hv]

theorem eval_assign {l r : Piece} {x : String} (hl : identifier? l = some x)
    (hr : evalPiece w r σ = some (v, σ')) (m : Marks) :
    evalPiece w (.node (.assign (.text "=") l r) m) σ = some (v, Function.update σ' x v) := by
  simp [evalPiece, evalForm, hl, hr]

theorem eval_comma {l r : Piece} {u : Value α} {σ1 : Store α} (hl : evalPiece w l σ = some (u, σ1))
    (hr : evalPiece w r σ1 = some (v, σ')) (m : Marks) :
    evalPiece w (.node (.comma l r) m) σ = some (v, σ') := by
  simp [evalPiece, evalForm, hl, hr]

theorem eval_length {t : Piece} {a : Value α} (ht : evalPiece w t σ = some (a, σ'))
    (hv : a.size? = some v) : evalPiece w (Walk.dot t "length") σ = some (v, σ') := by
  simp [Walk.dot, Form.piece, evalPiece, evalForm, Walk.word, Walk.identifier, identifier?, ht, hv]

theorem eval_less {l r : Piece} {a b : Value α} {σ1 : Store α}
    (hl : evalPiece w l σ = some (a, σ1)) (hr : evalPiece w r σ1 = some (b, σ'))
    (hv : a.less? b = some v) : evalPiece w (Walk.binary "<" l r) σ = some (v, σ') := by
  simp [Walk.binary, Walk.text, Form.piece, evalPiece, evalForm, hl, hr, hv]

theorem eval_and {l r : Piece} {a b : Value α} {σ1 : Store α} (hl : evalPiece w l σ = some (a, σ1))
    (hr : evalPiece w r σ1 = some (b, σ')) : evalPiece w (Walk.binary "&&" l r) σ =
      if w.holds a then some (b, σ') else some (a, σ1) := by
  cases ha : w.holds a <;>
    simp [Walk.binary, Walk.text, Form.piece, evalPiece, evalForm, hl, hr, ha]

/-- Counting up gives the number before. -/
theorem eval_increment {p : Piece} {x : String} (hp : identifier? p = some x)
    (hv : (σ x).next? = some v) (m : Marks) :
    evalPiece w (.node (.unary (.text "++") p (.atom (.flag true))) m) σ =
      some (σ x, Function.update σ x v) := by
  simp [evalPiece, evalForm, hp, hv]

theorem eval_push {c : Piece} {x : String} {args : Seq} {ps : List Piece} {a n : Value α}
    (hc : pushed? c = some x) (hargs : args.parts? = some ps)
    (hps : evalAll w ps σ = some ([v], σ')) (ha : (σ' x).push? v = some a) (hn : a.size? = some n) :
    evalForm w (.call c args) σ = some (n, Function.update σ' x a) := by
  have hseq : evalSeq w args σ = some ([v], σ') := by
    cases args <;> cases hargs <;> exact hps
  simp [evalForm, hc, hseq, ha, hn]

end

/-! Statements -/

/-- How a statement ends. -/
inductive Outcome (α : Type) where
  | normal
  | broken
  | continued
  | returned (v : Value α)

/-- The loop goes on after its body. -/
def Outcome.goesOn : Outcome α → Bool
  | .normal | .continued => true
  | _ => false

/-- What the loop ends with where its body does not let it go on. -/
def Outcome.leaving : Outcome α → Outcome α
  | .returned v => .returned v
  | _ => .normal

/-- What is run: a statement, statements in order, or what is left of a loop. -/
inductive Work where
  | one (p : Piece)
  | all (ps : List Piece)
  | loop (test : Piece) (step : Option Piece) (body : Piece)

/-- The arm of a condition that is run; the second may be absent. -/
def chosen (holds : Bool) (yes no : Piece) : List Piece :=
  if holds then [yes] else [no].filter fun p => !p.isAbsent

/-- The step of a loop, if it has one. -/
def evalStep (w : World α) : Option Piece → Store α → Option (Store α)
  | none, σ => some σ
  | some p, σ => (evalPiece w p σ).map Prod.snd

inductive Runs (w : World α) : Work → Store α → Outcome α → Store α → Prop where
  | nil {σ : Store α} : Runs w (.all []) σ .normal σ
  | cons {p : Piece} {ps : List Piece} {σ σ1 σ2 : Store α} {out : Outcome α}
      (first : Runs w (.one p) σ .normal σ1) (rest : Runs w (.all ps) σ1 out σ2) :
      Runs w (.all (p :: ps)) σ out σ2
  | stop {p : Piece} {ps : List Piece} {σ σ1 : Store α} {out : Outcome α}
      (first : Runs w (.one p) σ out σ1) (early : out ≠ .normal) : Runs w (.all (p :: ps)) σ out σ1
  | vars {s : Seq} {m : Marks} {σ : Store α} : Runs w (.one (.node (.group .vars s) m)) σ .normal σ
  | expression {x : Piece} {m : Marks} {σ σ1 : Store α} {v : Value α}
      (value : evalPiece w x σ = some (v, σ1)) :
      Runs w (.one (.node (.exprStatement x) m)) σ .normal σ1
  /-- A call that stands as a statement. -/
  | call {c : Piece} {args : Seq} {m : Marks} {σ σ1 : Store α} {v : Value α}
      (value : evalForm w (.call c args) σ = some (v, σ1)) :
      Runs w (.one (.node (.call c args) m)) σ .normal σ1
  | block {s : Seq} {ps : List Piece} {m : Marks} {σ σ1 : Store α} {out : Outcome α}
      (parts : s.parts? = some ps) (inner : Runs w (.all ps) σ out σ1) :
      Runs w (.one (.node (.group .block s) m)) σ out σ1
  | ifThen {test yes no : Piece} {m : Marks} {σ σ1 σ2 : Store α} {v : Value α} {out : Outcome α}
      (value : evalPiece w test σ = some (v, σ1))
      (inner : Runs w (.all (chosen (w.holds v) yes no)) σ1 out σ2) :
      Runs w (.one (.node (.ifThen test yes no) m)) σ out σ2
  | whileDo {test body : Piece} {m : Marks} {σ σ1 : Store α} {out : Outcome α}
      (inner : Runs w (.loop test none body) σ out σ1) :
      Runs w (.one (.node (.whileDo test body) m)) σ out σ1
  | forLoop {start test step body : Piece} {m : Marks} {σ σ1 σ2 : Store α} {v : Value α}
      {out : Outcome α} (value : evalPiece w start σ = some (v, σ1))
      (inner : Runs w (.loop test (some step) body) σ1 out σ2) :
      Runs w (.one (.node (.forLoop start test step body) m)) σ out σ2
  | ended {test body : Piece} {step : Option Piece} {σ σ1 : Store α} {v : Value α}
      (value : evalPiece w test σ = some (v, σ1)) (fails : w.holds v = false) :
      Runs w (.loop test step body) σ .normal σ1
  | turn {test body : Piece} {step : Option Piece} {σ σ1 σ2 σ3 σ4 : Store α} {v : Value α}
      {out out' : Outcome α} (value : evalPiece w test σ = some (v, σ1)) (holds : w.holds v = true)
      (inner : Runs w (.one body) σ1 out σ2) (goesOn : out.goesOn = true)
      (stepped : evalStep w step σ2 = some σ3) (again : Runs w (.loop test step body) σ3 out' σ4) :
      Runs w (.loop test step body) σ out' σ4
  | exit {test body : Piece} {step : Option Piece} {σ σ1 σ2 : Store α} {v : Value α}
      {out : Outcome α} (value : evalPiece w test σ = some (v, σ1)) (holds : w.holds v = true)
      (inner : Runs w (.one body) σ1 out σ2) (leaves : out.goesOn = false) :
      Runs w (.loop test step body) σ out.leaving σ2
  | breakTo {m : Marks} {σ : Store α} : Runs w (.one (.node (.breakTo .absent) m)) σ .broken σ
  | continueTo {m : Marks} {σ : Store α} :
      Runs w (.one (.node (.continueTo .absent) m)) σ .continued σ
  | returns {x : Piece} {m : Marks} {σ σ1 : Store α} {v : Value α}
      (value : evalPiece w x σ = some (v, σ1)) :
      Runs w (.one (.node (.returns x) m)) σ (.returned v) σ1

theorem eval_unique {β : Type} {r : Option (β × Store α)} {b b' : β} {σ σ' : Store α}
    (h : r = some (b, σ)) (h' : r = some (b', σ')) : b = b' ∧ σ = σ' := by
  rw [h] at h'
  cases h'
  exact ⟨rfl, rfl⟩

/-- A store leads to one end at most. -/
theorem Runs.det {w : World α} {k : Work} {σ σ1 σ2 : Store α} {out out' : Outcome α}
    (h : Runs w k σ out σ1) (h' : Runs w k σ out' σ2) : out = out' ∧ σ1 = σ2 := by
  induction h generalizing out' σ2 with
  | nil | vars | breakTo | continueTo =>
    cases h'
    exact ⟨rfl, rfl⟩
  | cons _ _ ih1 ih2 =>
    cases h' with
    | cons first rest =>
      obtain ⟨-, rfl⟩ := ih1 first
      exact ih2 rest
    | stop first early => exact absurd (ih1 first).1.symm early
  | stop _ early ih =>
    cases h' with
    | cons first rest => exact absurd (ih first).1 early
    | stop first _ => exact ih first
  | expression value =>
    cases h' with
    | expression value' => exact ⟨rfl, (eval_unique value value').2⟩
  | call value =>
    cases h' with
    | call value' => exact ⟨rfl, (eval_unique value value').2⟩
  | returns value =>
    cases h' with
    | returns value' =>
      obtain ⟨rfl, rfl⟩ := eval_unique value value'
      exact ⟨rfl, rfl⟩
  | block parts _ ih =>
    cases h' with
    | block parts' inner =>
      rw [parts] at parts'
      cases parts'
      exact ih inner
  | ifThen value _ ih =>
    cases h' with
    | ifThen value' inner =>
      obtain ⟨rfl, rfl⟩ := eval_unique value value'
      exact ih inner
  | whileDo _ ih =>
    cases h' with
    | whileDo inner => exact ih inner
  | forLoop value _ ih =>
    cases h' with
    | forLoop value' inner =>
      obtain ⟨rfl, rfl⟩ := eval_unique value value'
      exact ih inner
  | ended value fails =>
    cases h' with
    | ended value' => exact ⟨rfl, (eval_unique value value').2⟩
    | turn value' holds =>
      obtain ⟨rfl, rfl⟩ := eval_unique value value'
      rw [fails] at holds
      cases holds
    | exit value' holds =>
      obtain ⟨rfl, rfl⟩ := eval_unique value value'
      rw [fails] at holds
      cases holds
  | turn value holds _ goesOn stepped _ ih1 ih2 =>
    cases h' with
    | ended value' fails =>
      obtain ⟨rfl, rfl⟩ := eval_unique value value'
      rw [holds] at fails
      cases fails
    | turn value' _ inner _ stepped' again =>
      obtain ⟨rfl, rfl⟩ := eval_unique value value'
      obtain ⟨-, rfl⟩ := ih1 inner
      rw [stepped] at stepped'
      cases stepped'
      exact ih2 again
    | exit value' _ inner leaves =>
      obtain ⟨rfl, rfl⟩ := eval_unique value value'
      obtain ⟨rfl, -⟩ := ih1 inner
      rw [goesOn] at leaves
      cases leaves
  | exit value holds _ leaves ih =>
    cases h' with
    | ended value' fails =>
      obtain ⟨rfl, rfl⟩ := eval_unique value value'
      rw [holds] at fails
      cases fails
    | turn value' _ inner goesOn =>
      obtain ⟨rfl, rfl⟩ := eval_unique value value'
      obtain ⟨rfl, -⟩ := ih inner
      rw [goesOn] at leaves
      cases leaves
    | exit value' _ inner _ =>
      obtain ⟨rfl, rfl⟩ := eval_unique value value'
      obtain ⟨rfl, rfl⟩ := ih inner
      exact ⟨rfl, rfl⟩

end Transpile.Running
