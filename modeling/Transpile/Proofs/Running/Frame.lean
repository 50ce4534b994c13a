import Transpile.Proofs.Parts
import Transpile.Proofs.Running.Meaning

/-! Names that are not mentioned. In a world whose meanings depend only on what they mention, a script
neither reads nor writes a name that does not stand in it: from a store with another value under that
name it runs to the same end, and leaves the value. -/

namespace Transpile.Running

open Script

/-- No identifier in the piece has the name. -/
def Avoids (x : String) (p : Piece) : Prop :=
  p.All (fun f => f ≠ .leaf .ident (.text x)) fun _ => True

variable {α β γ : Type}

/-- The value under the name does not matter, and stays. -/
def Framed (x : String) (k : Store α → Option (β × Store α)) : Prop :=
  ∀ σ v, k (Function.update σ x v) = (k σ).map fun r => (r.1, Function.update r.2 x v)

/-- The world gives no meaning that has to do with a name which is not mentioned. -/
def World.Spares (w : World α) (x : String) : Prop :=
  ∀ f, f ≠ .leaf .ident (.text x) → (∀ p ∈ f.pieces, Avoids x p) → Framed x (w.meaning f)

theorem bareWorld_spares (x : String) : bareWorld.Spares x := fun _ _ _ _ _ => rfl

section

variable {w : World α} {x : String}

theorem Avoids.node_iff {f : Form} {m : Marks} :
    Avoids x (.node f m) ↔ f ≠ .leaf .ident (.text x) ∧ ∀ p ∈ f.pieces, Avoids x p :=
  Piece.all_node_iff

theorem Avoids.identifier_ne {p : Piece} {y : String} (h : Avoids x p) (hy : identifier? p = some y) :
    y ≠ x := by
  unfold identifier? at hy
  split at hy
  · cases hy
    rintro rfl
    exact (Avoids.node_iff.1 h).1 rfl
  · cases hy

theorem avoids_identifier {p : Piece} {y : String} (hy : identifier? p = some y) (hne : y ≠ x) :
    Avoids x p := by
  unfold identifier? at hy
  split at hy
  · cases hy
    refine Avoids.node_iff.2 ⟨?_, fun q hq => ?_⟩
    · rintro ⟨⟩
      exact hne rfl
    · rw [List.mem_singleton.1 hq]
      exact .atom trivial
  · cases hy

theorem Avoids.pushed_ne {p : Piece} {y : String} (h : Avoids x p) (hy : pushed? p = some y) :
    y ≠ x := by
  unfold pushed? at hy
  split at hy
  · split_ifs at hy
    exact ((Avoids.node_iff.1 h).2 _ (.head _)).identifier_ne hy
  · cases hy

/-! Expressions -/

theorem framed_pure (b : β) : Framed (α := α) x fun σ => pure (b, σ) := fun _ _ => rfl

theorem framed_none : Framed (α := α) (β := β) x fun _ => none := fun _ _ => rfl

theorem framed_write {y : String} (hy : y ≠ x) (b : β) (u : Value α) :
    Framed x fun σ => pure (b, Function.update σ y u) := by
  intro σ v
  beta_reduce
  rw [Function.update_comm hy.symm]
  rfl

theorem framed_bind {k : Store α → Option (β × Store α)} {g : β × Store α → Option (γ × Store α)}
    (hk : Framed x k) (hg : ∀ b, Framed x fun σ => g (b, σ)) : Framed x fun σ => k σ >>= g := by
  intro σ v
  beta_reduce
  rw [hk σ v]
  cases hr : k σ with
  | none => rfl
  | some r => exact hg r.1 r.2 v

theorem framed_option {m : Option β} {g : β → Store α → Option (γ × Store α)}
    (hg : ∀ b, m = some b → Framed x (g b)) : Framed x fun σ => m >>= fun b => g b σ := by
  intro σ v
  cases m with
  | none => rfl
  | some b => exact hg b rfl σ v

theorem framed_ite {c : Prop} [Decidable c] {k k' : Store α → Option (β × Store α)}
    (hk : Framed x k) (hk' : Framed x k') : Framed x fun σ => if c then k σ else k' σ := by
  by_cases hc : c
  · simpa only [if_pos hc] using hk
  · simpa only [if_neg hc] using hk'

theorem framed_orElse {k k' : Store α → Option (β × Store α)} (hk : Framed x k) (hk' : Framed x k') :
    Framed x fun σ => (k σ).orElse fun _ => k' σ := by
  intro σ v
  beta_reduce
  rw [hk σ v]
  cases k σ with
  | none => exact hk' σ v
  | some r => rfl

theorem framed_all {ps : List Piece} (h : ∀ p ∈ ps, Framed x (evalPiece w p)) :
    Framed x (evalAll w ps) := by
  induction ps with
  | nil => exact framed_pure _
  | cons p ps ih =>
    have htail := ih fun q hq => h q (.tail _ hq)
    exact framed_bind (h p (.head _)) fun v => framed_bind htail fun vs => framed_pure _

theorem framed_seq {s : Seq} (h : ∀ p ∈ s.pieces, Framed x (evalPiece w p)) :
    Framed x (evalSeq w s) := by
  cases s with
  | items ps => exact framed_all h
  | spread p ps => exact framed_all fun q hq => h q (.tail _ hq)
  | single p => exact framed_none

/-- Forms that a rule of evaluation is for. -/
def isRuled : Form → Bool
  | .leaf .. | .array _ | .bracket .. | .dot .. | .assign (.text "=") _ _ | .binary (.text "<") _ _
  | .binary (.text "&&") _ _ | .unary (.text "++") _ (.atom (.flag true)) | .comma .. | .call .. => true
  | _ => false

theorem evalForm_of_not_isRuled {f : Form} (h : isRuled f = false) : evalForm w f = w.meaning f := by
  funext σ
  unfold evalForm
  split <;> first | cases h | rfl

theorem framed_leaf {k : Leaf} {v : Piece} (h : Form.leaf k v ≠ .leaf .ident (.text x)) :
    Framed x fun σ => (leafValue w k v σ).map (·, σ) := by
  intro σ u
  unfold leafValue
  split
  · next y =>
    have hy : y ≠ x := by
      rintro rfl
      exact h rfl
    beta_reduce
    rw [Function.update_of_ne hy]
    rfl
  · rfl
  · rfl
  · rfl

theorem framed_read {y : String} (hy : y ≠ x) {g : Value α → Store α → Option (β × Store α)}
    (hg : ∀ u, Framed x (g u)) : Framed x fun σ => g (σ y) σ := by
  intro σ v
  beta_reduce
  rw [Function.update_of_ne hy]
  exact hg (σ y) σ v

theorem framed_form (hw : w.Spares x) {f : Form} (hf : f ≠ .leaf .ident (.text x))
    (hfree : ∀ p ∈ f.pieces, Avoids x p) (h : ∀ p ∈ f.pieces, Framed x (evalPiece w p)) :
    Framed x (evalForm w f) := by
  have hworld := hw f hf hfree
  cases hruled : isRuled f with
  | false =>
    rw [evalForm_of_not_isRuled hruled]
    exact hworld
  | true =>
    change Framed x fun σ => evalForm w f σ
    unfold isRuled at hruled
    unfold evalForm
    split at hruled
    · exact framed_orElse (framed_leaf hf) hworld
    · exact framed_orElse (framed_bind (framed_seq h) fun _ => framed_pure _) hworld
    · refine framed_orElse (framed_bind (h _ (.head _)) fun a => ?_) hworld
      exact framed_bind (h _ (.tail _ (.head _))) fun n => framed_option fun b _ => framed_pure b
    · refine framed_orElse (framed_bind (h _ (.head _)) fun a => ?_) hworld
      exact framed_ite (framed_option fun b _ => framed_pure b) framed_none
    · next l r =>
      refine framed_orElse (framed_option fun y hy => ?_) hworld
      have hne := (hfree l (.tail _ (.head _))).identifier_ne hy
      exact framed_bind (h r (.tail _ (.tail _ (.head _)))) fun v => framed_write hne v v
    · refine framed_orElse (framed_bind (h _ (.tail _ (.head _))) fun a => ?_) hworld
      exact framed_bind (h _ (.tail _ (.tail _ (.head _)))) fun b => framed_option fun c _ => framed_pure c
    · refine framed_orElse (framed_bind (h _ (.tail _ (.head _))) fun a => ?_) hworld
      exact framed_ite (h _ (.tail _ (.tail _ (.head _)))) (framed_pure a)
    · next y =>
      refine framed_orElse (framed_option fun z hz => ?_) hworld
      have hne := (hfree y (.tail _ (.head _))).identifier_ne hz
      exact framed_read (g := fun u σ => u.next? >>= fun a => pure (u, Function.update σ z a)) hne
        fun u => framed_option fun a _ => framed_write hne u a
    · exact framed_orElse (framed_bind (h _ (.head _)) fun _ => h _ (.tail _ (.head _))) hworld
    · next c args =>
      refine framed_orElse (framed_option fun y hy => ?_) hworld
      have hne := (hfree c (.head _)).pushed_ne hy
      refine framed_bind (framed_seq fun p hp => h p (.tail _ hp)) fun vs => ?_
      rcases vs with _ | ⟨v, _ | ⟨_, _⟩⟩
      · exact framed_none
      · exact framed_read (g := fun u σ => u.push? v >>= fun a => a.size? >>= fun n =>
          pure (n, Function.update σ y a)) hne fun u => framed_option fun a _ =>
            framed_option fun n _ => framed_write hne n a
      · exact framed_none
    · cases hruled

theorem framed_piece (hw : w.Spares x) {p : Piece} (h : Avoids x p) : Framed x (evalPiece w p) := by
  unfold Avoids at h
  induction h with
  | node hf hps ih => exact framed_form hw hf hps ih
  | _ => exact framed_none

/-! Statements -/

def Work.Avoids (x : String) : Work → Prop
  | .one p => Running.Avoids x p
  | .all ps => ∀ p ∈ ps, Running.Avoids x p
  | .loop test step body =>
    Running.Avoids x test ∧ (∀ p ∈ step, Running.Avoids x p) ∧ Running.Avoids x body

theorem avoids_chosen {b : Bool} {yes no : Piece} (hyes : Avoids x yes) (hno : Avoids x no) :
    (Work.all (chosen b yes no)).Avoids x := by
  intro p hp
  unfold chosen at hp
  split_ifs at hp
  · rwa [List.mem_singleton.1 hp]
  · rwa [List.mem_singleton.1 (List.mem_filter.1 hp).1]

variable {σ σ1 : Store α} {out : Outcome α} {u : Value α}

theorem eval_update (hw : w.Spares x) {p : Piece} (hp : Avoids x p)
    (h : evalPiece w p σ = some (u, σ1)) (v : Value α) :
    evalPiece w p (Function.update σ x v) = some (u, Function.update σ1 x v) := by
  rw [framed_piece hw hp σ v, h]
  rfl

theorem evalStep_update (hw : w.Spares x) {step : Option Piece} (hp : ∀ p ∈ step, Avoids x p)
    (h : evalStep w step σ = some σ1) (v : Value α) :
    evalStep w step (Function.update σ x v) = some (Function.update σ1 x v) := by
  cases step with
  | none =>
    cases h
    rfl
  | some p =>
    obtain ⟨r, hr, rfl⟩ := Option.map_eq_some_iff.1 h
    rw [evalStep, eval_update hw (hp p rfl) hr v]
    rfl

/-- A run goes on as before when the value under a name that is not mentioned is another. -/
theorem Runs.update (hw : w.Spares x) {k : Work} (h : Runs w k σ out σ1) (hk : k.Avoids x)
    (v : Value α) : Runs w k (Function.update σ x v) out (Function.update σ1 x v) := by
  induction h with
  | nil => exact .nil
  | cons _ _ ih1 ih2 =>
    exact .cons (ih1 (hk _ (.head _))) (ih2 fun p hp => hk p (.tail _ hp))
  | stop _ early ih => exact .stop (ih (hk _ (.head _))) early
  | vars => exact .vars
  | breakTo => exact .breakTo
  | continueTo => exact .continueTo
  | expression value =>
    exact .expression (eval_update hw ((Avoids.node_iff.1 hk).2 _ (.head _)) value v)
  | returns value => exact .returns (eval_update hw ((Avoids.node_iff.1 hk).2 _ (.head _)) value v)
  | @call c args m _ _ _ value => exact .call (eval_update (p := .node (.call c args) m) hw hk value v)
  | block parts _ ih =>
    exact .block parts (ih (Seq.All.parts (Avoids.node_iff.1 hk).2 parts))
  | ifThen value _ ih =>
    obtain ⟨-, hparts⟩ := Avoids.node_iff.1 hk
    exact .ifThen (eval_update hw (hparts _ (.head _)) value v)
      (ih (avoids_chosen (hparts _ (.tail _ (.head _))) (hparts _ (.tail _ (.tail _ (.head _))))))
  | whileDo _ ih =>
    obtain ⟨-, hparts⟩ := Avoids.node_iff.1 hk
    exact .whileDo (ih ⟨hparts _ (.head _), nofun, hparts _ (.tail _ (.head _))⟩)
  | @forLoop start test step body _ _ _ _ _ _ value _ ih =>
    obtain ⟨-, hparts⟩ := Avoids.node_iff.1 hk
    simp only [Form.pieces, List.mem_cons, List.not_mem_nil, or_false, forall_eq_or_imp,
      forall_eq] at hparts
    obtain ⟨hstart, htest, hstep, hbody⟩ := hparts
    refine .forLoop (eval_update hw hstart value v) (ih ⟨htest, ?_, hbody⟩)
    rintro p ⟨⟩
    exact hstep
  | ended value fails => exact .ended (eval_update hw hk.1 value v) fails
  | turn value holds _ goesOn stepped _ ih1 ih2 =>
    exact .turn (eval_update hw hk.1 value v) holds (ih1 hk.2.2) goesOn
      (evalStep_update hw hk.2.1 stepped v) (ih2 hk)
  | exit value holds _ leaves ih => exact .exit (eval_update hw hk.1 value v) holds (ih hk.2.2) leaves

end

end Transpile.Running
