import Transpile.Proofs.Scope
import Transpile.Walk.Visit

/-! Runs of a walk: what a run of each step gives, and the relations between the state before and
the state after that successful runs keep. -/

namespace Transpile.Walk

open Script Source

variable {α β : Type} {o : Options} {s s' : State}

@[simp] theorem run_pure (a : α) : run (pure a) o s = (.ok a, s) := rfl

@[simp] theorem run_throw (c : Cause) : run (throw c : Walker α) o s = (.error c, s) := rfl

@[simp] theorem run_get : run get o s = (.ok s, s) := rfl

@[simp] theorem run_read : run read o s = (.ok o, s) := rfl

@[simp] theorem run_modify (f : State → State) : run (modify f) o s = (.ok (), f s) := rfl

theorem run_bind (w : Walker α) (f : α → Walker β) :
    run (w >>= f) o s = match run w o s with
      | (.ok a, s') => run (f a) o s'
      | (.error c, s') => (.error c, s') := by
  have h : run (w >>= f) o s = ExceptT.bindCont (fun a => f a o) (run w o s).1 (run w o s).2 := rfl
  rw [h]
  rcases run w o s with ⟨_ | _, _⟩ <;> rfl

theorem run_bind_of_ok {w : Walker α} {a : α} (h : run w o s = (.ok a, s')) (f : α → Walker β) :
    run (w >>= f) o s = run (f a) o s' := by
  rw [run_bind, h]

theorem run_bind_ok {w : Walker α} {f : α → Walker β} {b : β} {s'' : State}
    (h : run (w >>= f) o s = (.ok b, s'')) :
    ∃ a s', run w o s = (.ok a, s') ∧ run (f a) o s' = (.ok b, s'') := by
  rw [run_bind] at h
  split at h
  · next a s' hw => exact ⟨a, s', hw, h⟩
  · cases h

@[simp] theorem run_need_ok (a : α) : run (need (.ok a)) o s = (.ok a, s) := rfl

theorem run_need {e : Except Cause α} {a : α} (h : run (need e) o s = (.ok a, s')) :
    e = .ok a ∧ s' = s := by
  cases e with
  | ok b => simp only [run_need_ok, Prod.mk.injEq] at h; exact ⟨h.1, h.2.symm⟩
  | error c => cases h

/-- Every successful run of the walk takes a state to one that `R` relates it to. -/
def Keeps (R : State → State → Prop) (w : Walker α) : Prop :=
  ∀ o s a s', run w o s = (.ok a, s') → R s s'

/-- The same under given options. -/
def KeepsAt (o : Options) (R : State → State → Prop) (w : Walker α) : Prop :=
  ∀ s a s', run w o s = (.ok a, s') → R s s'

/-- What a rule changes by itself: the innermost map and what is noted beside the walk; at the top
also the special forms. -/
structure Edit (top : Bool) (s s' : State) : Prop where
  levels : s'.levels = s.levels
  operators : s'.operators = s.operators
  depth : s'.depth = s.depth
  outer : s'.scope.outer = s.scope.outer
  special : top = false → s'.scope.special = s.scope.special

/-- Relations that follow a walk step by step and allow for edits. -/
structure Frame (R : State → State → Prop) : Prop where
  trans : ∀ {a b c}, R a b → R b c → R a c
  edit : ∀ {a b}, Edit false a b → R a b

theorem Edit.refl (top : Bool) (s : State) : Edit top s s := ⟨rfl, rfl, rfl, rfl, fun _ => rfl⟩

theorem Edit.trans {top : Bool} {a b c : State} (h1 : Edit top a b) (h2 : Edit top b c) :
    Edit top a c :=
  ⟨h2.levels.trans h1.levels, h2.operators.trans h1.operators, h2.depth.trans h1.depth,
    h2.outer.trans h1.outer, fun h => (h2.special h).trans (h1.special h)⟩

theorem Frame.ofEdit (top : Bool) : Frame (Edit top) :=
  ⟨Edit.trans, fun h => ⟨h.levels, h.operators, h.depth, h.outer, fun _ => h.special rfl⟩⟩

/-- Only what is noted beside the walk has changed. -/
structure Noted (s s' : State) : Prop where
  levels : s'.levels = s.levels
  operators : s'.operators = s.operators
  depth : s'.depth = s.depth
  scope : s'.scope = s.scope

theorem Noted.refl (s : State) : Noted s s := ⟨rfl, rfl, rfl, rfl⟩

theorem Noted.edit {s s' : State} (h : Noted s s') : Edit false s s' :=
  ⟨h.levels, h.operators, h.depth, by rw [h.scope], fun _ => by rw [h.scope]⟩

/-- The key under which a piece is bound is the name that it carries, unless names of the source are
put in camel case. -/
def Fits (o : Options) (key : Option String) (p : Piece) : Prop :=
  o.camelCase = false → nameOf? p = key

theorem run_atSite {p q : Piece} (h : run (atSite p) o s = (.ok q, s')) :
    q.value = p.value ∧ s'.scope = s.scope := by
  unfold atSite at h
  split at h
  · obtain ⟨_, _, hget, h⟩ := run_bind_ok h
    obtain ⟨_, _, hmodify, h⟩ := run_bind_ok h
    cases hget
    cases hmodify
    cases h
    exact ⟨rfl, rfl⟩
  · cases h
    exact ⟨rfl, rfl⟩

theorem run_sourceName (ho : o.camelCase = false) (p : Piece) :
    run (sourceName p) o s = (.ok (identifier p), s) := by
  unfold sourceName
  rw [run_bind_of_ok run_read]
  simp only [ho, Bool.false_eq_true, if_false, run_pure]

theorem fits_sourceName {p q : Piece} (h : run (sourceName p) o s = (.ok q, s')) :
    Fits o (keyOf p) q := by
  intro ho
  rw [run_sourceName ho] at h
  cases h
  rfl

/-- A change of the scope stays when it succeeds. -/
theorem run_changeScope {f : Scope → Except Cause Unit × Scope} {a : Unit}
    (h : run (changeScope f) o s = (.ok a, s')) :
    (f s.scope).1 = .ok () ∧ s' = { s with scope := (f s.scope).2 } := by
  obtain ⟨s1, s2, h1, h2⟩ := run_bind_ok h
  obtain ⟨_, s3, h3, h4⟩ := run_bind_ok h2
  cases h1
  cases h3
  exact run_need h4

/-- A name that was bound is visible, whether it was before or not. -/
theorem hasKey_bindAs {key p q : Piece} (h : run (bindAs key p) o s = (.ok q, s')) :
    s'.scope.hasKey (keyOf key) = true := by
  obtain ⟨seen, s1, h1, h⟩ := run_bind_ok h
  obtain ⟨_, _, hget, h1⟩ := run_bind_ok h1
  cases hget
  cases h1
  split_ifs at h with hseen
  · cases h
    exact hseen
  · obtain ⟨r, s2, -, h⟩ := run_bind_ok h
    obtain ⟨_, s3, h3, h⟩ := run_bind_ok h
    cases h
    obtain ⟨-, rfl⟩ := run_changeScope h3
    exact hasKey_maps.2 (.inl (hasKey_put (.inr rfl)))

/-- Relations that follow a walk step by step and allow for notes and for names that are bound: all
that a rule does that neither leaves a scope nor removes a name. -/
structure Steps (o : Options) (R : State → State → Prop) : Prop where
  trans : ∀ {a b c}, R a b → R b c → R a c
  note : ∀ {a b}, Noted a b → R a b
  set : ∀ {s : State} {key : Option String} {p : Piece}, Fits o key p →
    (s.scope.set key p).1 = .ok () → R s { s with scope := (s.scope.set key p).2 }

theorem Frame.steps {R : State → State → Prop} (h : Frame R) (o : Options) : Steps o R :=
  ⟨h.trans, fun hn => h.edit hn.edit, fun _ _ => h.edit ⟨rfl, rfl, rfl, rfl, fun _ => rfl⟩⟩

section Steps

variable {R : State → State → Prop}

theorem keeps_throw (c : Cause) : KeepsAt o R (throw c : Walker α) := by
  intro s a s' h
  cases h

theorem keeps_ite {c : Prop} [Decidable c] {w w' : Walker α} (h : KeepsAt o R w)
    (h' : KeepsAt o R w') : KeepsAt o R (if c then w else w') := by
  split_ifs
  · exact h
  · exact h'

/-- A check that fails or does nothing, before what is done in any case. -/
theorem keeps_guard {c : Prop} [Decidable c] {e : Cause} {f : Unit → Walker β}
    (hf : KeepsAt o R (f ())) : KeepsAt o R (if c then throw e >>= f else f ()) :=
  keeps_ite (fun s a s' h => by cases h) hf

theorem keeps_changeScope {f : Scope → Except Cause Unit × Scope}
    (hf : ∀ s : State, (f s.scope).1 = .ok () → R s { s with scope := (f s.scope).2 }) :
    KeepsAt o R (changeScope f) := by
  intro s a s' h
  obtain ⟨hok, rfl⟩ := run_changeScope h
  exact hf s hok

variable (hR : Steps o R)
include hR

theorem keeps_pure (a : α) : KeepsAt o R (pure a : Walker α) := by
  intro s b s' h
  cases h
  exact hR.note (Noted.refl _)

theorem keeps_bind {w : Walker α} {f : α → Walker β} (hw : KeepsAt o R w) (hf : ∀ a, KeepsAt o R (f a)) :
    KeepsAt o R (w >>= f) := by
  intro s b s'' h
  obtain ⟨a, s', h1, h2⟩ := run_bind_ok h
  exact hR.trans (hw s a s' h1) (hf a s' b s'' h2)

theorem keeps_read : KeepsAt o R read := by
  intro s a s' h
  cases h
  exact hR.note (Noted.refl _)

theorem keeps_get : KeepsAt o R get := by
  intro s a s' h
  cases h
  exact hR.note (Noted.refl _)

theorem keeps_need (e : Except Cause α) : KeepsAt o R (need e) := by
  intro s a s' h
  obtain ⟨-, rfl⟩ := run_need h
  exact hR.note (Noted.refl _)

theorem keeps_modify {f : State → State} (hf : ∀ s, Noted s (f s)) : KeepsAt o R (modify f) := by
  intro s a s' h
  cases h
  exact hR.note (hf s)

theorem keeps_mapM {f : α → Walker β} (hf : ∀ a, KeepsAt o R (f a)) (as : List α) :
    KeepsAt o R (as.mapM f) := by
  induction as with
  | nil => exact keeps_pure hR _
  | cons a as ih =>
    rw [List.mapM_cons]
    exact keeps_bind hR (hf a) fun b => keeps_bind hR ih fun bs => keeps_pure hR _

theorem keeps_forM {f : α → Walker PUnit} (as : List α) (hf : ∀ a ∈ as, KeepsAt o R (f a)) :
    KeepsAt o R (as.forM f) := by
  induction as with
  | nil => exact keeps_pure hR _
  | cons a as ih =>
    exact keeps_bind hR (hf a (by simp)) fun _ => ih fun b hb => hf b (by simp [hb])

theorem keeps_child (cs : List Piece) (i : Nat) : KeepsAt o R (child cs i) := by
  unfold child
  split
  · exact keeps_pure hR _
  · exact keeps_throw _

theorem keeps_given (t : Tree) : KeepsAt o R (given t) := by
  unfold given
  split
  · exact keeps_throw _
  · exact keeps_pure hR _

theorem keeps_sizeOfField (t : Tree) : KeepsAt o R (sizeOfField t) := by
  refine keeps_bind hR (keeps_given hR t) fun t => ?_
  split
  · exact keeps_pure hR _
  · exact keeps_pure hR _
  · exact keeps_throw _

theorem keeps_operatorOf (t : Tree) : KeepsAt o R (operatorOf t) := by
  refine keeps_bind hR (keeps_given hR t) fun t => ?_
  split <;> exact keeps_pure hR _

theorem keeps_atomField (t : Tree) : KeepsAt o R (atomField t) := by
  unfold atomField
  split
  · exact keeps_throw _
  all_goals exact keeps_pure hR _

theorem keeps_say (line : String) : KeepsAt o R (say line) := by
  refine keeps_bind hR (keeps_read hR) fun o => keeps_ite ?_ (keeps_pure hR _)
  exact keeps_modify hR fun s => ⟨rfl, rfl, rfl, rfl⟩

/-! Names -/

theorem keeps_sourceName (p : Piece) : KeepsAt o R (sourceName p) := by
  refine keeps_bind hR (keeps_read hR) fun o => keeps_ite ?_ (keeps_pure hR _)
  split
  · exact keeps_pure hR _
  · exact keeps_throw _

theorem keeps_atSite (p : Piece) : KeepsAt o R (atSite p) := by
  unfold atSite
  split
  · refine keeps_bind hR (keeps_get hR) fun s => keeps_bind hR ?_ fun _ => keeps_pure hR _
    exact keeps_modify hR fun s => ⟨rfl, rfl, rfl, rfl⟩
  · exact keeps_pure hR _

theorem keeps_set {key : Option String} {p : Piece} (h : Fits o key p) :
    KeepsAt o R (changeScope (·.set key p)) :=
  keeps_changeScope fun _ => hR.set h

theorem keeps_inScope (key : Option String) : KeepsAt o R (inScope key) :=
  keeps_bind hR (keeps_get hR) fun _ => keeps_pure hR _

/-- What is bound is the piece at a place of its own. -/
theorem keeps_bindAs {key p : Piece} (hset : ∀ q : Piece, q.value = p.value →
    KeepsAt o R (changeScope (·.set (keyOf key) q))) : KeepsAt o R (bindAs key p) := by
  refine keeps_bind hR (keeps_inScope hR _) fun _ => keeps_ite (keeps_pure hR _) ?_
  intro s a s' h
  obtain ⟨q, s1, h1, h2⟩ := run_bind_ok h
  refine hR.trans (keeps_atSite hR p s q s1 h1) ?_
  exact keeps_bind hR (hset q (run_atSite h1).1) (fun _ => keeps_pure hR q) s1 a s' h2

theorem keeps_bindByValue (p : Piece) : KeepsAt o R (Walk.bind p) := by
  intro s a s' h
  obtain ⟨v, s1, h1, h2⟩ := run_bind_ok h
  obtain ⟨hv, rfl⟩ := run_need h1
  exact keeps_bindAs hR (fun q hq => keeps_set hR fun _ => nameOf?_of_value (hq.trans hv)) s1 a s' h2

theorem keeps_fresh (stem : String) : KeepsAt o R (fresh stem) := by
  refine keeps_bind hR (keeps_get hR) fun s0 => ?_
  intro s a s' h
  obtain ⟨p, s1, h1, h2⟩ := run_bind_ok h
  obtain ⟨q, s2, h3, h4⟩ := run_bind_ok h2
  have hfits : Fits o (some (s0.scope.fresh stem)) q := by
    unfold Fits
    rw [nameOf?_congr (run_atSite h3).1]
    exact fits_sourceName h1
  refine hR.trans (keeps_sourceName hR _ s p s1 h1) (hR.trans (keeps_atSite hR p s1 q s2 h3) ?_)
  exact keeps_bind hR (keeps_set hR hfits) (fun _ => keeps_pure hR q) s2 a s' h4

theorem keeps_declare (p : Piece) : KeepsAt o R (declare p) := by
  unfold declare
  split
  · refine keeps_bind hR (keeps_modify hR fun s => ?_) fun _ => keeps_need hR _
    exact ⟨rfl, rfl, rfl, rfl⟩
  · exact keeps_need hR _

theorem keeps_declaration (p v : Piece) : KeepsAt o R (declaration p v) :=
  keeps_bind hR (keeps_declare hR p) fun _ => keeps_pure hR _

theorem keeps_scopeVars (root : Bool) : KeepsAt o R (scopeVars root) := by
  refine keeps_bind hR (keeps_get hR) fun s => keeps_bind hR (keeps_need hR _) fun ps => ?_
  split
  · exact keeps_pure hR _
  · refine keeps_bind hR (keeps_mapM hR (fun p => ?_) _) fun _ => keeps_pure hR _
    exact keeps_declaration hR p _

theorem keeps_functionOf (params body : Seq) : KeepsAt o R (functionOf params body) :=
  keeps_bind hR (keeps_need hR _) fun _ => keeps_pure hR _

end Steps

end Transpile.Walk
