import Transpile.Proofs.Kept

/-! The discipline of the stacks. Walking a node from a ready state is the same as walking it
plainly: a level can always be left and an operator always be closed, and a rule is handed the
results of the fields themselves. A successful walk keeps all but the innermost map, and the special
forms are kept where no program is walked. -/

namespace Transpile.Walk

open Script Source

/-- The walk over a node in which `fail` stands where a level cannot be left or an operator cannot be
closed, and the rule is given the results of the fields, joined in the order of the fields. -/
def plainNode (fail : Walker Unit) (k : Kind) (ws : List Branch) : Walker Piece := do
  enterNode k ws
  let cs ← gather resultsOf ws
  leaveFields (popOperatorOr fail) k
  let _ ← children
  let p ← rule k ws cs
  closeNode (closeLevelOr fail) k p

section

variable (fail : Walker Unit)

mutual

def plainWalk : Tree → Branch
  | .node k fs =>
    let ws := plainWalkAll fs
    .mk (.node k fs) (plainNode fail k ws) ws
  | .list ts => .mk (.list ts) (visitOther (.list ts)) (plainWalkAll ts)
  | .atom a => .mk (.atom a) (visitOther (.atom a)) []
  | .missing => .mk .missing (throw .missingAttribute) []

def plainWalkAll : List Tree → List Branch
  | [] => []
  | t :: ts => plainWalk t :: plainWalkAll ts

end

/-- The result of walking a tree plainly. -/
def plainVisit (t : Tree) : Walker Piece := (plainWalk fail t).again

end

/-! One node -/

/-- The two walks over one node run alike, and a successful one adds its result. -/
theorem run_visitNode {k : Kind} {ws : List Branch} (hw : ∀ w ∈ ws, w.All (Adds spliced))
    {o : Options} {s : State} (hs : Ready s) (fail : Walker Unit) :
    run (visitNode k ws) o s = run (plainNode fail k ws) o s ∧
      ∀ p s', run (plainNode fail k ws) o s = (.ok p, s') → Kept s s' (spliced p) := by
  rw [visitNode_eq, forM_eq_gather visitField_eq, discard_eq]
  unfold plainNode
  obtain ⟨s1, he, hr⟩ := run_enterNode k ws o s
  split_ifs at hr
  · rw [run_bind_of_ok hr, run_bind_of_ok hr, bind_assoc]
    rcases hg : run (gather resultsOf ws) o s1 with ⟨c | cs, s2⟩
    · rw [run_bind, hg, run_bind, hg]
      exact ⟨rfl, fun p s' h => by cases h⟩
    have h2 : Kept s1 s2 cs := adds_gather (fun w hm => adds_resultsOf (hw w hm)) o s1 cs s2
      (he.ready hs) hg
    have hpop := run_leaveFields he h2 (.inl rfl) o
    have hdrop := run_leaveFields he h2 (.inr ⟨fail, rfl⟩) o
    have hat := atRule_of_entered hs he h2
    have hcs : (s.fieldsLeft s2).levels.current = cs := by
      rw [← hat.current, State.touched, Levels.current_touch]
    have hch : run children o (s.fieldsLeft s2) = (.ok cs, (s.fieldsLeft s2).touched) := by
      rw [run_children, hcs]
      rfl
    rw [run_bind_of_ok hg, run_bind_of_ok hg, pure_bind, run_bind_of_ok hpop, run_bind_of_ok hdrop,
      run_bind_of_ok hch, run_bind_of_ok hch]
    rcases hp : run (rule k ws cs) o (s.fieldsLeft s2).touched with ⟨c | p, s5⟩
    · rw [run_bind, hp, run_bind, hp]
      exact ⟨rfl, fun p s' h => by cases h⟩
    obtain ⟨ps, h5⟩ := kept_rule hw (hat.ready hs) hp
    have hl : 0 < s5.levels.level := by
      have h0 := hs.level
      have h1 : s5.levels.level = s.levels.level + 1 := by
        rw [h5.level, ← hat.level]
        split_ifs <;> rfl
      omega
    obtain ⟨tr, hclose⟩ := run_closeNode hl k p o
    rw [run_bind_of_ok hp, run_bind_of_ok hp, hclose _ (.inl rfl), hclose _ (.inr ⟨fail, rfl⟩)]
    refine ⟨rfl, fun p' s' h => ?_⟩
    cases h
    exact hat.kept h5 p tr
  · rw [run_bind, hr, run_bind, hr]
    exact ⟨rfl, fun p s' h => by cases h⟩

/-! The whole tree -/

theorem tree_induction {P : Tree → Prop} (missing : P .missing) (atom : ∀ a, P (.atom a))
    (list : ∀ ts, (∀ t ∈ ts, P t) → P (.list ts))
    (node : ∀ k fs, (∀ t ∈ fs, P t) → P (.node k fs)) (t : Tree) : P t :=
  @Tree.rec P (fun ts => ∀ t ∈ ts, P t) missing atom list node (by simp)
    (fun t ts ht hts => by simpa using ⟨ht, hts⟩) t

theorem walkAll_eq (ts : List Tree) : walkAll ts = ts.map walk := by
  induction ts with
  | nil => rfl
  | cons t ts ih => rw [walkAll, ih]; rfl

theorem forall_walkAll {ts : List Tree} {P : Branch → Prop} (h : ∀ t ∈ ts, P (walk t)) :
    ∀ w ∈ walkAll ts, P w := by
  rw [walkAll_eq]
  intro w hw
  obtain ⟨t, ht, rfl⟩ := List.mem_map.1 hw
  exact h t ht

/-- The walk over something that is no node never succeeds. -/
theorem visitOther_fails (t : Tree) (o : Options) (s s' : State) (p : Piece) :
    run (visitOther t) o s ≠ (.ok p, s') := by
  intro h
  obtain ⟨_, s1, -, h1⟩ := run_bind_ok h
  obtain ⟨_, s2, -, h2⟩ := run_bind_ok h1
  obtain ⟨_, s3, -, h3⟩ := run_bind_ok h2
  cases h3

theorem walk_adds (t : Tree) : (walk t).All (Adds spliced) := by
  induction t using tree_induction with
  | missing => exact .mk (fun o s p s' _ h => by cases h) (by simp)
  | atom a => exact .mk (fun o s p s' _ h => absurd h (visitOther_fails _ o s s' p)) (by simp)
  | list ts ih =>
    exact .mk (fun o s p s' _ h => absurd h (visitOther_fails _ o s s' p)) (forall_walkAll ih)
  | node k fs ih =>
    refine .mk (fun o s p s' hs h => ?_) (forall_walkAll ih)
    obtain ⟨heq, hk⟩ := run_visitNode (k := k) (o := o) (forall_walkAll ih) hs (pure ())
    exact hk p s' (heq ▸ h)

/-! Plain and other walks agree -/

def StaysReady (s s' : State) : Prop := Ready s → Ready s'

theorem Frame.ofStaysReady : Frame StaysReady where
  trans h1 h2 hs := h2 (h1 hs)
  edit h hs := (Kept.of_edit hs h).ready hs

theorem Adds.staysReady {α : Type} {f : α → List Piece} {w : Walker α} (h : Adds f w) :
    Keeps StaysReady w :=
  fun o s a s' hw hs => (h o s a s' hs hw).ready hs

theorem Branch.All.staysReady {w : Branch} (h : w.All (Adds spliced)) : w.All (Keeps StaysReady) :=
  h.mono fun _ hw => hw.staysReady

/-- Two walks run alike from every ready state. -/
def Same {α : Type} (w w' : Walker α) : Prop := ∀ o s, Ready s → run w o s = run w' o s

theorem Same.refl {α : Type} (w : Walker α) : Same w w := fun _ _ _ => rfl

theorem Same.bind {α β : Type} {w w' : Walker α} {f f' : α → Walker β} (hw : Same w w')
    (hk : Keeps StaysReady w) (hf : ∀ a, Same (f a) (f' a)) : Same (w >>= f) (w' >>= f') := by
  intro o s hs
  rw [run_bind, run_bind, ← hw o s hs]
  rcases h : run w o s with ⟨c | a, s'⟩
  · rfl
  · exact hf a o s' (hk o s a s' h hs)

/-- Branches of one tree whose walks run alike, and so on below. -/
inductive Branch.Agree : Branch → Branch → Prop where
  | mk {t : Tree} {w w' : Walker Piece} {ps ps' : List Branch} (again : Same w w')
      (parts : List.Forall₂ Agree ps ps') : Agree (.mk t w ps) (.mk t w' ps')

theorem Branch.Agree.tree {w w' : Branch} (h : w.Agree w') : w.tree = w'.tree := by
  cases h with
  | mk again parts => rfl

theorem Branch.Agree.again {w w' : Branch} (h : w.Agree w') : Same w.again w'.again := by
  cases h with
  | mk again parts => exact again

theorem Branch.Agree.parts {w w' : Branch} (h : w.Agree w') :
    List.Forall₂ Branch.Agree w.parts w'.parts := by
  cases h with
  | mk again parts => exact parts

theorem Same.ite {α : Type} {c : Prop} [Decidable c] {v v' w w' : Walker α} (hv : Same v v')
    (hw : Same w w') : Same (if c then v else w) (if c then v' else w') := by
  split_ifs
  · exact hv
  · exact hw

/-- Both walks fail after the same steps, or go on alike. -/
theorem Same.guard {α : Type} {c : Prop} [Decidable c] {e : Cause} {f f' : Unit → Walker α}
    (h : Same (f ()) (f' ())) :
    Same (if c then throw e >>= f else f ()) (if c then throw e >>= f' else f' ()) :=
  Same.ite (fun _ _ _ => rfl) h

theorem same_conditions {ws ws' : List Branch} (h : List.Forall₂ Branch.Agree ws ws')
    (hw : ∀ w ∈ ws, w.All (Keeps StaysReady)) (acc : Piece) :
    Same (conditions ws acc) (conditions ws' acc) := by
  induction h generalizing acc with
  | nil => exact Same.refl _
  | cons hab _ ih =>
    exact Same.bind hab.again (hw _ (by simp)).again fun c => ih (fun v hv => hw v (by simp [hv])) _

section Agree

variable (hF : Frame StaysReady)
include hF

theorem same_subscriptRule {w w' : Branch} (h : w.Agree w') (hw : w.All (Keeps StaysReady))
    (cs : List Piece) : Same (subscriptRule w cs) (subscriptRule w' cs) := by
  unfold subscriptRule
  refine Same.bind (Same.refl _) (fun o => keeps_child (hF.steps o) cs 0) fun target => ?_
  rw [← h.tree]
  refine Same.bind (Same.refl _) (fun o => keeps_given (hF.steps o) w.tree) fun t => ?_
  have hparts := h.parts
  have hall := hw.parts
  generalize w.parts = ps, w'.parts = ps' at hparts hall ⊢
  split
  · next lower upper step =>
    have hlower : lower.All (Keeps StaysReady) := hall _ (by simp)
    have hupper : upper.All (Keeps StaysReady) := hall _ (by simp)
    rcases hparts with _ | ⟨hl, _ | ⟨hu, _ | ⟨hst, _ | _⟩⟩⟩
    dsimp only
    rw [← hl.tree, ← hu.tree, ← hst.tree]
    have rest (low : Piece) (high : List Piece) :
        Same (pure (callOf (dot target "slice") (low :: high))) _ := Same.refl _
    have rest (low : Piece) := Same.ite (c := upper.tree.isTruthy)
      (Same.bind hu.again hupper.again fun p => rest low [p]) (rest low [])
    exact Same.guard (Same.ite (Same.bind hl.again hlower.again rest) (rest _))
  · next hne =>
    split
    · rcases hparts with _ | ⟨hl, _ | ⟨hu, _ | ⟨hst, _ | _⟩⟩⟩
      exact (hne _ _ _ _ rfl rfl).elim
    · exact Same.refl _

theorem same_comprehensionRule {w w' : Branch} (h : w.Agree w') (hw : w.All (Keeps StaysReady)) :
    Same (comprehensionRule w) (comprehensionRule w') := by
  unfold comprehensionRule
  rw [← h.tree]
  refine Same.bind (Same.refl _) (fun o => keeps_sizeOfField (hF.steps o) w.tree) fun n => Same.guard ?_
  have hparts := h.parts
  have hall := hw.parts
  generalize w.parts = ps, w'.parts = ps' at hparts hall ⊢
  split
  · next target source ifs _ =>
    have hc := (hall _ (List.mem_singleton_self _)).parts
    have hsource : source.All (Keeps StaysReady) := hc _ (by simp [Branch.parts])
    have hifs : ifs.All (Keeps StaysReady) := hc _ (by simp [Branch.parts])
    rcases hparts with _ | ⟨⟨_, hfields⟩, _ | _⟩
    rcases hfields with _ | ⟨ht, _ | ⟨hs, _ | ⟨hi, _ | ⟨_, _ | _⟩⟩⟩⟩
    dsimp only
    rw [← hs.tree, ← ht.tree, ← hi.tree]
    refine Same.bind (Same.refl _) (fun o => keeps_given (hF.steps o) _) fun _ => ?_
    refine Same.bind (Same.refl _) (fun o => keeps_given (hF.steps o) _) fun _ => ?_
    refine Same.bind (Same.refl _) (fun o => keeps_given (hF.steps o) _) fun _ => ?_
    refine Same.bind (Same.refl _) (fun o => keeps_fresh (hF.steps o) _) fun i => ?_
    refine Same.bind (Same.refl _) (fun o => keeps_fresh (hF.steps o) _) fun n => ?_
    refine Same.bind (Same.refl _) (fun o => keeps_fresh (hF.steps o) _) fun values => ?_
    refine Same.bind (Same.refl _) (fun o => keeps_fresh (hF.steps o) _) fun results => ?_
    refine Same.bind (Same.refl _) (fun o => keeps_mapM (hF.steps o)
      (fun p => keeps_declaration (hF.steps o) p _) _) fun vars => ?_
    refine Same.bind hs.again hsource.again fun p => Same.ite ?_ (Same.refl _)
    exact Same.bind (same_conditions hi.parts hifs.parts _) (fun o =>
      keeps_conditions (hF.steps o) (hifs.at o).parts _) fun test => Same.refl _
  · next hne =>
    split
    · rcases hparts with _ | ⟨⟨_, hfields⟩, _ | _⟩
      rcases hfields with _ | ⟨ht, _ | ⟨hs, _ | ⟨hi, _ | ⟨_, _ | _⟩⟩⟩⟩
      exact (hne _ _ _ _ _ _ rfl).elim
    · exact Same.refl _

end Agree

theorem map_tree_eq {ws ws' : List Branch} (h : List.Forall₂ Branch.Agree ws ws') :
    ws.map Branch.tree = ws'.map Branch.tree := by
  induction h with
  | nil => rfl
  | cons hab _ ih => simp [hab.tree, ih]

theorem same_rule {ws ws' : List Branch} (h : List.Forall₂ Branch.Agree ws ws')
    (hw : ∀ w ∈ ws, w.All (Keeps StaysReady)) (k : Kind) (cs : List Piece) :
    Same (rule k ws cs) (rule k ws' cs) := by
  unfold rule
  split
  · rcases h with _ | ⟨_, _ | ⟨h, _ | ⟨_, _ | _⟩⟩⟩
    exact same_subscriptRule Frame.ofStaysReady h (hw _ (by simp)) cs
  · rcases h with _ | ⟨_, _ | ⟨h, _ | _⟩⟩
    exact same_comprehensionRule Frame.ofStaysReady h (hw _ (by simp))
  · next hsub hcomp =>
    split
    · rcases h with _ | ⟨_, _ | ⟨_, _ | ⟨_, _ | _⟩⟩⟩
      exact (hsub _ _ _ rfl rfl).elim
    · rcases h with _ | ⟨_, _ | ⟨_, _ | _⟩⟩
      exact (hcomp _ _ rfl rfl).elim
    · rw [map_tree_eq h]
      exact Same.refl _

theorem same_gather {f : Branch → Walker (List Piece)}
    (hf : ∀ w w', w.Agree w' → w.All (Adds spliced) →
      Same (f w) (f w') ∧ Keeps StaysReady (f w)) {ws ws' : List Branch}
    (h : List.Forall₂ Branch.Agree ws ws') (hw : ∀ w ∈ ws, w.All (Adds spliced)) :
    Same (gather f ws) (gather f ws') := by
  induction h with
  | nil => exact Same.refl _
  | cons hab _ ih =>
    obtain ⟨hs, hk⟩ := hf _ _ hab (hw _ (by simp))
    refine Same.bind hs hk fun ps o s hs => ?_
    rw [run_bind, run_bind, ih (fun v hv => hw v (by simp [hv])) o s hs]

theorem same_resultOf {w w' : Branch} (h : w.Agree w') (hw : w.All (Adds spliced)) :
    Same (resultOf w) (resultOf w') :=
  Same.bind h.again hw.again.staysReady fun _ => Same.refl _

theorem same_resultsOf {w w' : Branch} (h : w.Agree w') (hw : w.All (Adds spliced)) :
    Same (resultsOf w) (resultsOf w') := by
  unfold resultsOf
  rw [← h.tree]
  split
  · exact same_resultOf h hw
  · refine same_gather (fun v v' hv ha => ?_) h.parts hw.parts
    rw [← hv.tree]
    split_ifs
    · exact ⟨same_resultOf hv ha, (adds_resultOf ha.again).staysReady⟩
    · exact ⟨Same.refl _, adds_nil.staysReady⟩
  · exact Same.refl _

theorem enterNode_eq {ws ws' : List Branch} (h : List.Forall₂ Branch.Agree ws ws') (k : Kind) :
    enterNode k ws = enterNode k ws' := by
  have hr : isReadable k ws = isReadable k ws' := by
    cases h with
    | nil => rfl
    | cons hab _ => cases k <;> first | rfl | simp only [isReadable, hab.tree]
  unfold enterNode
  rw [hr]

theorem staysReady_rule {k : Kind} {ws : List Branch} (hw : ∀ w ∈ ws, w.All (Adds spliced))
    (cs : List Piece) : Keeps StaysReady (rule k ws cs) := by
  intro o s p s' h hs
  obtain ⟨ps, hk⟩ := kept_rule hw hs h
  refine hk.ready ?_
  split_ifs
  · exact ⟨hs.level, hs.above⟩
  · exact hs

theorem run_popOperatorOr_pure (o : Options) (s : State) :
    run (popOperatorOr (pure ())) o s = (.ok (), { s with operators := s.operators.pop.2 }) := by
  simp only [popOperatorOr, run_bind, run_get, run_modify]
  cases s.operators.pop.1 <;> rfl

/-- The plain walk over a node runs alike over branches that agree. -/
theorem same_plainNode {ws ws' : List Branch} (h : List.Forall₂ Branch.Agree ws ws')
    (hw : ∀ w ∈ ws, w.All (Adds spliced)) (k : Kind) :
    Same (plainNode (pure ()) k ws) (plainNode (pure ()) k ws') := by
  unfold plainNode
  rw [← enterNode_eq h]
  refine Same.bind (Same.refl _) ?_ fun _ => ?_
  · intro o s _ s' hr hs
    obtain ⟨s1, he, hrun⟩ := run_enterNode k ws o s
    rw [hr] at hrun
    split_ifs at hrun
    · cases hrun
      exact he.ready hs
    · cases hrun
  refine Same.bind (same_gather (fun v v' hv ha =>
    ⟨same_resultsOf hv ha, (adds_resultsOf ha).staysReady⟩) h hw) ?_ fun cs => ?_
  · exact (adds_gather fun w hm => adds_resultsOf (hw w hm)).staysReady
  refine Same.bind (Same.refl _) ?_ fun _ => Same.bind (Same.refl _) ?_ fun _ => ?_
  · intro o s _ s' hr hs
    unfold leaveFields at hr
    split_ifs at hr
    · rw [run_bind_of_ok (run_popOperatorOr_pure o s)] at hr
      cases hr
      exact ⟨hs.level, hs.above⟩
    · cases hr
      exact ⟨hs.level, hs.above⟩
  · intro o s _ s' hr hs
    rw [run_children] at hr
    cases hr
    refine ⟨hs.level, fun n hn => ?_⟩
    change s.levels.touch.at? n = none
    rw [Levels.at?_touch_of_ne _ (by change s.levels.level < n at hn; omega)]
    exact hs.above n hn
  exact Same.bind (same_rule h (fun w hm => (hw w hm).staysReady) k cs) (staysReady_rule hw cs)
    fun p => Same.refl _

theorem Branch.Agree.adds {w w' : Branch} (h : w.Agree w') (hw : w.All (Adds spliced)) :
    w'.All (Adds spliced) := by
  induction hw generalizing w' with
  | mk again parts ih =>
    cases h with
    | mk hsame hparts =>
      refine .mk (fun o s p s' hs hr => again o s p s' hs ((hsame o s hs).trans hr)) ?_
      induction hparts with
      | nil => simp
      | cons hab _ ih' =>
        intro v hv
        rcases List.mem_cons.1 hv with rfl | hv
        · exact ih _ (by simp) hab
        · exact ih' (fun p hp => parts p (by simp [hp])) (fun p hp => ih p (by simp [hp])) v hv

theorem forall₂_walkAll {fail : Walker Unit} {ts : List Tree}
    (h : ∀ t ∈ ts, (walk t).Agree (plainWalk fail t)) :
    List.Forall₂ Branch.Agree (walkAll ts) (plainWalkAll fail ts) := by
  induction ts with
  | nil => exact .nil
  | cons t ts ih => exact .cons (h t (by simp)) (ih fun u hu => h u (by simp [hu]))

theorem adds_plainWalkAll {fail : Walker Unit} {ts : List Tree}
    (h : ∀ t ∈ ts, (walk t).Agree (plainWalk fail t)) :
    ∀ w ∈ plainWalkAll fail ts, w.All (Adds spliced) := by
  induction ts with
  | nil => simp [plainWalkAll]
  | cons t ts ih =>
    intro w hw
    rcases List.mem_cons.1 hw with rfl | hw
    · exact (h t (by simp)).adds (walk_adds t)
    · exact ih (fun u hu => h u (by simp [hu])) w hw

theorem walk_agree (fail : Walker Unit) (t : Tree) : (walk t).Agree (plainWalk fail t) := by
  induction t using tree_induction with
  | missing => exact .mk (Same.refl _) .nil
  | atom a => exact .mk (Same.refl _) .nil
  | list ts ih => exact .mk (Same.refl _) (forall₂_walkAll ih)
  | node k fs ih =>
    have hw := forall_walkAll fun t (_ : t ∈ fs) => walk_adds t
    have hw' := adds_plainWalkAll ih
    refine .mk (fun o s hs => ?_) (forall₂_walkAll ih)
    -- both ends are walked with `pure ()` in place of a failure, where the branches can be exchanged
    calc run (visitNode k (walkAll fs)) o s
        = run (plainNode (pure ()) k (walkAll fs)) o s := (run_visitNode hw hs _).1
      _ = run (plainNode (pure ()) k (plainWalkAll fail fs)) o s :=
          same_plainNode (forall₂_walkAll ih) hw k o s hs
      _ = run (visitNode k (plainWalkAll fail fs)) o s := (run_visitNode hw' hs _).1.symm
      _ = run (plainNode fail k (plainWalkAll fail fs)) o s := (run_visitNode hw' hs fail).1

/-! The special forms -/

mutual

/-- Whether a node of the class stands in the tree. -/
def contains (k : Kind) : Tree → Bool
  | .node k' fs => k' = k || anyContains k fs
  | .list ts => anyContains k ts
  | _ => false

def anyContains (k : Kind) : List Tree → Bool
  | [] => false
  | t :: ts => contains k t || anyContains k ts

end

theorem contains_of_mem {k : Kind} {ts : List Tree} (h : anyContains k ts = false) {t : Tree}
    (ht : t ∈ ts) : contains k t = false := by
  induction ts with
  | nil => cases ht
  | cons u ts ih =>
    obtain ⟨hu, hts⟩ := Bool.or_eq_false_iff.1 h
    rcases List.mem_cons.1 ht with rfl | ht
    · exact hu
    · exact ih hts ht

/-- Relates states by their scopes. -/
def OnScope (R : Scope → Scope → Prop) (s s' : State) : Prop := R s.scope s'.scope

/-- The scope in which the fields of a node are walked. -/
def scopeWithin (k : Kind) (sc : Scope) : Scope := if opensScope k then sc.enter else sc

section Scopes

variable {o : Options} {R : Scope → Scope → Prop} (hR : Steps o (OnScope R))
include hR

theorem keeps_modify_scope {f : State → State} (hf : ∀ s, (f s).scope = s.scope) :
    KeepsAt o (OnScope R) (modify f) := by
  intro s _ s' h
  cases h
  change R s.scope (f s).scope
  rw [hf]
  exact hR.note (Noted.refl s)

theorem keeps_children : KeepsAt o (OnScope R) children := by
  intro s _ s' h
  rw [run_children] at h
  cases h
  change R s.scope s.scope
  exact hR.note (Noted.refl s)

theorem keeps_leaveFields (k : Kind) : KeepsAt o (OnScope R) (leaveFields popOperator k) := by
  unfold leaveFields
  refine keeps_ite (keeps_bind hR ?_ fun _ => ?_) ?_
  · refine keeps_bind hR (keeps_get hR) fun _ => keeps_bind hR ?_ fun _ => ?_
    · exact keeps_modify_scope hR fun _ => rfl
    · rw [discard_eq]
      exact keeps_bind hR (keeps_need hR _) fun _ => keeps_pure hR _
  all_goals exact keeps_modify_scope hR fun _ => rfl

theorem keeps_closeNode (k : Kind) (p : Piece) :
    KeepsAt o (OnScope R) (closeNode closeLevel k p) := by
  refine keeps_bind hR (keeps_children hR) fun _ => keeps_bind hR (keeps_say hR _) fun _ =>
    keeps_bind hR (keeps_say hR _) fun _ => keeps_bind hR ?_ fun _ => keeps_bind hR ?_ fun _ =>
    keeps_pure hR _
  · refine keeps_bind hR (keeps_get hR) fun _ => keeps_bind hR ?_ fun _ => keeps_need hR _
    exact keeps_modify_scope hR fun _ => rfl
  · unfold collect
    exact keeps_ite (keeps_pure hR _) (keeps_modify_scope hR fun _ => rfl)

theorem keeps_visitField {w : Branch} (hw : w.All (KeepsAt o (OnScope R))) :
    KeepsAt o (OnScope R) (visitField w) := by
  have hd {v : Branch} (hv : v.All (KeepsAt o (OnScope R))) :
      KeepsAt o (OnScope R) (discard v.again) := by
    rw [discard_eq]
    exact keeps_bind hR hv.again fun _ => keeps_pure hR _
  unfold visitField
  split
  · exact hd hw
  · exact keeps_forM hR _ fun p hp => keeps_ite (hd (hw.parts p hp)) (keeps_pure hR _)
  · exact keeps_pure hR _

/-- What the walks over the fields keep between them, the walk over a node keeps if its rule takes
the scope back to where the node was entered. -/
theorem keeps_visitNode {k : Kind} {ws : List Branch} (hw : ∀ w ∈ ws, w.All (KeepsAt o (OnScope R)))
    (hrule : ∀ cs sc s p s', R (scopeWithin k sc) s.scope →
      run (rule k ws cs) o s = (.ok p, s') → R sc s'.scope) :
    KeepsAt o (OnScope R) (visitNode k ws) := by
  intro s p s' h
  rw [visitNode_eq] at h
  obtain ⟨_, s1, henter, h⟩ := run_bind_ok h
  obtain ⟨_, s2, hfields, h⟩ := run_bind_ok h
  obtain ⟨_, s3, hleave, h⟩ := run_bind_ok h
  obtain ⟨cs, s4, hcs, h⟩ := run_bind_ok h
  obtain ⟨q, s5, hq, hclose⟩ := run_bind_ok h
  have hin : s1.scope = scopeWithin k s.scope := (entered_of_run henter).scope
  have hwalked : OnScope R s1 s4 := hR.trans
    (keeps_forM hR ws (fun w hm => keeps_visitField hR (hw w hm)) s1 _ s2 hfields)
    (hR.trans (keeps_leaveFields hR k s2 _ s3 hleave) (keeps_children hR s3 cs s4 hcs))
  unfold OnScope at hwalked
  rw [hin] at hwalked
  exact hR.trans (b := s5) (hrule cs s.scope s4 q s5 hwalked hq) (keeps_closeNode hR k q s5 p s' hclose)

/-- The same for a tree in which no class of a list is met. -/
theorem walk_keeps_scope (ks : List Kind)
    (hrule : ∀ k ∉ ks, ∀ ws : List Branch, (∀ w ∈ ws, w.All (KeepsAt o (OnScope R))) →
      ∀ cs sc s p s', R (scopeWithin k sc) s.scope →
        run (rule k ws cs) o s = (.ok p, s') → R sc s'.scope)
    {t : Tree} (ht : ∀ k ∈ ks, contains k t = false) : (walk t).All (KeepsAt o (OnScope R)) := by
  induction t using tree_induction with
  | missing => exact .mk (keeps_throw _) (by simp)
  | atom a => exact .mk (fun s p s' h => absurd h (visitOther_fails _ o s s' p)) (by simp)
  | list ts ih =>
    exact .mk (fun s p s' h => absurd h (visitOther_fails _ o s s' p))
      (forall_walkAll fun t hm => ih t hm fun k hk => contains_of_mem (ht k hk) hm)
  | node k fs ih =>
    have hfs := fun k' hk' => Bool.or_eq_false_iff.1 (ht k' hk')
    have hk : k ∉ ks := fun hm => of_decide_eq_false (hfs k hm).1 rfl
    have hw := forall_walkAll fun t hm => ih t hm fun k' hk' => contains_of_mem (hfs k' hk').2 hm
    exact .mk (keeps_visitNode hR hw (hrule k hk _ hw)) hw

end Scopes

/-- The walk over any tree keeps a relation that stays when a scope is left. -/
theorem walk_scoped {o : Options} {R : Scope → Scope → Prop} (hR : Scoped (OnScope R))
    (hspecial : Specials (OnScope R)) (t : Tree) : (walk t).All (KeepsAt o (OnScope R)) := by
  refine walk_keeps_scope (hR.steps o) [] ?_ (by simp)
  intro k _ ws hw cs sc s p s' hs hr
  by_cases hk : opensScope k = true
  · rw [scopeWithin, if_pos hk] at hs
    have hleft : R sc s.scope.leave := hR.left (a := { s with scope := sc.enter }) (b := s) hs
    have hclosed : R s.scope.leave s'.scope := closes_rule hR (fun _ => hspecial) hk ws cs s p s' hr
    exact hR.trans (a := { s with scope := sc }) (b := s.left) (c := s') hleft hclosed
  · rw [scopeWithin, if_neg hk] at hs
    refine hR.trans (a := { s with scope := sc }) (b := s) (c := s') hs ?_
    by_cases hclass : k = .classDef
    · subst hclass
      cases ws with
      | nil =>
        cases hr
        exact hR.note (Noted.refl _)
      | cons name ws => exact keeps_classRule hR name.tree cs s p s' hr
    · exact steps_rule (hR.steps o) (by simpa using hk) hclass hw cs s p s' hr

def SameSpecial (s s' : State) : Prop := s'.scope.special = s.scope.special

theorem Frame.ofSameSpecial : Frame SameSpecial :=
  ⟨fun h1 h2 => h2.trans h1, fun h => h.special rfl⟩

theorem walk_sameSpecial {t : Tree} (h : contains .module t = false) :
    (walk t).All (Keeps SameSpecial) := by
  refine Branch.All.of_at fun o => walk_keeps_scope (R := fun sc sc' => sc'.special = sc.special)
    (Frame.ofSameSpecial.steps o) [.module] ?_ (by simpa using h)
  intro k hk ws hw cs sc s p s' hs hr
  by_cases ho : opensScope k = true
  · have he : Edit (k == .module) s.left s' := edits_rule ho ws cs s p s' hr
    have hsp : s'.scope.special = s.scope.special :=
      (he.special (by simpa using hk)).trans (special_leave _)
    rw [hsp, hs, scopeWithin, if_pos ho]
    rfl
  · have hsp : SameSpecial s s' :=
      keeps_rule Frame.ofSameSpecial (by simpa using ho) hw cs s p s' hr
    rw [hsp, hs, scopeWithin, if_neg ho]

/-- From a ready state, no walk fails at leaving a level or at closing an operator, and every rule is
handed the results of its fields in order. A walk that succeeds adds the result of the tree to the
list of the level, keeps the rest of the stacks, and keeps the special forms if it meets no program. -/
theorem visit_keeps_stacks (t : Tree) (o : Options) (s : State) (hs : Ready s) :
    (∀ fail, run (visit t) o s = run (plainVisit fail t) o s) ∧
      ∀ p s', run (visit t) o s = (.ok p, s') → Kept s s' (spliced p) ∧
        (contains .module t = false → s'.scope.special = s.scope.special) :=
  ⟨fun fail => (walk_agree fail t).again o s hs, fun p s' h =>
    ⟨(walk_adds t).again o s p s' hs h, fun hm => (walk_sameSpecial hm).again o s p s' h⟩⟩

/-- A loop with an else part, whose test takes a slice and so walks its bound twice. -/
def sliceLoop : Tree :=
  .node .whileStmt [
    .node .subscript [.node .name [.text "a", .missing],
      .node .slice [.none, .node .name [.text "n", .missing], .none], .missing],
    .list [.node .deleteStmt [.list [.node .name [.text "b", .missing]]]],
    .list [.node .breakStmt []]]

/-- Inside an operand and a function, with something collected. -/
def busyState : State where
  levels := { level := 1, entries := [(1, [.text "x"]), (0, [])] }
  operators := ⟨[.binOp]⟩
  scope := { outer := [[]] }
  depth := 3

theorem sliceLoop_keeps_stacks : Ready busyState ∧ contains .module sliceLoop = false ∧
    ∃ p s', run (visit sliceLoop) {} busyState = (.ok p, s') ∧ Kept busyState s' (spliced p) ∧
      (spliced p).length = 3 ∧ s'.scope.special = busyState.scope.special := by
  have hs : Ready busyState := by
    refine ⟨by decide, fun n hn => ?_⟩
    change (1 : Int) < n at hn
    have h1 : (n == 1) = false := by simp; omega
    have h0 : (n == 0) = false := by simp; omega
    simp [busyState, Levels.at?, List.lookup_cons, h1, h0]
  obtain ⟨p, s', hr, hn⟩ : ∃ p s', run (visit sliceLoop) {} busyState = (.ok p, s') ∧
      (spliced p).length = 3 := ⟨_, _, rfl, rfl⟩
  have hm : contains .module sliceLoop = false := by decide
  obtain ⟨-, h⟩ := visit_keeps_stacks sliceLoop {} busyState hs
  obtain ⟨hk, hsp⟩ := h p s' hr
  exact ⟨hs, hm, p, s', hr, hk, hn, hsp hm⟩

end Transpile.Walk
