import Transpile.Proofs.Levels
import Transpile.Proofs.Rules

/-! What a walk leaves as it was. From a state with nothing above its level, a successful walk over
a node adds the node's result to the list of that level; the other levels, the operators, the depth
and the outer maps stay. The node is taken apart into its stages, and each stage is described once. -/

namespace Transpile.Walk

open Script Source

/-- The level is not below zero, and nothing is held above it. -/
structure Ready (s : State) : Prop where
  level : 0 ≤ s.levels.level
  above : ∀ n, s.levels.level < n → s.levels.at? n = none

theorem ready_start : Ready {} := ⟨by decide, fun _ _ => rfl⟩

/-- `s'` is `s` with `ps` added to the list of its level, up to the innermost map and what is noted
beside the walk. -/
structure Kept (s s' : State) (ps : List Piece) : Prop where
  level : s'.levels.level = s.levels.level
  above : ∀ n, s.levels.level < n → s'.levels.at? n = none
  below : ∀ n, n < s.levels.level → s'.levels.at? n = s.levels.at? n
  current : s'.levels.current = s.levels.current ++ ps
  operators : s'.operators = s.operators
  depth : s'.depth = s.depth
  outer : s'.scope.outer = s.scope.outer

theorem Kept.ready {s s' : State} {ps : List Piece} (h : Kept s s' ps) (hs : Ready s) : Ready s' :=
  ⟨h.level ▸ hs.level, fun n hn => h.above n (h.level ▸ hn)⟩

theorem Kept.of_edit {s s' : State} (hs : Ready s) (h : Edit false s s') : Kept s s' [] :=
  ⟨by rw [h.levels], fun n hn => by rw [h.levels, hs.above n hn], fun n _ => by rw [h.levels],
    by rw [h.levels, List.append_nil], h.operators, h.depth, h.outer⟩

theorem Kept.trans {a b c : State} {ps qs : List Piece} (h1 : Kept a b ps) (h2 : Kept b c qs) :
    Kept a c (ps ++ qs) where
  level := h2.level.trans h1.level
  above n hn := h2.above n (h1.level ▸ hn)
  below n hn := (h2.below n (h1.level ▸ hn)).trans (h1.below n hn)
  current := by rw [h2.current, h1.current, List.append_assoc]
  operators := h2.operators.trans h1.operators
  depth := h2.depth.trans h1.depth
  outer := h2.outer.trans h1.outer

/-- From a ready state, something is added to the list of the level and the rest stays. -/
def Steady (s s' : State) : Prop := Ready s → ∃ ps, Kept s s' ps

theorem Frame.ofSteady : Frame Steady where
  trans h1 h2 hs := by
    obtain ⟨ps, hp⟩ := h1 hs
    obtain ⟨qs, hq⟩ := h2 (hp.ready hs)
    exact ⟨ps ++ qs, hp.trans hq⟩
  edit h hs := ⟨[], Kept.of_edit hs h⟩

/-- Every successful run from a ready state adds what its result gives. -/
def Adds {α : Type} (f : α → List Piece) (w : Walker α) : Prop :=
  ∀ o s a s', Ready s → run w o s = (.ok a, s') → Kept s s' (f a)

theorem Adds.steady {α : Type} {f : α → List Piece} {w : Walker α} (h : Adds f w) :
    Keeps Steady w :=
  fun o s a s' hw hs => ⟨f a, h o s a s' hs hw⟩

theorem Branch.All.steady {w : Branch} (h : w.All (Adds spliced)) : w.All (Keeps Steady) :=
  h.mono fun _ hw => hw.steady

theorem spliced_of_isAbsent {p : Piece} (h : p.isAbsent = true) : spliced p = [] := by
  unfold Piece.isAbsent at h
  split at h
  · rfl
  · cases h

/-! The stages of a node -/

/-- Up to the walk over the fields. -/
def enterNode (k : Kind) (ws : List Branch) : Walker Unit := do
  openLevel
  say ("enter: " ++ quotedNode k)
  if opensScope k then enterScope
  deeper
  unless isReadable k ws do throw .missingAttribute
  if opensOperator k then pushOperator k

/-- Between the walk over the fields and the rule; `pop` closes an operator. -/
def leaveFields (pop : Walker Unit) (k : Kind) : Walker Unit := do
  if opensOperator k then pop
  shallower

/-- After the rule; `down` leaves the level. -/
def closeNode (down : Walker Unit) (k : Kind) (p : Piece) : Walker Piece := do
  say ("childs: " ++ (Piece.items (← children)).quoted)
  say ("exit: " ++ quotedNode k)
  down
  collect p
  return p

theorem visitNode_eq (k : Kind) (ws : List Branch) : visitNode k ws = (do
    enterNode k ws
    ws.forM visitField
    leaveFields popOperator k
    let p ← rule k ws (← children)
    closeNode closeLevel k p) := by
  unfold visitNode enterNode leaveFields closeNode
  split_ifs <;> simp only [bind_assoc, pure_bind]

structure Entered (k : Kind) (s s' : State) : Prop where
  levels : s'.levels = s.levels.up
  operators : s'.operators = if opensOperator k then s.operators.push k else s.operators
  depth : s'.depth = s.depth + 1
  scope : s'.scope = if opensScope k then s.scope.enter else s.scope
  globalName : s'.globalName = s.globalName
  newName : s'.newName = s.newName

theorem run_say (line : String) (o : Options) (s : State) :
    ∃ tr, run (say line) o s = (.ok (), { s with trace := tr }) := by
  by_cases h : o.debug
  · exact ⟨_, by simp only [say, run_bind, run_read, h, if_true, run_modify]; rfl⟩
  · exact ⟨s.trace, by simp only [say, run_bind, run_read, h]; rfl⟩

theorem run_enterNode (k : Kind) (ws : List Branch) (o : Options) (s : State) :
    ∃ s', Entered k s s' ∧ run (enterNode k ws) o s =
      if isReadable k ws then (.ok (), s')
      else (.error .missingAttribute, { s' with operators := s.operators }) := by
  obtain ⟨tr, htr⟩ := run_say ("enter: " ++ quotedNode k) o { s with levels := s.levels.up }
  refine ⟨{ s with levels := s.levels.up, trace := tr, depth := s.depth + 1
                   operators := if opensOperator k then s.operators.push k else s.operators
                   scope := if opensScope k then s.scope.enter else s.scope },
    ⟨rfl, rfl, rfl, rfl, rfl, rfl⟩, ?_⟩
  have hopen : run openLevel o s = (.ok (), { s with levels := s.levels.up }) := rfl
  unfold enterNode
  rw [run_bind_of_ok hopen, run_bind_of_ok htr]
  split_ifs <;> rfl

theorem entered_of_run {k : Kind} {ws : List Branch} {o : Options} {s s' : State} {a : Unit}
    (h : run (enterNode k ws) o s = (.ok a, s')) : Entered k s s' := by
  obtain ⟨s1, he, hr⟩ := run_enterNode k ws o s
  rw [h] at hr
  split_ifs at hr
  · cases hr
    exact he
  · cases hr

theorem Entered.ready {k : Kind} {s s' : State} (h : Entered k s s') (hs : Ready s) : Ready s' := by
  have hl := hs.level
  refine ⟨?_, fun n hn => ?_⟩
  · rw [h.levels, Levels.level_up]; omega
  · rw [h.levels, Levels.level_up] at hn
    rw [h.levels, Levels.at?_up]
    exact hs.above n (by omega)

theorem Entered.current {k : Kind} {s s' : State} (h : Entered k s s') (hs : Ready s) :
    s'.levels.current = [] := by
  unfold Levels.current
  rw [h.levels, Levels.at?_up, hs.above _ (by rw [Levels.level_up]; omega)]
  rfl

/-! The results of the fields -/

section Gather

variable {α : Type}

/-- Runs a walk for each member and joins what they give. -/
def gather (f : α → Walker (List Piece)) : List α → Walker (List Piece)
  | [] => pure []
  | a :: as => do return (← f a) ++ (← gather f as)

/-- What walking a node adds to a list of results. -/
def resultOf (w : Branch) : Walker (List Piece) := do return spliced (← w.again)

/-- What walking a field adds to a list of results: the results of its nodes in order. -/
def resultsOf (w : Branch) : Walker (List Piece) :=
  match w.tree with
  | .node _ _ => resultOf w
  | .list _ => gather (fun p => if p.tree.isNode then resultOf p else pure []) w.parts
  | _ => pure []

theorem discard_eq (w : Walker α) : discard w = w >>= fun _ => pure () := by
  unfold Functor.discard
  rw [LawfulFunctor.map_const]
  exact map_eq_pure_bind _ _

theorem forM_eq_gather {f : α → Walker PUnit} {g : α → Walker (List Piece)}
    (h : ∀ a, f a = discard (g a)) (as : List α) : as.forM f = discard (gather g as) := by
  induction as with
  | nil => rfl
  | cons a as ih =>
    change (f a >>= fun _ => as.forM f) = _
    rw [ih, h]
    simp only [gather, discard_eq, bind_assoc, pure_bind]

theorem discard_resultOf (w : Branch) : discard w.again = discard (resultOf w) := by
  simp only [resultOf, discard_eq, bind_assoc, pure_bind]

theorem visitField_eq (w : Branch) : visitField w = discard (resultsOf w) := by
  unfold visitField resultsOf
  cases w.tree with
  | node k fs => exact discard_resultOf w
  | list ts =>
    refine forM_eq_gather (fun p => ?_) _
    split_ifs
    · exact discard_resultOf p
    · rfl
  | atom a => rfl
  | missing => rfl

theorem adds_nil : Adds id (pure [] : Walker (List Piece)) := by
  intro o s a s' hs h
  cases h
  exact Kept.of_edit hs (Edit.refl _ _)

theorem adds_resultOf {w : Branch} (h : Adds spliced w.again) : Adds id (resultOf w) := by
  intro o s a s' hs hr
  obtain ⟨p, s1, h1, h2⟩ := run_bind_ok hr
  cases h2
  exact h o s p s' hs h1

theorem adds_gather {f : α → Walker (List Piece)} {as : List α} (h : ∀ a ∈ as, Adds id (f a)) :
    Adds id (gather f as) := by
  induction as with
  | nil => exact adds_nil
  | cons a as ih =>
    intro o s cs s' hs hr
    obtain ⟨ps, s1, h1, h2⟩ := run_bind_ok hr
    obtain ⟨qs, s2, h3, h4⟩ := run_bind_ok h2
    cases h4
    have hp := h a (by simp) o s ps s1 hs h1
    exact hp.trans (ih (fun b hb => h b (by simp [hb])) o s1 qs s' (hp.ready hs) h3)

theorem adds_resultsOf {w : Branch} (h : w.All (Adds spliced)) : Adds id (resultsOf w) := by
  unfold resultsOf
  split
  · exact adds_resultOf h.again
  · refine adds_gather fun p hp => ?_
    split_ifs
    · exact adds_resultOf (h.parts p hp).again
    · exact adds_nil
  · exact adds_nil

end Gather

/-! Leaving the fields, the rule, and leaving the node -/

/-- Closes an operator; `fail` stands where there is none to close. -/
def popOperatorOr (fail : Walker Unit) : Walker Unit := do
  let r := (← get).operators.pop
  modify fun s => { s with operators := r.2 }
  match r.1 with
  | .ok _ => pure ()
  | .error _ => fail

/-- Leaves a level; `fail` stands where it cannot be left. -/
def closeLevelOr (fail : Walker Unit) : Walker Unit := do
  let r := (← get).levels.down
  modify fun s => { s with levels := r.2 }
  match r.1 with
  | .ok _ => pure ()
  | .error _ => fail

/-- The state after the fields of a node that was entered from `s`. -/
def State.fieldsLeft (s s2 : State) : State :=
  { s2 with operators := s.operators, depth := s.depth }

theorem run_leaveFields {k : Kind} {s s1 s2 : State} {cs : List Piece} (h1 : Entered k s s1)
    (h2 : Kept s1 s2 cs) {pop : Walker Unit}
    (hpop : pop = popOperator ∨ ∃ fail, pop = popOperatorOr fail)
    (o : Options) : run (leaveFields pop k) o s2 = (.ok (), s.fieldsLeft s2) := by
  have hd : s2.depth - 1 = s.depth := by rw [h2.depth, h1.depth]; omega
  have ho := h2.operators.trans h1.operators
  have hs : run shallower o { s2 with operators := s.operators } = (.ok (), s.fieldsLeft s2) := by
    rw [State.fieldsLeft, ← hd]
    rfl
  unfold leaveFields
  split_ifs at ho ⊢ with hk
  · have hr : run pop o s2 = (.ok (), { s2 with operators := s.operators }) := by
      rcases hpop with rfl | ⟨fail, rfl⟩
      · simp only [popOperator, run_bind, run_get, run_modify, ho, Stack.pop, Stack.push, need]
        rfl
      · simp only [popOperatorOr, run_bind, run_get, run_modify, ho, Stack.pop, Stack.push, run_pure]
    rw [run_bind_of_ok hr, hs]
  · rw [← hs, ← ho]

@[simp] theorem run_children (o : Options) (s : State) :
    run children o s = (.ok s.levels.current, { s with levels := s.levels.touch }) := by
  simp only [children, run_bind, run_modify, run_get, Levels.current_touch, run_pure]

/-- A rule adds to the list of the level and may leave the scope that was entered for it. -/
theorem kept_rule {k : Kind} {ws : List Branch} (hw : ∀ w ∈ ws, w.All (Adds spliced))
    {cs : List Piece} {o : Options} {s s' : State} {p : Piece} (hs : Ready s)
    (h : run (rule k ws cs) o s = (.ok p, s')) :
    ∃ ps, Kept (if opensScope k then s.left else s) s' ps := by
  split_ifs with hk
  · have he : Edit (k == .module) s.left s' := edits_rule hk ws cs s p s' h
    exact ⟨[], by rw [he.levels], fun n hn => by rw [he.levels]; exact hs.above n hn,
      fun n _ => by rw [he.levels], by rw [he.levels, List.append_nil], he.operators, he.depth,
      he.outer⟩
  · have hk : opensScope k = false := by simpa using hk
    exact keeps_rule Frame.ofSteady hk (fun w hm => (hw w hm).steady.at o) cs s p s' h hs

/-- The levels after a node that ends with the levels `l` and the result `p`. -/
def closedLevels (l : Levels Piece) (p : Piece) : Levels Piece :=
  if p.isAbsent then l.touch.down.2 else l.touch.down.2.appendAll (spliced p)

theorem level_closedLevels (l : Levels Piece) (p : Piece) :
    (closedLevels l p).level = l.level - 1 := by
  unfold closedLevels
  split_ifs <;> exact l.level_touch_down

theorem at?_closedLevels (l : Levels Piece) (p : Piece) {n : Int} (hn : n ≠ l.level - 1) :
    (closedLevels l p).at? n = if n = l.level then none else l.at? n := by
  unfold closedLevels
  split_ifs with hp hl hl
  · rw [Levels.at?_touch_down, if_pos hl]
  · rw [Levels.at?_touch_down, if_neg hl]
  · rw [Levels.at?_appendAll_of_ne _ _ (by rwa [l.level_touch_down]), Levels.at?_touch_down, if_pos hl]
  · rw [Levels.at?_appendAll_of_ne _ _ (by rwa [l.level_touch_down]), Levels.at?_touch_down, if_neg hl]

theorem current_closedLevels (l : Levels Piece) (p : Piece) :
    (closedLevels l p).current = (l.at? (l.level - 1)).getD [] ++ spliced p := by
  have h : l.touch.down.2.current = (l.at? (l.level - 1)).getD [] := by
    unfold Levels.current
    rw [l.level_touch_down, Levels.at?_touch_down, if_neg (by omega)]
  unfold closedLevels
  split_ifs with hp
  · rw [h, spliced_of_isAbsent hp, List.append_nil]
  · rw [Levels.current_appendAll, h]

theorem run_closeNode {s : State} (hl : 0 < s.levels.level) (k : Kind) (p : Piece) (o : Options) :
    ∃ tr, ∀ down, (down = closeLevel ∨ ∃ fail, down = closeLevelOr fail) → run (closeNode down k p) o s =
      (.ok p, { s with levels := closedLevels s.levels p, trace := tr }) := by
  obtain ⟨tr1, h1⟩ := run_say ("childs: " ++ (Piece.items s.levels.current).quoted) o
    { s with levels := s.levels.touch }
  obtain ⟨tr2, h2⟩ := run_say ("exit: " ++ quotedNode k) o
    { s with levels := s.levels.touch, trace := tr1 }
  refine ⟨tr2, fun down hdown => ?_⟩
  have h3 : run down o { s with levels := s.levels.touch, trace := tr2 } =
      (.ok (), { s with levels := s.levels.touch.down.2, trace := tr2 }) := by
    have hok := Levels.down_ok s.levels.touch hl (Levels.at?_touch_self _)
    rcases hdown with rfl | ⟨fail, rfl⟩
    · simp only [closeLevel, run_bind, run_get, run_modify, hok, run_need_ok]
    · simp only [closeLevelOr, run_bind, run_get, run_modify, hok, run_pure]
  unfold closeNode
  rw [run_bind_of_ok (run_children o s), run_bind_of_ok h1, run_bind_of_ok h2, run_bind_of_ok h3]
  unfold closedLevels collect
  split_ifs <;> rfl

/-- The state in which the rule of a node that was entered from `s` starts. -/
structure AtRule (k : Kind) (s s' : State) (cs : List Piece) : Prop where
  level : s'.levels.level = s.levels.level + 1
  above : ∀ n, s.levels.level + 1 < n → s'.levels.at? n = none
  below : ∀ n, n ≤ s.levels.level → s'.levels.at? n = s.levels.at? n
  current : s'.levels.current = cs
  operators : s'.operators = s.operators
  depth : s'.depth = s.depth
  outer : s'.scope.outer = if opensScope k then s.scope.inner :: s.scope.outer else s.scope.outer

def State.touched (s : State) : State := { s with levels := s.levels.touch }

theorem atRule_of_entered {k : Kind} {s s1 s2 : State} {cs : List Piece} (hs : Ready s)
    (h1 : Entered k s s1) (h2 : Kept s1 s2 cs) : AtRule k s (s.fieldsLeft s2).touched cs := by
  have hl : s2.levels.level = s.levels.level + 1 := by rw [h2.level, h1.levels]; rfl
  have hl1 : s1.levels.level = s.levels.level + 1 := by rw [h1.levels]; rfl
  refine ⟨hl, fun n hn => ?_, fun n hn => ?_, ?_, rfl, rfl, ?_⟩
  · change s2.levels.touch.at? n = none
    rw [Levels.at?_touch_of_ne _ (by omega)]
    exact h2.above n (by omega)
  · change s2.levels.touch.at? n = _
    rw [Levels.at?_touch_of_ne _ (by omega), h2.below n (by omega), h1.levels, Levels.at?_up]
  · change s2.levels.touch.current = cs
    rw [Levels.current_touch, h2.current, h1.current hs, List.nil_append]
  · change s2.scope.outer = _
    rw [h2.outer, h1.scope]
    split_ifs <;> rfl

theorem AtRule.ready {k : Kind} {s s' : State} {cs : List Piece} (h : AtRule k s s' cs)
    (hs : Ready s) : Ready s' := by
  have := hs.level
  exact ⟨by rw [h.level]; omega, fun n hn => h.above n (by rw [h.level] at hn; exact hn)⟩

/-- Leaving a node: the level is left with its entry, and the result joins the list below. -/
theorem AtRule.kept {k : Kind} {s s4 s5 : State} {cs ps : List Piece} (h : AtRule k s s4 cs)
    (h5 : Kept (if opensScope k then s4.left else s4) s5 ps) (p : Piece) (tr : List String) :
    Kept s { s5 with levels := closedLevels s5.levels p, trace := tr } (spliced p) := by
  have hlevels : (if opensScope k then s4.left else s4).levels = s4.levels := by split_ifs <;> rfl
  have hl : s5.levels.level = s.levels.level + 1 := by rw [h5.level, hlevels, h.level]
  have hat : ∀ n, n ≤ s.levels.level → s5.levels.at? n = s.levels.at? n := fun n hn => by
    rw [h5.below n (by rw [hlevels, h.level]; omega), hlevels, h.below n hn]
  refine ⟨?_, fun n hn => ?_, fun n hn => ?_, ?_, ?_, ?_, ?_⟩
  · change (closedLevels s5.levels p).level = _
    rw [level_closedLevels, hl]; omega
  · change (closedLevels s5.levels p).at? n = none
    rw [at?_closedLevels _ _ (by omega)]
    split_ifs with hn'
    · rfl
    · exact h5.above n (by rw [hlevels, h.level]; omega)
  · change (closedLevels s5.levels p).at? n = _
    rw [at?_closedLevels _ _ (by omega), if_neg (by omega), hat n (by omega)]
  · change (closedLevels s5.levels p).current = _
    rw [current_closedLevels, hat _ (by omega), hl, show s.levels.level + 1 - 1 = s.levels.level by omega]
    rfl
  · change s5.operators = _
    rw [h5.operators, ← h.operators]
    split_ifs <;> rfl
  · change s5.depth = _
    rw [h5.depth, ← h.depth]
    split_ifs <;> rfl
  · change s5.scope.outer = _
    have ho := h.outer
    rw [h5.outer]
    split_ifs at ho ⊢
    · simp only [State.left, outer_leave, ho, List.tail_cons]
    · exact ho

end Transpile.Walk
