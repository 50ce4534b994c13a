import Transpile.Proofs.Shapes

/-! Expressions are pure. A walk over an expression without list comprehensions touches no name, and
what comes of it is settled by the expression, by whether names are put in camel case, and by whether
an operator is open around it. So the second walk over the bounds of a slice gives what the first gave. -/

namespace Transpile.Walk

open Script Source

variable {α β : Type}

/-- The names are as they were: those in scope, the special forms, and those of the special imports. -/
structure Untouched (s s' : State) : Prop where
  scope : s'.scope = s.scope
  globalName : s'.globalName = s.globalName
  newName : s'.newName = s.newName

theorem Untouched.refl (s : State) : Untouched s s := ⟨rfl, rfl, rfl⟩

theorem Untouched.trans {a b c : State} (h1 : Untouched a b) (h2 : Untouched b c) : Untouched a c :=
  ⟨h2.scope.trans h1.scope, h2.globalName.trans h1.globalName, h2.newName.trans h1.newName⟩

/-- A ready state with all that an expression can see: whether names are put in camel case, and
whether the walk is inside the operands of an operator. -/
structure Place (camel inner : Bool) (o : Options) (s : State) : Prop where
  camel : o.camelCase = camel
  ready : Ready s
  inner : s.operators.isEmpty = !inner

/-- All runs of the walk from such a place come out alike, and they touch no name. -/
def Settled (camel inner : Bool) (w : Walker α) : Prop :=
  ∃ e : Except Cause α, ∀ o s, Place camel inner o s →
    (run w o s).1 = e ∧ Untouched s (run w o s).2 ∧
      ∀ a, e = .ok a → Place camel inner o (run w o s).2

theorem Settled.alike {camel inner : Bool} {w : Walker α} (h : Settled camel inner w)
    {o o' : Options} {s s' : State} (hs : Place camel inner o s) (hs' : Place camel inner o' s') :
    (run w o s).1 = (run w o' s').1 := by
  obtain ⟨e, h⟩ := h
  exact (h o s hs).1.trans (h o' s' hs').1.symm

theorem Settled.untouched {camel inner : Bool} {w : Walker α} (h : Settled camel inner w)
    {o : Options} {s : State} (hs : Place camel inner o s) : Untouched s (run w o s).2 := by
  obtain ⟨e, h⟩ := h
  exact (h o s hs).2.1

theorem Settled.place {camel inner : Bool} {w : Walker α} (h : Settled camel inner w) {o : Options}
    {s s' : State} {a : α} (hs : Place camel inner o s) (hr : run w o s = (.ok a, s')) :
    Place camel inner o s' := by
  obtain ⟨e, h⟩ := h
  obtain ⟨hout, -, hnext⟩ := h o s hs
  rw [hr] at hout hnext
  exact hnext a hout.symm

section Steps

variable {camel inner : Bool}

/-- A walk that changes nothing and comes out as it does whatever the state. -/
theorem settled_of_eq {w : Walker α} (e : Except Cause α)
    (h : ∀ o s, Place camel inner o s → run w o s = (e, s)) : Settled camel inner w := by
  refine ⟨e, fun o s hs => ?_⟩
  rw [h o s hs]
  exact ⟨rfl, Untouched.refl s, fun _ _ => hs⟩

theorem settled_pure (a : α) : Settled camel inner (pure a : Walker α) :=
  settled_of_eq (.ok a) fun _ _ _ => rfl

theorem settled_throw (c : Cause) : Settled camel inner (throw c : Walker α) :=
  settled_of_eq (.error c) fun _ _ _ => rfl

theorem settled_bind {w : Walker α} {f : α → Walker β} (hw : Settled camel inner w)
    (hf : ∀ a, Settled camel inner (f a)) : Settled camel inner (w >>= f) := by
  obtain ⟨e, hw⟩ := hw
  cases e with
  | error c =>
    refine ⟨.error c, fun o s hs => ?_⟩
    obtain ⟨hout, hsame, -⟩ := hw o s hs
    rcases hr : run w o s with ⟨e', s'⟩
    rw [hr] at hout hsame
    obtain rfl : e' = .error c := hout
    rw [run_bind, hr]
    exact ⟨rfl, hsame, fun a h => by cases h⟩
  | ok a =>
    obtain ⟨e, hf⟩ := hf a
    refine ⟨e, fun o s hs => ?_⟩
    obtain ⟨hout, hsame, hplace⟩ := hw o s hs
    rcases hr : run w o s with ⟨e', s'⟩
    rw [hr] at hout hsame hplace
    obtain rfl : e' = .ok a := hout
    obtain ⟨hout', hsame', hplace'⟩ := hf o s' (hplace a rfl)
    rw [run_bind_of_ok hr]
    exact ⟨hout', hsame.trans hsame', hplace'⟩

theorem settled_ite {c : Prop} [Decidable c] {w w' : Walker α} (h : Settled camel inner w)
    (h' : Settled camel inner w') : Settled camel inner (if c then w else w') := by
  split_ifs
  · exact h
  · exact h'

theorem settled_guard {c : Prop} [Decidable c] {e : Cause} {f : Unit → Walker α}
    (hf : Settled camel inner (f ())) :
    Settled camel inner (if c then throw e >>= f else f ()) :=
  settled_ite (settled_of_eq (.error e) fun _ _ _ => rfl) hf

theorem settled_need (e : Except Cause α) : Settled camel inner (need e) := by
  cases e with
  | ok a => exact settled_pure a
  | error c => exact settled_throw c

theorem settled_mapM {f : α → Walker β} (hf : ∀ a, Settled camel inner (f a)) (as : List α) :
    Settled camel inner (as.mapM f) := by
  induction as with
  | nil => exact settled_pure _
  | cons a as ih =>
    rw [List.mapM_cons]
    exact settled_bind (hf a) fun b => settled_bind ih fun bs => settled_pure _

theorem settled_gather {f : α → Walker (List Piece)} {as : List α}
    (hf : ∀ a ∈ as, Settled camel inner (f a)) : Settled camel inner (gather f as) := by
  induction as with
  | nil => exact settled_pure _
  | cons a as ih =>
    refine settled_bind (hf a (by simp)) fun ps => ?_
    exact settled_bind (ih fun b hb => hf b (by simp [hb])) fun qs => settled_pure _

theorem settled_child (cs : List Piece) (i : Nat) : Settled camel inner (child cs i) := by
  unfold child
  split
  · exact settled_pure _
  · exact settled_throw _

theorem settled_given (t : Tree) : Settled camel inner (given t) := by
  unfold given
  split
  · exact settled_throw _
  · exact settled_pure _

theorem settled_operatorOf (t : Tree) : Settled camel inner (operatorOf t) := by
  refine settled_bind (settled_given t) fun t => ?_
  split <;> exact settled_pure _

theorem settled_atomField (t : Tree) : Settled camel inner (atomField t) := by
  unfold atomField
  split
  · exact settled_throw _
  all_goals exact settled_pure _

/-- Of the options, names depend on the one for camel case. -/
theorem settled_sourceName (p : Piece) : Settled camel inner (sourceName p) := by
  have hread : Settled camel inner (do return (← read).camelCase : Walker Bool) := by
    refine settled_of_eq (.ok camel) fun o s hs => ?_
    rw [run_bind_of_ok run_read, hs.camel, run_pure]
  have hname : ∃ cased : Walker Piece, (∀ camel inner, Settled camel inner cased) ∧ sourceName p = (do
      let c ← (do return (← read).camelCase : Walker Bool)
      if c then cased else return identifier p) := by
    refine ⟨_, fun camel inner => ?_, rfl⟩
    split
    · exact settled_pure _
    · exact settled_throw _
  obtain ⟨cased, hcased, heq⟩ := hname
  rw [heq]
  exact settled_bind hread fun c => settled_ite (hcased _ _) (settled_pure _)

/-- Of the operators that are open, parentheses depend on whether there is one. -/
theorem settled_grouped (p : Piece) : Settled camel inner (grouped p) := by
  have hopen : Settled camel inner inOperator := by
    refine settled_of_eq (.ok inner) fun o s hs => ?_
    change (Except.ok (!s.operators.isEmpty), s) = _
    rw [hs.inner, Bool.not_not]
  exact settled_bind hopen fun _ => settled_ite (settled_pure _) (settled_pure _)

theorem settled_functionOf (params body : Seq) : Settled camel inner (functionOf params body) :=
  settled_bind (settled_need _) fun _ => settled_pure _

end Steps

/-! Rules -/

/-- Classes of nodes in expressions, list comprehensions aside. -/
def isExpressionPart : Kind → Bool
  | .listComp => false
  | .op _ | .use _ | .slice | .index | .extSlice | .comprehension | .arguments | .arg | .keyword => true
  | k => isExpressionKind k

section Rules

variable {camel inner : Bool}

theorem settled_operatorRule (op : Op) : Settled camel inner (operatorRule op) := by
  unfold operatorRule
  split <;> exact settled_pure _

theorem settled_binaryRule (op : Tree) (cs : List Piece) : Settled camel inner (binaryRule op cs) := by
  refine settled_bind (settled_operatorOf op) fun b => ?_
  have two (f : Piece → Piece → Piece) :
      Settled camel inner (do return f (← child cs 0) (← child cs 1)) :=
    settled_bind (settled_child cs 0) fun _ => settled_bind (settled_child cs 1) fun _ =>
      settled_pure _
  split
  · exact two _
  · exact two _
  · split
    · exact two _
    · exact settled_bind (settled_child cs 1) fun _ => settled_bind (settled_child cs 0) fun _ =>
        settled_bind (settled_child cs 2) fun _ => settled_grouped _

theorem settled_nameRule (id : Tree) : Settled camel inner (nameRule id) := by
  refine settled_bind (settled_atomField id) fun v => ?_
  split
  · exact settled_pure _
  · exact settled_pure _
  · exact settled_pure _
  · exact settled_sourceName _

theorem settled_callRule (func : Tree) (cs : List Piece) :
    Settled camel inner (callRule func cs) := by
  refine settled_bind (settled_given func) fun t => ?_
  split <;> exact settled_bind (settled_child cs 0) fun _ => settled_pure _

theorem settled_dictRule (cs : List Piece) : Settled camel inner (dictRule cs) := by
  refine settled_bind (settled_mapM (fun e => ?_) _) fun _ => settled_pure _
  exact settled_bind (settled_need _) fun _ => settled_bind (settled_sourceName _) fun _ =>
    settled_pure _

/-- The bounds of a slice are walked again at the level of the subscript. -/
theorem settled_subscriptRule {slice : Branch} (hs : slice.All (Settled camel inner))
    (cs : List Piece) : Settled camel inner (subscriptRule slice cs) := by
  refine settled_bind (settled_child cs 0) fun target => ?_
  refine settled_bind (settled_given slice.tree) fun t => ?_
  split
  · next lower upper step hp =>
    have hl : lower.All (Settled camel inner) := hs.parts _ (by rw [hp]; simp)
    have hu : upper.All (Settled camel inner) := hs.parts _ (by rw [hp]; simp)
    have rest (low : Piece) : Settled camel inner (do
        let high ← if upper.tree.isTruthy then do pure [← upper.again] else pure []
        return callOf (dot target "slice") (low :: high)) :=
      settled_ite (settled_bind hu.again fun _ => settled_pure _) (settled_pure _)
    exact settled_guard (settled_ite (settled_bind hl.again rest) (rest _))
  · exact settled_bind (settled_child cs 1) fun _ => settled_pure _

theorem settled_fieldRule {k : Kind} (hk : isExpressionPart k = true) (fs : List Tree)
    (cs : List Piece) : Settled camel inner (fieldRule k fs cs) := by
  unfold fieldRule
  split <;> first | cases hk | skip
  · exact settled_operatorRule _
  · exact settled_bind (settled_operatorOf _) fun _ => settled_bind (settled_child cs 0) fun _ =>
      settled_pure _
  · exact settled_binaryRule _ _
  · exact settled_bind (settled_child cs 0) fun _ => settled_bind (settled_child cs 1) fun _ =>
      settled_bind (settled_child cs 2) fun _ => settled_grouped _
  · exact settled_bind (settled_child cs 1) fun _ => settled_bind (settled_child cs 0) fun _ =>
      settled_bind (settled_child cs 2) fun _ => settled_pure _
  · refine settled_bind (settled_atomField _) fun v => ?_
    split
    · exact settled_throw _
    · exact settled_pure _
  · exact settled_bind (settled_atomField _) fun _ => settled_pure _
  · exact settled_nameRule _
  · exact settled_callRule _ _
  · exact settled_bind (settled_child cs 0) fun _ => settled_bind (settled_atomField _) fun _ =>
      settled_bind (settled_sourceName _) fun _ => settled_pure _
  · exact settled_child _ _
  · exact settled_pure _
  · exact settled_pure _
  · exact settled_dictRule _
  · exact settled_bind (settled_child cs 0) fun _ => settled_functionOf _ _
  · exact settled_pure _
  · exact settled_bind (settled_atomField _) fun _ => settled_sourceName _
  · exact settled_pure _

theorem settled_rule {k : Kind} (hk : isExpressionPart k = true) {ws : List Branch}
    (hw : ∀ w ∈ ws, w.All (Settled camel inner)) (cs : List Piece) :
    Settled camel inner (rule k ws cs) := by
  unfold rule
  split
  · exact settled_subscriptRule (hw _ (by simp)) _
  · cases hk
  · exact settled_fieldRule hk _ _

end Rules

/-! Nodes and trees -/

theorem Place.entered {camel inner : Bool} {o : Options} {k : Kind} {s s1 : State}
    (h : Place camel inner o s) (he : Entered k s s1) : Place camel (opensOperator k || inner) o s1 := by
  refine ⟨h.camel, he.ready h.ready, ?_⟩
  rw [he.operators]
  cases opensOperator k with
  | true => rfl
  | false => exact h.inner

theorem Place.of_kept {camel inner : Bool} {o : Options} {s s' : State} {ps : List Piece}
    (h : Place camel inner o s) (hk : Kept s s' ps) : Place camel inner o s' :=
  ⟨h.camel, hk.ready h.ready, by rw [hk.operators, h.inner]⟩

theorem Untouched.of_entered {k : Kind} {s s1 : State} (hk : opensScope k = false)
    (he : Entered k s s1) : Untouched s s1 :=
  ⟨by rw [he.scope, hk]; rfl, he.globalName, he.newName⟩

section Trees

variable {camel inner : Bool}

/-- Once the fields have given their results, a node goes on with its rule. -/
theorem run_visitNode_fields {k : Kind} {ws : List Branch} (hw : ∀ w ∈ ws, w.All (Adds spliced))
    {o : Options} {s s1 s2 : State} {cs : List Piece} (hs : Ready s) (he : Entered k s s1)
    (henter : run (enterNode k ws) o s = (.ok (), s1))
    (hg : run (gather resultsOf ws) o s1 = (.ok cs, s2)) :
    run (visitNode k ws) o s =
        run (rule k ws cs >>= closeNode (closeLevelOr (pure ())) k) o (s.fieldsLeft s2).touched ∧
      AtRule k s (s.fieldsLeft s2).touched cs := by
  have h2 : Kept s1 s2 cs :=
    adds_gather (fun w hm => adds_resultsOf (hw w hm)) o s1 cs s2 (he.ready hs) hg
  refine ⟨?_, atRule_of_entered hs he h2⟩
  rw [(run_visitNode hw hs (pure ())).1, plainNode, run_bind_of_ok henter, run_bind_of_ok hg,
    run_bind_of_ok (run_leaveFields he h2 (.inr ⟨_, rfl⟩) o), run_bind_of_ok (run_children o _)]
  rfl

/-- A node comes out as its fields and its rule do. The operands of an operator are walked inside
it, the rule outside again. -/
theorem settled_visitNode {k : Kind} (hk : opensScope k = false) {ws : List Branch}
    (hw : ∀ w ∈ ws, w.All (Adds spliced))
    (hfields : Settled camel (opensOperator k || inner) (gather resultsOf ws))
    (hrule : ∀ cs, Settled camel inner (rule k ws cs)) : Settled camel inner (visitNode k ws) := by
  by_cases hread : isReadable k ws = true
  · obtain ⟨e, hfields⟩ := hfields
    have hstart : ∀ o s, ∃ s1, Entered k s s1 ∧ run (enterNode k ws) o s = (.ok (), s1) := by
      intro o s
      obtain ⟨s1, he, hr⟩ := run_enterNode k ws o s
      exact ⟨s1, he, by rw [hr, if_pos hread]⟩
    cases e with
    | error c =>
      refine ⟨.error c, fun o s hs => ?_⟩
      obtain ⟨s1, he, henter⟩ := hstart o s
      obtain ⟨hout, hsame, -⟩ := hfields o s1 (hs.entered he)
      rcases hg : run (gather resultsOf ws) o s1 with ⟨e', s2⟩
      rw [hg] at hout hsame
      obtain rfl : e' = .error c := hout
      rw [(run_visitNode hw hs.ready (pure ())).1, plainNode, run_bind_of_ok henter, run_bind, hg]
      exact ⟨rfl, (Untouched.of_entered hk he).trans hsame, fun a h => by cases h⟩
    | ok cs =>
      obtain ⟨e, hrule⟩ := hrule cs
      refine ⟨e, fun o s hs => ?_⟩
      obtain ⟨s1, he, henter⟩ := hstart o s
      obtain ⟨hout, hsame, -⟩ := hfields o s1 (hs.entered he)
      rcases hg : run (gather resultsOf ws) o s1 with ⟨e', s2⟩
      rw [hg] at hout hsame
      obtain rfl : e' = .ok cs := hout
      obtain ⟨hrun, hat⟩ := run_visitNode_fields hw hs.ready he henter hg
      have hsame : Untouched s (s.fieldsLeft s2).touched :=
        ((Untouched.of_entered hk he).trans hsame).trans ⟨rfl, rfl, rfl⟩
      obtain ⟨hout, hsame', -⟩ := hrule o _ ⟨hs.camel, hat.ready hs.ready, hs.inner⟩
      rw [hrun]
      rcases hr : run (rule k ws cs) o (s.fieldsLeft s2).touched with ⟨c | p, s3⟩
      · rw [hr] at hout hsame'
        rw [run_bind, hr]
        exact ⟨hout, hsame.trans hsame', fun a h => by rw [← hout] at h; cases h⟩
      rw [hr] at hout hsame'
      obtain ⟨ps, h3⟩ := kept_rule hw (hat.ready hs.ready) hr
      have hl : 0 < s3.levels.level := by
        have h0 := hs.ready.level
        have h1 : s3.levels.level = s.levels.level + 1 := by
          rw [h3.level, ← hat.level]
          split_ifs <;> rfl
        omega
      obtain ⟨tr, hclose⟩ := run_closeNode hl k p o
      rw [run_bind_of_ok hr, hclose _ (.inr ⟨_, rfl⟩)]
      exact ⟨hout, hsame.trans (hsame'.trans ⟨rfl, rfl, rfl⟩), fun _ _ => hs.of_kept (hat.kept h3 p tr)⟩
  · refine ⟨.error .missingAttribute, fun o s hs => ?_⟩
    obtain ⟨s1, he, henter⟩ := run_enterNode k ws o s
    rw [if_neg hread] at henter
    rw [(run_visitNode hw hs.ready (pure ())).1, plainNode, run_bind, henter]
    exact ⟨rfl, (Untouched.of_entered hk he).trans ⟨rfl, rfl, rfl⟩, fun a h => by cases h⟩

theorem settled_visitOther (t : Tree) : Settled camel inner (visitOther t) := by
  refine ⟨.error .missingAttribute, fun o s hs => ?_⟩
  obtain ⟨tr, htr⟩ := run_say ("enter: " ++ shownTree t) o { s with levels := s.levels.up }
  have hopen : run openLevel o s = (.ok (), { s with levels := s.levels.up }) := rfl
  have hdeeper (s : State) : run deeper o s = (.ok (), { s with depth := s.depth + 1 }) := rfl
  unfold visitOther
  rw [run_bind_of_ok hopen, run_bind_of_ok htr, run_bind_of_ok (hdeeper _)]
  exact ⟨rfl, ⟨rfl, rfl, rfl⟩, fun a h => by cases h⟩

theorem settled_resultsOf {w : Branch} (hw : w.All (Settled camel inner)) :
    Settled camel inner (resultsOf w) := by
  have hone {v : Branch} (hv : v.All (Settled camel inner)) : Settled camel inner (resultOf v) :=
    settled_bind hv.again fun _ => settled_pure _
  unfold resultsOf
  split
  · exact hone hw
  · exact settled_gather fun v hv => settled_ite (hone (hw.parts v hv)) (settled_pure _)
  · exact settled_pure _

end Trees

mutual

/-- Whether a tree is made of the classes of nodes of expressions, list comprehensions aside. -/
def isExpression : Tree → Bool
  | .node k fs => isExpressionPart k && areExpressions fs
  | .list ts => areExpressions ts
  | _ => true

def areExpressions : List Tree → Bool
  | [] => true
  | t :: ts => isExpression t && areExpressions ts

end

theorem isExpression_node {k : Kind} {fs : List Tree} (h : isExpression (.node k fs) = true) :
    isExpressionPart k = true ∧ areExpressions fs = true :=
  Bool.and_eq_true_iff.1 h

theorem isExpression_of_mem {ts : List Tree} (h : areExpressions ts = true) {t : Tree} (ht : t ∈ ts) :
    isExpression t = true := by
  induction ts with
  | nil => cases ht
  | cons u ts ih =>
    obtain ⟨hu, hts⟩ := Bool.and_eq_true_iff.1 h
    rcases List.mem_cons.1 ht with rfl | ht
    · exact hu
    · exact ih hts ht

/-- All walks in an expression are settled, whether an operator is open or not: the fields of one
node are walked in both ways, as operands and again by the rule of a slice. -/
theorem walk_settled {t : Tree} (ht : isExpression t = true) (camel : Bool) :
    (walk t).All fun w => ∀ inner, Settled camel inner w := by
  induction t using tree_induction with
  | missing => exact .mk (fun _ => settled_throw _) (by simp)
  | atom a => exact .mk (fun _ => settled_visitOther _) (by simp)
  | list ts ih =>
    exact .mk (fun _ => settled_visitOther _)
      (forall_walkAll fun t hm => ih t hm (isExpression_of_mem ht hm))
  | node k fs ih =>
    obtain ⟨hk, hfs⟩ := isExpression_node ht
    have hw := forall_walkAll fun t hm => ih t hm (isExpression_of_mem hfs hm)
    have hin (inner : Bool) : ∀ w ∈ walkAll fs, w.All (Settled camel inner) :=
      fun w hm => (hw w hm).mono fun _ h => h inner
    have hopens : opensScope k = false := by cases k <;> first | rfl | cases hk
    refine .mk (fun inner => settled_visitNode hopens ?_ ?_ ?_) hw
    · exact forall_walkAll fun t _ => walk_adds t
    · exact settled_gather fun w hm => settled_resultsOf (hin _ w hm)
    · exact settled_rule hk (hin inner)

theorem settled_visit {t : Tree} (ht : isExpression t = true) {camel inner : Bool} :
    Settled camel inner (visit t) :=
  (walk_settled ht camel).again inner

/-! Slices -/

/-- The bounds of a slice, as one walk over each gives them. -/
def sliceBounds (lower upper : Tree) : Walker (List Piece) := do
  let low ← if lower.isTruthy then visit lower else pure (leaf .number "0")
  let high ← if upper.isTruthy then do pure [← visit upper] else pure []
  return low :: high

section Slices

variable {camel inner : Bool} {lower upper : Tree} (hl : isExpression lower = true)
  (hu : isExpression upper = true)
include hl hu

theorem settled_sliceBounds : Settled camel inner (sliceBounds lower upper) := by
  have rest (low : Piece) : Settled camel inner (do
      let high ← if upper.isTruthy then do pure [← visit upper] else pure []
      return low :: high) :=
    settled_ite (settled_bind (settled_visit hu) fun _ => settled_pure _) (settled_pure _)
  exact settled_ite (settled_bind (settled_visit hl) rest) (rest _)

omit hl hu in
/-- The rule of a subscript walks the bounds after the fields have been walked, so for the second
time. -/
theorem subscriptRule_slice (step : Tree) (cs : List Piece) :
    subscriptRule (walk (.node .slice [lower, upper, step])) cs = (do
      let target ← child cs 0
      if step.isTruthy then throw .steppedSlice
      let bounds ← sliceBounds lower upper
      return callOf (dot target "slice") bounds) := by
  change (child cs 0 >>= fun target => (if (walk step).tree.isTruthy then _ else
    if (walk lower).tree.isTruthy then visit lower >>= fun low =>
      if (walk upper).tree.isTruthy then _ else _ else _)) = _
  rw [walk_tree, walk_tree, walk_tree]
  unfold sliceBounds
  congr 1
  funext target
  split_ifs <;> simp only [bind_assoc, pure_bind] <;> rfl

/-- The bounds that a slice is given are those that one walk over them would have given when the
subscript was entered. -/
theorem sliced_bounds {v step use : Tree} {o : Options} {s s' : State} {p : Piece}
    (hs : Place camel inner o s)
    (h : run (visit (.node .subscript [v, .node .slice [lower, upper, step], use])) o s = (.ok p, s')) :
    ∃ target bounds, p = callOf (dot target "slice") bounds ∧
      (run (sliceBounds lower upper) o s).1 = .ok bounds := by
  obtain ⟨r, hr, hp⟩ := exists_record h
  obtain ⟨s1, s2, s3, rss, he, hs1, hfields, hrule, -, -⟩ := run_record hs.ready hr
  have hk2 := adds_recordFields (fun t _ => adds_recordsOf t) o s1 rss s2 hs1 hfields
  have hat := atRule_of_entered hs.ready he hk2
  have hplace : Place camel inner o (s.fieldsLeft s2).touched :=
    ⟨hs.camel, hat.ready hs.ready, hs.inner⟩
  rw [hp] at hrule
  change run (subscriptRule (walk _) _) o _ = _ at hrule
  rw [subscriptRule_slice] at hrule
  obtain ⟨target, s4, h4, hrule⟩ := run_bind_ok hrule
  have hplace := (settled_child _ 0).place hplace h4
  split_ifs at hrule
  · cases hrule
  obtain ⟨bounds, s5, h5, hrule⟩ := run_bind_ok hrule
  cases hrule
  refine ⟨target, bounds, rfl, ?_⟩
  rw [(settled_sliceBounds hl hu).alike hs hplace, h5]

end Slices

/-- From a ready state, walking an expression without list comprehensions touches no name, and what
comes of it, a piece or a failure, depends on the expression, on whether names are put in camel case
and on whether an operator is open. So walking it a second time gives the same piece and touches no
name either, and the bounds of a slice, walked twice, are as one walk over them gives them. -/
theorem expression_walk_pure {t : Tree} (ht : isExpression t = true) :
    (∀ o s, Ready s → Untouched s (run (visit t) o s).2) ∧
    (∀ o o' s s', Ready s → Ready s' → o.camelCase = o'.camelCase →
      s.operators.isEmpty = s'.operators.isEmpty → (run (visit t) o s).1 = (run (visit t) o' s').1) ∧
    (∀ o s p s', Ready s → run (visit t) o s = (.ok p, s') →
      ∃ s'', run (visit t) o s' = (.ok p, s'') ∧ Untouched s s'' ∧ Kept s' s'' (spliced p)) ∧
    (∀ v lower upper step use, t = .node .subscript [v, .node .slice [lower, upper, step], use] →
      ∀ o s p s', Ready s → run (visit t) o s = (.ok p, s') →
        ∃ target bounds, p = callOf (dot target "slice") bounds ∧
          (run (sliceBounds lower upper) o s).1 = .ok bounds) := by
  have hplace (o : Options) {s : State} (hs : Ready s) :
      Place o.camelCase (!s.operators.isEmpty) o s := ⟨rfl, hs, (Bool.not_not _).symm⟩
  refine ⟨fun o s hs => ?_, fun o o' s s' hs hs' hc hop => ?_, fun o s p s' hs h => ?_, ?_⟩
  · exact (settled_visit ht).untouched (hplace o hs)
  · have hs' := hplace o' hs'
    rw [← hc, ← hop] at hs'
    exact (settled_visit ht).alike (hplace o hs) hs'
  · have hs' := (settled_visit ht).place (hplace o hs) h
    have hsame := (settled_visit ht).untouched (hplace o hs)
    have hsame' := (settled_visit ht).untouched hs'
    have hagain := (settled_visit ht).alike (hplace o hs) hs'
    rcases h' : run (visit t) o s' with ⟨e, s''⟩
    rw [h, h'] at hagain
    rw [h] at hsame
    rw [h'] at hsame'
    obtain rfl : .ok p = e := hagain
    exact ⟨s'', rfl, hsame.trans hsame', (walk_adds t).again o s' p s'' hs'.ready h'⟩
  · rintro v lower upper step use rfl o s p s' hs h
    have hslice : isExpression (.node .slice [lower, upper, step]) = true :=
      isExpression_of_mem (isExpression_node ht).2 (by simp)
    have hbounds := (isExpression_node hslice).2
    exact sliced_bounds (isExpression_of_mem hbounds (by simp)) (isExpression_of_mem hbounds (by simp))
      (hplace o hs) h

/-- The rows from a product on, whose factors are parted by an operator of their own. -/
def laterRows : Tree :=
  .node .subscript [nameNode "all_rows",
    .node .slice [
      .node .binOp [nameNode "page", .node (.op .mult) [],
        .node .binOp [nameNode "size", .node (.op .add) [], nameNode "head"]],
      .none, .none],
    .node (.use .load) []]

/-- In an operand of the body of a function that binds some of the names. -/
def inOperand : State where
  operators := ⟨[.boolOp]⟩
  scope := { outer := [[⟨some "size", word "size"⟩]] }
  globalName := some "page"

theorem laterRows_pure : isExpression laterRows = true ∧ Ready inOperand ∧
    ∃ p s', run (visit laterRows) {} inOperand = (.ok p, s') ∧ Untouched inOperand s' ∧
      (run (visit laterRows) {} s').1 = .ok p ∧
      (run (visit laterRows) { closure := true, debug := true } { operators := ⟨[.binOp, .binOp]⟩ }).1 =
        .ok p ∧
      ∃ target bounds, p = callOf (dot target "slice") bounds := by
  have ht : isExpression laterRows = true := by decide
  have hs : Ready inOperand := ⟨by decide, fun _ _ => rfl⟩
  have hok : (run (visit laterRows) {} inOperand).1.isOk = true := by decide +kernel
  obtain ⟨hsame, halike, hagain, hslice⟩ := expression_walk_pure ht
  rcases hr : run (visit laterRows) {} inOperand with ⟨c | p, s'⟩
  · rw [hr] at hok
    cases hok
  obtain ⟨s'', hr', -⟩ := hagain _ _ p s' hs hr
  obtain ⟨target, bounds, hp, -⟩ := hslice _ _ _ _ _ rfl _ _ p s' hs hr
  refine ⟨ht, hs, p, s', rfl, ?_, by rw [hr'], ?_, target, bounds, hp⟩
  · simpa only [hr] using hsame {} inOperand hs
  · have hother := halike { closure := true, debug := true } {} { operators := ⟨[.binOp, .binOp]⟩ }
      inOperand ⟨by decide, fun _ _ => rfl⟩ hs rfl rfl
    rw [hother, hr]

end Transpile.Walk
