import Transpile.Proofs.Discipline

/-! Walks that cannot fail. A walk leads from one condition on names to another if every run of it from
a ready state with the first, with given operators open, succeeds with a result as described and leaves
such a state with the second; where both are the same it gives the result. A node gives what its rule
makes of the results of its fields. -/

namespace Transpile.Walk

open Script Source

/-- A condition on names and scopes only. -/
structure Stable (I : State → Prop) : Prop where
  congr : ∀ {s s'}, I s → s'.scope = s.scope → s'.globalName = s.globalName →
    s'.newName = s.newName → I s'

/-- A condition on names and scopes that entering a scope keeps. -/
structure Invariant (I : State → Prop) : Prop where
  congr : ∀ {s s'}, I s → s'.scope = s.scope → s'.globalName = s.globalName →
    s'.newName = s.newName → I s'
  enter : ∀ {s}, I s → I { s with scope := s.scope.enter }

theorem Invariant.stable {I : State → Prop} (h : Invariant I) : Stable I := ⟨h.congr⟩

theorem Stable.entered {I : State → Prop} (hI : Stable I) {k : Kind} (hk : opensScope k = false)
    {s s' : State} (he : Entered k s s') (h : I s) : I s' := by
  have hsc := he.scope
  rw [hk] at hsc
  exact hI.congr h hsc he.globalName he.newName

theorem Invariant.entered {I : State → Prop} (hI : Invariant I) {k : Kind} {s s' : State}
    (he : Entered k s s') (h : I s) : I s' := by
  have hsc := he.scope
  split_ifs at hsc
  · exact hI.congr (hI.enter h) hsc he.globalName he.newName
  · exact hI.congr h hsc he.globalName he.newName

theorem stable_true : Stable fun _ => True := ⟨fun _ _ _ _ => trivial⟩

structure Holding (I : State → Prop) (ops : Stack Kind) (s : State) : Prop where
  ready : Ready s
  names : I s
  operators : s.operators = ops

section Steps

variable {α β : Type} {o : Options} {I J K : State → Prop} {ops : Stack Kind}

def Leads (o : Options) (I J : State → Prop) (ops : Stack Kind) (w : Walker α) (Q : α → Prop) : Prop :=
  ∀ s, Holding I ops s → ∃ a s', run w o s = (.ok a, s') ∧ Holding J ops s' ∧ Q a

theorem Leads.mono {w : Walker α} {P Q : α → Prop} (h : Leads o I J ops w P) (hpq : ∀ a, P a → Q a) :
    Leads o I J ops w Q := by
  intro s hs
  obtain ⟨a, s', hr, hs', ha⟩ := h s hs
  exact ⟨a, s', hr, hs', hpq a ha⟩

theorem leads_bind {w : Walker α} {f : α → Walker β} {P : α → Prop} {Q : β → Prop}
    (hw : Leads o I J ops w P) (hf : ∀ a, P a → Leads o J K ops (f a) Q) :
    Leads o I K ops (w >>= f) Q := by
  intro s hs
  obtain ⟨a, s', hr, hs', ha⟩ := hw s hs
  obtain ⟨b, s'', hr', hs'', hb⟩ := hf a ha s' hs'
  exact ⟨b, s'', (run_bind_of_ok hr f).trans hr', hs'', hb⟩

def Gives (o : Options) (I : State → Prop) (ops : Stack Kind) (w : Walker α) (Q : α → Prop) : Prop :=
  Leads o I I ops w Q

theorem Gives.mono {w : Walker α} {P Q : α → Prop} (h : Gives o I ops w P) (hpq : ∀ a, P a → Q a) :
    Gives o I ops w Q :=
  Leads.mono h hpq

theorem Gives.and {w : Walker α} {P Q : α → Prop} (h : Gives o I ops w P) (h' : Gives o I ops w Q) :
    Gives o I ops w fun a => P a ∧ Q a := by
  intro s hs
  obtain ⟨a, s', hr, hs', ha⟩ := h s hs
  obtain ⟨b, s'', hr', -, hb⟩ := h' s hs
  rw [hr] at hr'
  cases hr'
  exact ⟨a, s', hr, hs', ha, hb⟩

theorem gives_pure {a : α} {Q : α → Prop} (h : Q a) : Gives o I ops (pure a) Q :=
  fun s hs => ⟨a, s, rfl, hs, h⟩

theorem gives_bind {w : Walker α} {f : α → Walker β} {P : α → Prop} {Q : β → Prop}
    (hw : Gives o I ops w P) (hf : ∀ a, P a → Gives o I ops (f a) Q) :
    Gives o I ops (w >>= f) Q :=
  leads_bind hw hf

/-- A step whose result is known. -/
theorem gives_bind_eq {w : Walker α} {f : α → Walker β} {a : α} {Q : β → Prop}
    (hw : Gives o I ops w (· = a)) (hf : Gives o I ops (f a) Q) : Gives o I ops (w >>= f) Q :=
  gives_bind hw fun _ h => h ▸ hf

theorem gives_read : Gives o I ops read (· = o) := fun s hs => ⟨o, s, rfl, hs, rfl⟩

theorem gives_need {a : α} : Gives o I ops (need (.ok a)) (· = a) := gives_pure rfl

theorem gives_child {cs : List Piece} {i : Nat} {p : Piece} (h : cs[i]? = some p) :
    Gives o I ops (child cs i) (· = p) := by
  rw [child, h]
  exact gives_pure rfl

theorem gives_given {t : Tree} (h : t ≠ .missing) : Gives o I ops (given t) (· = t) := by
  unfold given
  split
  · exact absurd rfl h
  · exact gives_pure rfl

theorem gives_sizeOfField (ts : List Tree) :
    Gives o I ops (sizeOfField (.list ts)) (· = ts.length) := gives_pure rfl

theorem gives_operatorOf (op : Op) (fs : List Tree) :
    Gives o I ops (operatorOf (.node (.op op) fs)) (· = some op) := gives_pure rfl

theorem gives_atomField (a : Atom) : Gives o I ops (atomField (.atom a)) (· = .atom a) :=
  gives_pure rfl

/-- No run from such a state succeeds. -/
def Refuses (o : Options) (I : State → Prop) (ops : Stack Kind) (w : Walker α) : Prop :=
  ∀ s, Holding I ops s → ∀ a s', run w o s ≠ (.ok a, s')

theorem refuses_bind {w : Walker α} {f : α → Walker β} {P : α → Prop} (hw : Leads o I J ops w P)
    (hf : ∀ a, P a → Refuses o J ops (f a)) : Refuses o I ops (w >>= f) := by
  intro s hs b s'' hr
  obtain ⟨a, s', hw, hs', ha⟩ := hw s hs
  rw [run_bind_of_ok hw] at hr
  exact hf a ha s' hs' b s'' hr

theorem Refuses.bind {w : Walker α} (h : Refuses o I ops w) (f : α → Walker β) :
    Refuses o I ops (w >>= f) := by
  intro s hs b s'' hr
  obtain ⟨a, s', hw, -⟩ := run_bind_ok hr
  exact h s hs a s' hw

theorem refuses_child {cs : List Piece} {i : Nat} (h : cs[i]? = none) (f : Piece → Walker β) :
    Refuses o I ops (child cs i >>= f) := by
  intro s _ a s' hr
  rw [child, h] at hr
  cases hr

/-- A name as the options want it. -/
def nameIn (o : Options) (s : String) : String := if o.camelCase then Text.camel s else s

theorem gives_sourceName (s : String) :
    Gives o I ops (sourceName (.text s)) (· = word (nameIn o s)) := by
  refine gives_bind_eq gives_read ?_
  unfold nameIn
  split_ifs <;> exact gives_pure rfl

/-- Parentheses if asked for. -/
def wrapped (inner : Bool) (p : Piece) : Piece := if inner then p.inParens else p

theorem gives_grouped (p : Piece) : Gives o I ops (grouped p) (· = wrapped (!ops.isEmpty) p) := by
  have hin : Gives o I ops inOperator (· = !ops.isEmpty) :=
    fun s hs => ⟨!s.operators.isEmpty, s, rfl, hs, by rw [hs.operators]⟩
  refine gives_bind_eq hin ?_
  cases ops.isEmpty <;> exact gives_pure rfl

end Steps

/-! A node -/

section Node

variable {o : Options} {I I' J J' : State → Prop} {ops : Stack Kind}

/-- The operators that are open in the fields of a node. -/
def opened (k : Kind) (ops : Stack Kind) : Stack Kind :=
  if opensOperator k then ops.push k else ops

theorem Holding.entered {k : Kind} {s s' : State} (hs : Holding I ops s) (he : Entered k s s')
    (hnames : I' s') : Holding I' (opened k ops) s' :=
  ⟨he.ready hs.ready, hnames, by rw [he.operators, hs.operators, opened]⟩

section

variable {k : Kind} {fs : List Tree} (henter : ∀ s s', Entered k s s' → I s → I' s')
include henter

/-- The fields of a node are walked, and then the rule is run on their results. -/
theorem reaches_rule (hJ : Stable J) (hread : isReadable k (walkAll fs) = true)
    {P : List Piece → Prop}
    (hfields : Leads o I' J (opened k ops) (gather resultsOf (walkAll fs)) P) {s : State}
    (hs : Holding I ops s) : ∃ cs s', P cs ∧ AtRule k s s' cs ∧ Holding J ops s' ∧
      run (visit (.node k fs)) o s = run (do
        let p ← rule k (walkAll fs) cs
        closeNode (closeLevelOr (pure ())) k p) o s' := by
  have hw : ∀ w ∈ walkAll fs, w.All (Adds spliced) := forall_walkAll fun t _ => walk_adds t
  obtain ⟨s1, he, hr1⟩ := run_enterNode k (walkAll fs) o s
  rw [if_pos hread] at hr1
  have h1 : Holding I' (opened k ops) s1 := hs.entered he (henter s s1 he hs.names)
  obtain ⟨cs, s2, hr2, h2, hP⟩ := hfields s1 h1
  have hk2 : Kept s1 s2 cs :=
    adds_gather (fun w hm => adds_resultsOf (hw w hm)) o s1 cs s2 h1.ready hr2
  have hat := atRule_of_entered hs.ready he hk2
  refine ⟨cs, (s.fieldsLeft s2).touched, hP, hat,
    ⟨hat.ready hs.ready, hJ.congr h2.names rfl rfl rfl, hs.operators⟩, ?_⟩
  have hch := run_children o (s.fieldsLeft s2)
  rw [show visit (.node k fs) = visitNode k (walkAll fs) from rfl,
    (run_visitNode hw hs.ready (pure ())).1, plainNode, run_bind_of_ok hr1, run_bind_of_ok hr2,
    run_bind_of_ok (run_leaveFields he hk2 (.inr ⟨_, rfl⟩) o), run_bind_of_ok hch]
  rfl

theorem leads_visit (hJ : Stable J) (hJ' : Stable J') (hread : isReadable k (walkAll fs) = true)
    {P : List Piece → Prop} {Q : Piece → Prop}
    (hfields : Leads o I' J (opened k ops) (gather resultsOf (walkAll fs)) P)
    (hrule : ∀ cs, P cs → Leads o J J' ops (rule k (walkAll fs) cs) Q) :
    Leads o I J' ops (visit (.node k fs)) Q := by
  intro s hs
  have hw : ∀ w ∈ walkAll fs, w.All (Adds spliced) := forall_walkAll fun t _ => walk_adds t
  obtain ⟨cs, s2, hP, hat, h2, hvisit⟩ := reaches_rule henter hJ hread hfields hs
  obtain ⟨p, s3, hr3, h3, hQ⟩ := hrule cs hP s2 h2
  have hl : 0 < s3.levels.level := by
    obtain ⟨ps, hps⟩ := kept_rule hw (hat.ready hs.ready) hr3
    have h0 := hs.ready.level
    have hl1 : s3.levels.level = s.levels.level + 1 := by
      rw [hps.level, ← hat.level]
      split_ifs <;> rfl
    omega
  obtain ⟨tr, hclose⟩ := run_closeNode hl k p o
  have hrun : run (visit (.node k fs)) o s =
      (.ok p, { s3 with levels := closedLevels s3.levels p, trace := tr }) := by
    rw [hvisit]
    exact (run_bind_of_ok hr3 _).trans (hclose _ (.inr ⟨_, rfl⟩))
  refine ⟨p, _, hrun, ⟨?_, hJ'.congr h3.names rfl rfl rfl, h3.operators⟩, hQ⟩
  exact ((walk_adds _).again o s p _ hs.ready hrun).ready hs.ready

/-- A node whose fields can be walked and whose rule fails. -/
theorem refuses_visit (hJ : Stable J) (hread : isReadable k (walkAll fs) = true)
    {P : List Piece → Prop}
    (hfields : Leads o I' J (opened k ops) (gather resultsOf (walkAll fs)) P)
    (hrule : ∀ cs, P cs → Refuses o J ops (rule k (walkAll fs) cs)) :
    Refuses o I ops (visit (.node k fs)) := by
  intro s hs p s' hr
  obtain ⟨cs, s2, hP, -, h2, hvisit⟩ := reaches_rule henter hJ hread hfields hs
  rw [hvisit] at hr
  obtain ⟨q, s3, hrun, -⟩ := run_bind_ok hr
  exact hrule cs hP s2 h2 q s3 hrun

/-- A node whose fields cannot be walked. -/
theorem refuses_visit_of_fields
    (hfields : Refuses o I' (opened k ops) (gather resultsOf (walkAll fs))) :
    Refuses o I ops (visit (.node k fs)) := by
  intro s hs p s' hr
  have hw : ∀ w ∈ walkAll fs, w.All (Adds spliced) := forall_walkAll fun t _ => walk_adds t
  rw [show visit (.node k fs) = visitNode k (walkAll fs) from rfl,
    (run_visitNode hw hs.ready (pure ())).1, plainNode] at hr
  obtain ⟨_, s1, henters, hr⟩ := run_bind_ok hr
  obtain ⟨cs, s2, hgather, -⟩ := run_bind_ok hr
  obtain ⟨s1', he, hr1⟩ := run_enterNode k (walkAll fs) o s
  rw [hr1] at henters
  split_ifs at henters
  · cases henters
    exact hfields s1 (hs.entered he (henter s s1 he hs.names)) cs s2 hgather
  · cases henters

end

/-- A node that opens no scope. -/
theorem gives_visit (hI : Stable I) {k : Kind} {fs : List Tree} (hopens : opensScope k = false)
    (hread : isReadable k (walkAll fs) = true) {P : List Piece → Prop} {Q : Piece → Prop}
    (hfields : Gives o I (opened k ops) (gather resultsOf (walkAll fs)) P)
    (hrule : ∀ cs, P cs → Gives o I ops (rule k (walkAll fs) cs) Q) :
    Gives o I ops (visit (.node k fs)) Q :=
  leads_visit (fun _ _ he h => hI.entered hopens he h) hI hI hread hfields hrule

theorem walk_tree (t : Tree) : (walk t).tree = t := by
  cases t <;> rfl

theorem map_tree_walkAll (ts : List Tree) : (walkAll ts).map Branch.tree = ts := by
  rw [walkAll_eq, List.map_map]
  exact (List.map_congr_left fun t _ => walk_tree t).trans (List.map_id' ts)

/-- Classes whose rules see the fields as trees only. -/
def isSimple : Kind → Bool
  | .subscript | .listComp | .constant => false
  | _ => true

theorem rule_walkAll {k : Kind} (hk : isSimple k = true) (fs : List Tree) (cs : List Piece) :
    rule k (walkAll fs) cs = fieldRule k fs cs := by
  unfold rule
  split
  · cases hk
  · cases hk
  · rw [map_tree_walkAll]

theorem isReadable_of_isSimple {k : Kind} (hk : isSimple k = true) (ws : List Branch) :
    isReadable k ws = true := by
  unfold isReadable
  split
  · cases hk
  · rfl

theorem gives_node (hI : Stable I) {k : Kind} (hk : isSimple k = true) (hopens : opensScope k = false)
    {fs : List Tree} {P : List Piece → Prop} {Q : Piece → Prop}
    (hfields : Gives o I (opened k ops) (gather resultsOf (walkAll fs)) P)
    (hrule : ∀ cs, P cs → Gives o I ops (fieldRule k fs cs) Q) :
    Gives o I ops (visit (.node k fs)) Q := by
  refine gives_visit hI hopens (isReadable_of_isSimple hk _) hfields fun cs hcs => ?_
  rw [rule_walkAll hk]
  exact hrule cs hcs

/-- A node in whose fields a condition holds that entering a scope keeps. -/
theorem gives_scope (hI : Invariant I) {k : Kind} (hk : isSimple k = true) {fs : List Tree}
    {P : List Piece → Prop} {Q : Piece → Prop}
    (hfields : Gives o I (opened k ops) (gather resultsOf (walkAll fs)) P)
    (hrule : ∀ cs, P cs → Gives o I ops (fieldRule k fs cs) Q) :
    Gives o I ops (visit (.node k fs)) Q := by
  refine leads_visit (fun _ _ he h => hI.entered he h) hI.stable hI.stable
    (isReadable_of_isSimple hk _) hfields fun cs hcs => ?_
  rw [rule_walkAll hk]
  exact hrule cs hcs

/-- A node whose fields can be walked and whose rule fails. -/
theorem refuses_node (hI : Stable I) {k : Kind} (hk : isSimple k = true)
    (hopens : opensScope k = false) {fs : List Tree} {P : List Piece → Prop}
    (hfields : Gives o I (opened k ops) (gather resultsOf (walkAll fs)) P)
    (hrule : ∀ cs, P cs → Refuses o I ops (fieldRule k fs cs)) :
    Refuses o I ops (visit (.node k fs)) := by
  refine refuses_visit (fun _ _ he h => hI.entered hopens he h) hI (isReadable_of_isSimple hk _)
    hfields fun cs hcs => ?_
  rw [rule_walkAll hk]
  exact hrule cs hcs

end Node

/-! The fields of a node -/

section Fields

variable {o : Options} {I : State → Prop} {ops : Stack Kind}

/-- What walking a field adds to the results. -/
def Yields (o : Options) (I : State → Prop) (ops : Stack Kind) (t : Tree) (P : List Piece → Prop) :
    Prop :=
  Gives o I ops (resultsOf (walk t)) P

theorem gives_no_fields : Gives o I ops (gather resultsOf (walkAll [])) (· = []) := gives_pure rfl

theorem gives_fields {t : Tree} {ts : List Tree} {P Ps : List Piece → Prop} (h : Yields o I ops t P)
    (hs : Gives o I ops (gather resultsOf (walkAll ts)) Ps) :
    Gives o I ops (gather resultsOf (walkAll (t :: ts))) fun cs => ∃ c d, cs = c ++ d ∧ P c ∧ Ps d :=
  gives_bind h fun c hc => gives_bind hs fun d hd => gives_pure ⟨c, d, rfl, hc, hd⟩

theorem yields_atom (a : Atom) : Yields o I ops (.atom a) (· = []) := gives_pure rfl

theorem yields_missing : Yields o I ops .missing (· = []) := gives_pure rfl

theorem gives_resultOf {t : Tree} {Q : Piece → Prop} (h : Gives o I ops (visit t) Q) :
    Gives o I ops (resultOf (walk t)) fun cs => ∃ p, Q p ∧ cs = spliced p :=
  gives_bind h fun p hp => gives_pure ⟨p, hp, rfl⟩

theorem yields_node {t : Tree} (ht : t.isNode = true) {Q : Piece → Prop}
    (h : Gives o I ops (visit t) Q) : Yields o I ops t fun cs => ∃ p, Q p ∧ cs = spliced p := by
  cases t with
  | node k fs => exact gives_resultOf h
  | missing => cases ht
  | atom a => cases ht
  | list ts => cases ht

/-- The members of a list, each of which stands for something. -/
theorem yields_list {α : Type} {f : α → Tree} {as : List α} {Q : α → Piece → Prop}
    (h : ∀ a ∈ as, (f a).isNode = true ∧ Gives o I ops (visit (f a)) (Q a)) :
    Yields o I ops (.list (as.map f)) fun cs =>
      ∃ ps, List.Forall₂ Q as ps ∧ cs = ps.flatMap spliced := by
  change Gives o I ops (gather _ (walkAll (as.map f))) _
  induction as with
  | nil => exact gives_pure ⟨[], .nil, rfl⟩
  | cons a as ih =>
    obtain ⟨ht, hv⟩ := h a (by simp)
    have hfirst : Gives o I ops
        (if (walk (f a)).tree.isNode then resultOf (walk (f a)) else pure [])
        fun cs => ∃ p, Q a p ∧ cs = spliced p := by
      rw [walk_tree, if_pos ht]
      exact gives_resultOf hv
    refine gives_bind hfirst ?_
    rintro _ ⟨p, hp, rfl⟩
    refine gives_bind (ih fun b hb => h b (by simp [hb])) ?_
    rintro _ ⟨ps, hps, rfl⟩
    exact gives_pure ⟨p :: ps, .cons hp hps, rfl⟩

theorem yields_single {t : Tree} (ht : t.isNode = true) {Q : Piece → Prop}
    (h : Gives o I ops (visit t) Q) :
    Yields o I ops (.list [t]) fun cs => ∃ p, Q p ∧ cs = spliced p := by
  have hlist : Yields o I ops (.list ([t].map id)) fun cs =>
      ∃ ps, List.Forall₂ (fun _ => Q) [t] ps ∧ cs = ps.flatMap spliced :=
    yields_list (List.forall_mem_singleton.2 ⟨ht, h⟩)
  refine Gives.mono hlist ?_
  rintro _ ⟨_, _ | ⟨hp, _ | _⟩, rfl⟩
  exact ⟨_, hp, List.append_nil _⟩

theorem yields_one {t : Tree} (ht : t.isNode = true) {Q : Piece → Prop}
    (hQ : ∀ p, Q p → spliced p = [p]) (h : Gives o I ops (visit t) Q) :
    Yields o I ops t fun cs => ∃ p, Q p ∧ cs = [p] :=
  Gives.mono (yields_node ht h) fun _ ⟨p, hp, hcs⟩ => ⟨p, hp, hcs.trans (hQ p hp)⟩

theorem yields_each {α : Type} {f : α → Tree} {as : List α} {Q : α → Piece → Prop}
    (hQ : ∀ a p, Q a p → spliced p = [p])
    (h : ∀ a ∈ as, (f a).isNode = true ∧ Gives o I ops (visit (f a)) (Q a)) :
    Yields o I ops (.list (as.map f)) fun cs => List.Forall₂ Q as cs := by
  refine Gives.mono (yields_list h) ?_
  rintro _ ⟨ps, hps, rfl⟩
  have hsame : ps.flatMap spliced = ps := by
    induction hps with
    | nil => rfl
    | cons hp _ ih => rw [List.flatMap_cons, hQ _ _ hp, ih (fun a ha => h a (by simp [ha]))]; rfl
  rw [hsame]
  exact hps

/-- The field that says how a name or a target is used. -/
inductive IsUse : Tree → Prop where
  | missing : IsUse .missing
  | use (u : Use) : IsUse (.node (.use u) [])

theorem yields_use (hI : Stable I) {t : Tree} (h : IsUse t) : Yields o I ops t (· = []) := by
  cases h with
  | missing => exact yields_missing
  | use u =>
    have hv : Gives o I ops (visit (.node (.use u) [])) (· = .absent) :=
      gives_node hI rfl rfl gives_no_fields fun cs _ => gives_pure rfl
    exact Gives.mono (yields_node rfl hv) fun _ ⟨p, hp, hcs⟩ => by rw [hcs, hp]; rfl

theorem gives_operator (hI : Stable I) (op : Op) :
    Gives o I ops (visit (.node (.op op) [])) (· = ((operatorText op).map text).getD .absent) := by
  refine gives_node hI rfl rfl gives_no_fields fun cs _ => ?_
  change Gives o I ops (operatorRule op) _
  unfold operatorRule
  split <;> next h => rw [h]; exact gives_pure rfl

theorem yields_operator (hI : Stable I) (op : Op) :
    Yields o I ops (.node (.op op) []) (· = ((operatorText op).map text).toList) := by
  refine Gives.mono (yields_node rfl (gives_operator hI op)) ?_
  rintro _ ⟨p, rfl, rfl⟩
  cases operatorText op <;> rfl

end Fields

end Transpile.Walk
