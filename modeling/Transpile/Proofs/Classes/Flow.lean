import Transpile.Proofs.Classes.Methods
import Transpile.Proofs.Progress.Statements

/-! What becomes of the name of constructors. A function definition binds its name where no visible name
has the key, and a class takes the name of its constructor out of the innermost map, where it must stand.
So whether a class can be translated depends on which maps of the scope hold that name. Main definition:
`flow` runs a tree over these facts only; a walk follows it if it succeeds where the flow does, leaving
the scope that the flow says, and fails where the flow fails. -/

namespace Transpile

open Script

/-- Whether the maps from the innermost out hold the name of constructors. -/
def Scope.inits (sc : Scope) : List Bool := sc.maps.map (·.has "__init__")

theorem inits_eq (sc : Scope) :
    sc.inits = sc.inner.has "__init__" :: sc.outer.map (·.has "__init__") := rfl

theorem inits_congr {sc sc' : Scope} (h : sc.maps = sc'.maps) : sc.inits = sc'.inits :=
  congrArg (List.map _) h

theorem inits_leave {sc : Scope} {b : Bool} {bs : List Bool} (h : sc.inits = b :: bs) (hbs : bs ≠ []) :
    sc.leave.inits = bs := by
  obtain ⟨-, houter⟩ := List.cons.inj ((inits_eq sc).symm.trans h)
  unfold Scope.leave
  split
  · next hout =>
    rw [hout] at houter
    exact absurd houter.symm hbs
  · next m ms hout =>
    rw [hout] at houter
    exact houter

theorem has_put (m : Bindings) (key : Option String) (p : Piece) (k : String) :
    (m.put key p).has k = (m.has k || decide (key = some k)) := by
  rw [Bool.eq_iff_iff, Bool.or_eq_true, decide_eq_true_iff, eq_comm (a := key)]
  exact hasKey_put_iff

theorem has_erase_self (m : Bindings) (k : String) : (m.erase k).has k = false := by
  simp [Bindings.has, Bindings.hasKey, Bindings.erase]

theorem inits_put_of_ne {sc : Scope} {key : Option String} {p : Piece} (h : key ≠ some "__init__") :
    { sc with inner := sc.inner.put key p }.inits = sc.inits := by
  rw [inits_eq, inits_eq, has_put, decide_eq_false h, Bool.or_false]

theorem hasKey_inits (sc : Scope) : sc.hasKey (some "__init__") = sc.inits.any id := by
  rw [Scope.inits, List.any_map]
  rfl

namespace Walk

open Source

/-! The flow -/

/-- Binds the name of constructors, if it is the one to be bound. -/
def bindInit (isInit : Bool) : List Bool → List Bool
  | [] => []
  | own :: around => (own || (isInit && !around.any id)) :: around

/-- Takes the name of constructors out of the innermost map, if there is a constructor. -/
def dropInit (hasMaker : Bool) : List Bool → Option (List Bool)
  | [] => none
  | own :: around =>
    if hasMaker then if own then some (false :: around) else none else some (own :: around)

/-- Whether a definition has the name in its first field. -/
def isCalled (n : String) : List Tree → Bool
  | .text m :: _ => m = n
  | _ => false

/-- Whether a tree defines a function that comes out under the name of constructors. -/
def definesInit (o : Options) : Tree → Bool
  | .node .functionDef (.text n :: _) => nameIn o n = "__init__"
  | _ => false

def hasMaker (o : Options) : List Tree → Bool
  | [_, _, _, .list body, _] => body.any (definesInit o)
  | _ => false

mutual

/-- The walk over a statement as far as the name of constructors goes. -/
def flow (o : Options) : Tree → List Bool → Option (List Bool)
  | .node .functionDef fs, bs => do
    let _ ← flowAll o fs (false :: bs)
    return bindInit (isCalled "__init__" fs) bs
  | .node .classDef fs, bs => do
    let bs ← flowAll o fs bs
    let bs ← dropInit (hasMaker o fs) bs
    return bindInit (isCalled "__init__" fs) bs
  | .node _ fs, bs => flowAll o fs bs
  | .list ts, bs => flowAll o ts bs
  | _, bs => some bs

def flowAll (o : Options) : List Tree → List Bool → Option (List Bool)
  | [], bs => some bs
  | t :: ts, bs => (flow o t bs).bind (flowAll o ts)

end

/-- Classes whose nodes bind a name besides those that are bound in them. -/
def isDefinition : Kind → Bool
  | .functionDef | .classDef => true
  | _ => false

theorem flow_node {o : Options} {k : Kind} (hk : isDefinition k = false) (fs : List Tree)
    (bs : List Bool) : flow o (.node k fs) bs = flowAll o fs bs := by
  cases k <;> first | rfl | cases hk

theorem bindInit_false (bs : List Bool) : bindInit false bs = bs := by
  cases bs with
  | nil => rfl
  | cons own around => rw [bindInit, Bool.false_and, Bool.or_false]

theorem inits_bound (sc : Scope) (n : String) (p : Piece) :
    (sc.bound (some n) p).inits = bindInit (n = "__init__") sc.inits := by
  unfold Scope.bound
  by_cases hn : n = "__init__"
  · subst hn
    rw [hasKey_inits]
    split_ifs with hseen
    · rw [inits_eq, List.any_cons, id] at hseen
      rw [inits_eq, bindInit]
      rcases Bool.eq_false_or_eq_true (sc.inner.has "__init__") with hown | hown
      · simp [hown]
      · rw [hown, Bool.false_or] at hseen
        simp [hown, hseen]
    · rw [inits_eq, List.any_cons, id, Bool.or_eq_true, not_or] at hseen
      rw [inits_eq, inits_eq, bindInit, has_put]
      simp [hseen.2]
  · rw [decide_eq_false hn, bindInit_false]
    split_ifs
    · rfl
    · exact inits_put_of_ne (by simpa using hn)

/-- Definitions change the innermost map only. -/
def IsInner (f : List Bool → Option (List Bool)) : Prop :=
  ∀ b bs bs', f (b :: bs) = some bs' → ∃ b', bs' = b' :: bs

theorem isInner_dropInit (made : Bool) : IsInner (dropInit made) := by
  intro b bs bs' h
  cases made <;> cases b <;> cases h <;> exact ⟨_, rfl⟩

theorem isInner_flowAll {o : Options} {ts : List Tree} (h : ∀ t ∈ ts, IsInner (flow o t)) :
    IsInner (flowAll o ts) := by
  induction ts with
  | nil =>
    rintro b bs _ ⟨⟩
    exact ⟨b, rfl⟩
  | cons t ts ih =>
    intro b bs bs' hflow
    obtain ⟨bs1, hfirst, hrest⟩ := Option.bind_eq_some_iff.1 hflow
    obtain ⟨b1, rfl⟩ := h t (by simp) b bs bs1 hfirst
    exact ih (fun u hu => h u (by simp [hu])) b1 bs bs' hrest

theorem isInner_flow (o : Options) (t : Tree) : IsInner (flow o t) := by
  induction t using tree_induction with
  | missing | atom _ =>
    rintro b bs _ ⟨⟩
    exact ⟨b, rfl⟩
  | list ts ih => exact isInner_flowAll ih
  | node k fs ih =>
    have hfields := isInner_flowAll ih
    cases k with
    | functionDef =>
      intro b bs bs' hflow
      obtain ⟨_, -, hflow⟩ := Option.bind_eq_some_iff.1 hflow
      cases hflow
      exact ⟨_, rfl⟩
    | classDef =>
      intro b bs bs' hflow
      obtain ⟨bs1, hflow1, hflow⟩ := Option.bind_eq_some_iff.1 hflow
      obtain ⟨bs2, hdrop, hflow⟩ := Option.bind_eq_some_iff.1 hflow
      cases hflow
      obtain ⟨b1, rfl⟩ := hfields b bs bs1 hflow1
      obtain ⟨b2, rfl⟩ := isInner_dropInit _ b1 bs bs2 hdrop
      exact ⟨_, rfl⟩
    | _ => exact hfields

/-! Trees without definitions -/

/-- The flow passes over the tree. -/
def Passes (o : Options) (t : Tree) : Prop := ∀ bs, flow o t bs = some bs

theorem passes_list {o : Options} {ts : List Tree} (h : ∀ t ∈ ts, Passes o t) : Passes o (.list ts) := by
  intro bs
  change flowAll o ts bs = some bs
  induction ts with
  | nil => rfl
  | cons t ts ih =>
    rw [flowAll, h t (by simp)]
    exact ih fun u hu => h u (by simp [hu])

theorem passes_node {o : Options} {k : Kind} (hk : isDefinition k = false) {fs : List Tree}
    (h : ∀ t ∈ fs, Passes o t) : Passes o (.node k fs) :=
  fun bs => (flow_node hk fs bs).trans (passes_list h bs)

@[simp]
theorem passes_missing {o : Options} : Passes o .missing := fun _ => rfl

@[simp]
theorem passes_atom {o : Options} (a : Atom) : Passes o (.atom a) := fun _ => rfl

/-! Walks that follow it -/

/-- Names are in order, and the maps hold the name of constructors as given. -/
structure At (bs : List Bool) (s : State) : Prop where
  orderly : Orderly s
  inits : s.scope.inits = bs

theorem at_stable (bs : List Bool) : Stable (At bs) where
  congr h hs hg hn := ⟨orderly_invariant.congr h.orderly hs hg hn, by rw [hs]; exact h.inits⟩

/-- The maps in the fields of a node. -/
def entered (k : Kind) (bs : List Bool) : List Bool := if opensScope k then false :: bs else bs

theorem At.entered {bs : List Bool} {k : Kind} {s s' : State} (he : Entered k s s') (h : At bs s) :
    At (entered k bs) s' := by
  refine ⟨orderly_invariant.entered he h.orderly, ?_⟩
  rw [he.scope, Walk.entered, ← h.inits]
  split_ifs <;> rfl

section

variable {α β : Type} {o : Options} {ops : Stack Kind} {bs : List Bool}

/-- The walk succeeds where the flow does and fails where it fails. -/
structure Follows (o : Options) (ops : Stack Kind) (bs : List Bool) (r : Option (List Bool))
    (w : Walker α) (Q : α → Prop) : Prop where
  succeeds : ∀ bs', r = some bs' → Leads o (At bs) (At bs') ops w Q
  fails : r = none → Refuses o (At bs) ops w

theorem Follows.mono {r : Option (List Bool)} {w : Walker α} {P Q : α → Prop}
    (h : Follows o ops bs r w P) (hpq : ∀ a, P a → Q a) : Follows o ops bs r w Q :=
  ⟨fun bs' hr => (h.succeeds bs' hr).mono hpq, h.fails⟩

/-- What is known of every run of a walk is known where it follows a flow. -/
theorem Follows.and_results {α : Type} {r : Option (List Bool)} {w : Walker α} {P Q : α → Prop}
    (h : Follows o ops bs r w P)
    (hQ : ∀ s a s', Ready s → run w o s = (.ok a, s') → Q a) :
    Follows o ops bs r w fun a => P a ∧ Q a := by
  refine ⟨fun bs' hr s hs => ?_, h.fails⟩
  obtain ⟨a, s', hrun, hs', hP⟩ := h.succeeds bs' hr s hs
  exact ⟨a, s', hrun, hs', hP, hQ s a s' hs.ready hrun⟩

theorem follows_of_gives {w : Walker α} {Q : α → Prop} (h : Gives o (At bs) ops w Q) :
    Follows o ops bs (some bs) w Q where
  succeeds bs' hr := by
    cases hr
    exact h
  fails hr := by cases hr

/-- There is always an innermost map. -/
theorem follows_nil {r : Option (List Bool)} {w : Walker α} {Q : α → Prop} :
    Follows o ops [] r w Q := by
  have hnone (s : State) : ¬ Holding (At []) ops s := fun hs => List.cons_ne_nil _ _ hs.names.inits
  exact ⟨fun _ _ s hs => absurd hs (hnone s), fun _ s hs => absurd hs (hnone s)⟩

theorem follows_pure {a : α} {Q : α → Prop} (h : Q a) : Follows o ops bs (some bs) (pure a) Q :=
  follows_of_gives (gives_pure h)

theorem Follows.map {r : Option (List Bool)} {w : Walker α} {f : α → β} {P : α → Prop} {Q : β → Prop}
    (hw : Follows o ops bs r w P) (h : ∀ a, P a → Q (f a)) :
    Follows o ops bs r (do return f (← w)) Q :=
  ⟨fun bs' hr => leads_bind (hw.succeeds bs' hr) fun a ha => gives_pure (h a ha),
    fun hr => (hw.fails hr).bind _⟩

theorem follows_bind {r : Option (List Bool)} {r' : List Bool → Option (List Bool)} {w : Walker α}
    {f : α → Walker β} {P : α → Prop} {Q : β → Prop} (hw : Follows o ops bs r w P)
    (hf : ∀ bs' a, P a → Follows o ops bs' (r' bs') (f a) Q) :
    Follows o ops bs (r.bind r') (w >>= f) Q := by
  cases r with
  | none =>
    constructor
    · intro _ hr
      cases hr
    · exact fun _ => (hw.fails rfl).bind f
  | some bs1 =>
    have hfirst := hw.succeeds bs1 rfl
    constructor
    · intro bs2 hr
      exact leads_bind hfirst fun a ha => (hf bs1 a ha).succeeds bs2 hr
    · intro hr
      exact refuses_bind hfirst fun a ha => (hf bs1 a ha).fails hr

/-- The fields of a node are walked in the maps that it opens, and its rule in what they leave. -/
theorem follows_visit {k : Kind} {fs : List Tree} {r : Option (List Bool)}
    {r' : List Bool → Option (List Bool)} {P : List Piece → Prop} {Q : Piece → Prop}
    (hk : isSimple k = true)
    (hfields : Follows o (opened k ops) (entered k bs) r (gather resultsOf (walkAll fs)) P)
    (hrule : ∀ bs' cs, r = some bs' → P cs → Follows o ops bs' (r' bs') (fieldRule k fs cs) Q) :
    Follows o ops bs (r.bind r') (visit (.node k fs)) Q := by
  have hread := isReadable_of_isSimple hk (walkAll fs)
  have henter : ∀ s s', Entered k s s' → At bs s → At (entered k bs) s' := fun _ _ he h => h.entered he
  cases r with
  | none =>
    constructor
    · intro _ hr
      cases hr
    · exact fun _ => refuses_visit_of_fields henter (hfields.fails rfl)
  | some bs1 =>
    have hrun := hfields.succeeds bs1 rfl
    have hthen (cs : List Piece) (hcs : P cs) :
        Follows o ops bs1 (r' bs1) (rule k (walkAll fs) cs) Q := by
      rw [rule_walkAll hk]
      exact hrule bs1 cs rfl hcs
    constructor
    · intro bs2 hr
      exact leads_visit henter (at_stable bs1) (at_stable bs2) hread hrun
        fun cs hcs => (hthen cs hcs).succeeds bs2 hr
    · intro hr
      exact refuses_visit henter (at_stable bs1) hread hrun fun cs hcs => (hthen cs hcs).fails hr

/-! Steps -/

/-- A walk that cannot fail leads where its runs end. -/
theorem leads_at {bs' : List Bool} {w : Walker α} {Q : α → Prop} (h : Gives o Orderly ops w Q)
    (hends : ∀ s a s', Ready s → run w o s = (.ok a, s') → s.scope.inits = bs → s'.scope.inits = bs') :
    Leads o (At bs) (At bs') ops w Q := by
  intro s hs
  obtain ⟨a, s', hr, hs', hQ⟩ := h s ⟨hs.ready, hs.names.orderly, hs.operators⟩
  exact ⟨a, s', hr,
    ⟨hs'.ready, ⟨hs'.names, hends s a s' hs.ready hr hs.names.inits⟩, hs'.operators⟩, hQ⟩

/-- The names of temporaries are numbered. -/
theorem at_roomy (bs : List Bool) : Roomy o (At bs) where
  toStable := at_stable bs
  gives_fresh ops stem := leads_at (gives_fresh stem) fun s p s' _ hr hin => by
    have hne : some (s.scope.fresh stem) ≠ some "__init__" :=
      fun h => numbered_ne_init stem _ (Option.some.inj h)
    rw [(Tracked.run_fresh hr).2]
    exact (inits_put_of_ne hne).trans hin

theorem gives_bind_at {p : Piece} (hp : IsIdent p) (hn : nameOf? p ≠ some "__init__") :
    Gives o (At bs) ops (Walk.bind p) IsIdent := by
  refine leads_at (gives_bindName hp) fun s q s' _ hr hin => ?_
  obtain ⟨n, m, rfl⟩ := hp
  obtain ⟨v, s1, hv, hr⟩ := run_bind_ok hr
  cases hv
  have hne : n ≠ "__init__" := fun h => hn (congrArg some h)
  have hscope : s'.scope = s.scope.bound (some n) q := run_bindAs hr
  rw [hscope, inits_bound, decide_eq_false hne, bindInit_false]
  exact hin

/-! Fields -/

/-- Walking the field follows its flow, whatever the maps hold. -/
def Flows (o : Options) (ops : Stack Kind) (t : Tree) (P : List Piece → Prop) : Prop :=
  ∀ bs, Follows o ops bs (flow o t bs) (resultsOf (walk t)) P

def FlowsAll (o : Options) (ops : Stack Kind) (ts : List Tree) (P : List Piece → Prop) : Prop :=
  ∀ bs, Follows o ops bs (flowAll o ts bs) (gather resultsOf (walkAll ts)) P

theorem flows_no_fields : FlowsAll o ops [] (· = []) := fun _ => follows_pure rfl

theorem flows_fields {t : Tree} {ts : List Tree} {P Ps : List Piece → Prop} (h : Flows o ops t P)
    (hs : FlowsAll o ops ts Ps) :
    FlowsAll o ops (t :: ts) fun cs => ∃ c d, cs = c ++ d ∧ P c ∧ Ps d := by
  intro bs
  exact follows_bind (h bs) fun bs' c hc => (hs bs').map fun d hd => ⟨c, d, rfl, hc, hd⟩

/-- A field without definitions leaves the maps as they are. -/
theorem flows_passing {t : Tree} (ht : Passes o t) {P : List Piece → Prop}
    (h : ∀ bs, Yields o (At bs) ops t P) : Flows o ops t P := by
  intro bs
  rw [ht bs]
  exact follows_of_gives (h bs)

/-- The members of a list one after the other. -/
theorem flows_list {ts : List Tree} {Q : Tree → Piece → Prop}
    (h : ∀ t ∈ ts, t.isNode = true ∧ ∀ bs, Follows o ops bs (flow o t bs) (visit t) (Q t)) :
    Flows o ops (.list ts) fun cs => ∃ ps, List.Forall₂ Q ts ps ∧ cs = ps.flatMap spliced := by
  intro bs
  change Follows o ops bs (flowAll o ts bs) (gather _ (walkAll ts)) _
  induction ts generalizing bs with
  | nil => exact follows_pure ⟨[], .nil, rfl⟩
  | cons t ts ih =>
    obtain ⟨ht, hv⟩ := h t (by simp)
    have hfirst : Follows o ops bs (flow o t bs)
        (if (walk t).tree.isNode then resultOf (walk t) else pure [])
        fun cs => ∃ p, Q t p ∧ cs = spliced p := by
      rw [walk_tree, if_pos ht]
      exact (hv bs).map fun p hp => ⟨p, hp, rfl⟩
    refine follows_bind hfirst ?_
    rintro bs' _ ⟨p, hp, rfl⟩
    refine (ih (fun u hu => h u (by simp [hu])) bs').map ?_
    rintro _ ⟨ps, hps, rfl⟩
    exact ⟨p :: ps, .cons hp hps, rfl⟩

theorem recorded_of_results {t : Tree} {s s' : State} {cs : List Piece} (hs : Ready s)
    (h : run (resultsOf (walk t)) o s = (.ok cs, s')) : ∃ rs, Recorded o t rs ∧ cs = nodesOf rs := by
  rw [resultsOf_walk] at h
  obtain ⟨rs, s1, hrs, h⟩ := run_bind_ok h
  cases h
  exact ⟨rs, ⟨s, _, hs, hrs⟩, rfl⟩

theorem flows_recorded {t : Tree} {P : List Piece → Prop} (h : Flows o ops t P) :
    Flows o ops t fun cs => P cs ∧ ∃ rs, Recorded o t rs ∧ cs = nodesOf rs :=
  fun bs => (h bs).and_results fun _ _ _ hs hrun => recorded_of_results hs hrun

/-! Definitions -/

/-- The maps around a function are as they were, but for its name. -/
theorem leads_functionRule {n : String} {qs cs : List Piece} (hqs : ∀ q ∈ qs, IsIdent q)
    (hcs : ∀ c ∈ cs, Printable c) (b : Bool) (hbs : bs ≠ []) :
    Leads o (At (b :: bs)) (At (bindInit (n = "__init__") bs)) ops
      (functionRule (.text n) (.list []) (.items qs :: cs)) Defined := by
  refine leads_at (gives_functionRule hqs hcs) fun s p s' _ hr hin => ?_
  obtain ⟨_, _, _, _, id, -, -, -, hscope⟩ := run_functionRule_parts hr
  rw [hscope, inits_bound, inits_leave hin hbs]

/-- What a class can be made of: names are in order, and the name of its constructor, if it has one, is
in the innermost map. -/
def Makeable (cs : List Piece) (s : State) : Prop :=
  Orderly s ∧ ((cs.filterMap method?).any isConstructor = true → s.scope.inner.has "__init__" = true)

theorem leads_classParts {cs : List Piece}
    (h : ∀ m ∈ cs.filterMap method?, Printable m.1 ∧ Printable m.2) :
    Leads o (Makeable cs) Orderly ops (classParts cs)
      fun e => Printable e.1 ∧ ∀ m ∈ e.2, Printable m.1 ∧ Printable m.2 := by
  unfold classParts
  split
  · next m hm =>
    have hmem := List.mem_of_find?_eq_some hm
    have hany : (cs.filterMap method?).any isConstructor = true :=
      List.any_eq_true.2 ⟨m, hmem, List.find?_some hm⟩
    have hunset : Leads o (Makeable cs) Orderly ops (changeScope (·.unset "__init__"))
        fun _ => True := by
      intro s hs
      obtain ⟨horder, hin⟩ := hs.names
      refine ⟨(), { s with scope := { s.scope with inner := s.scope.inner.erase "__init__" } }, ?_,
        ⟨⟨hs.ready.level, hs.ready.above⟩, ⟨horder.special, ?_, horder.globalName, horder.newName⟩,
          hs.operators⟩, trivial⟩
      · change run (need (s.scope.unset "__init__").1) o
          { s with scope := (s.scope.unset "__init__").2 } = _
        unfold Scope.unset
        rw [if_pos (hin hany)]
        rfl
      · intro m hm b hb
        rcases List.mem_cons.1 hm with rfl | hm
        · exact horder.bound _ List.mem_cons_self b (List.mem_filter.1 hb).1
        · exact horder.bound m (List.mem_cons_of_mem _ hm) b hb
    refine leads_bind hunset fun _ _ => gives_pure ⟨(h m hmem).2, fun m' hm' => h m' ?_⟩
    rw [dropConstructor_eq] at hm'
    exact List.mem_of_mem_eraseP hm'
  · have hempty : Leads o (Makeable cs) Orderly ops (functionOf (.items []) (.items [])) Printable := by
      intro s hs
      have hnone : ∀ p ∈ ([] : List Piece), IsIdent p := by simp
      obtain ⟨f, s', hr, hs', qs, hqs, rfl⟩ :=
        gives_functionOf hnone (.items []) s ⟨hs.ready, hs.names.1, hs.operators⟩
      exact ⟨_, s', hr, hs', (expressed_function hqs (items_printable (by simp)) {}).printable⟩
    exact leads_bind hempty fun f hf => gives_pure ⟨hf, h⟩

theorem gives_defineClass {name : String} {e : Piece × List (Piece × Piece)} (hmaker : Printable e.1)
    (hmembers : ∀ m ∈ e.2, Printable m.1 ∧ Printable m.2) {c : Piece} (hc : IsIdent c) :
    Gives o Orderly ops (defineClass (.text name) e c) Stated := by
  refine gives_bind (gives_scopeVars false) fun vars hvars => ?_
  refine gives_bind (gives_functionOf (by simp) _) ?_
  rintro _ ⟨qs, hqs, rfl⟩
  refine gives_bind_eq (gives_atomField _) (gives_bind_eq (gives_sourceName name) ?_)
  refine gives_bind gives_leaveScope fun _ _ => gives_bind (gives_bindAs _ (isIdent_word _)) fun id hid => ?_
  refine gives_pure (stated_statement (printable_assignTo _ hid.printable
    (expressed_callOf (expressed_function hqs (items_printable ?_) _).printable (by simp)).printable))
  intro q hq
  simp only [List.mem_append, List.mem_cons, List.mem_map, List.not_mem_nil, or_false] at hq
  rcases hq with hq | (rfl | ⟨m, hm, rfl⟩) | rfl
  · exact hvars q hq
  · exact printable_statement (printable_assignTo _ hc.printable hmaker)
  · obtain ⟨hname, hfunction⟩ := hmembers m hm
    exact printable_statement (printable_assignTo _
      (printable_dot (expressed_dot hc.printable _).printable hname) hfunction)
  · exact printable_returns hc.printable

theorem leads_classRule (name : String) {cs : List Piece}
    (h : ∀ m ∈ cs.filterMap method?, Printable m.1 ∧ Printable m.2) :
    Leads o (Makeable cs) Orderly ops (classRule (.text name) cs) Stated := by
  rw [classRule_eq]
  refine leads_bind (leads_classParts h) fun e he => ?_
  have henter : Gives o Orderly ops enterScope fun _ => True :=
    gives_modify (fun _ => rfl) (fun _ => rfl) fun _ hs => orderly_invariant.enter hs
  refine gives_bind henter fun _ _ => gives_bind (gives_fresh _) fun c hc => ?_
  exact gives_defineClass he.1 he.2 hc

end

end Walk

end Transpile
