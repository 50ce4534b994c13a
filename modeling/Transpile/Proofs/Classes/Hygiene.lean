import Transpile.Proofs.Classes.Code

/-! What a class does to the names around it. Walking its methods binds their names, and the name of the
constructor is taken out again. Main statement: a class is translated exactly where its flow succeeds,
and it leaves the names around it as they were, apart from its own name and those of its other methods,
exactly if besides it has no constructor, or names are kept as they are written, no map further out holds
the name of constructors, and the innermost one does not or is given it back by the class. -/

namespace Transpile

open Script

/-- The innermost map has gained the names that no map further out holds. -/
structure Gains (ns : List String) (a b : Scope) : Prop where
  outer : b.outer = a.outer
  inner : ∀ key, b.inner.hasKey key = true ↔ a.inner.hasKey key = true ∨
    key ∈ ns.map some ∧ ∀ m ∈ a.outer, m.hasKey key = false

theorem gains_of_maps {a b : Scope} (h : b.maps = a.maps) : Gains [] a b := by
  obtain ⟨hinner, houter⟩ := List.cons.inj h
  exact ⟨houter, fun key => by rw [hinner]; simp⟩

theorem Gains.trans {ns ms : List String} {a b c : Scope} (h : Gains ns a b) (h' : Gains ms b c) :
    Gains (ns ++ ms) a c := by
  refine ⟨h'.outer.trans h.outer, fun key => ?_⟩
  rw [h'.inner, h.inner, h.outer, or_assoc, ← or_and_right, List.map_append, List.mem_append]

theorem gains_bound (sc : Scope) (n : String) (p : Piece) : Gains [n] sc (sc.bound (some n) p) := by
  unfold Scope.bound
  split_ifs with hseen
  · refine ⟨rfl, fun key => ⟨.inl, ?_⟩⟩
    rintro (h | ⟨hkey, hout⟩)
    · exact h
    · obtain rfl := List.mem_singleton.1 hkey
      rcases hasKey_maps.1 hseen with h | ⟨m, hm, h⟩
      · exact h
      · rw [hout m hm] at h
        cases h
  · rw [hasKey_maps, not_or] at hseen
    refine ⟨rfl, fun key => ⟨fun h => ?_, ?_⟩⟩
    · rcases hasKey_put_iff.1 h with h | rfl
      · exact .inl h
      · refine .inr ⟨by simp, fun m hm => ?_⟩
        rw [← Bool.not_eq_true]
        exact fun h => hseen.2 ⟨m, hm, h⟩
    · rintro (h | ⟨hkey, -⟩)
      · exact hasKey_put (.inl h)
      · exact hasKey_put (.inr (List.mem_singleton.1 hkey))

namespace Walk

open Source

section

variable {o : Options} {s s' : State}

/-! The names that a class adds -/

/-- Every walk over the field gains the names. -/
def GainsAt (o : Options) (t : Tree) (ns : List String) : Prop :=
  ∀ s rs s', Ready s → run (recordsOf t) o s = (.ok rs, s') → Gains ns s.scope s'.scope

theorem gains_recordFields {fs : List Tree} {nss : List (List String)}
    (h : List.Forall₂ (GainsAt o) fs nss) {rss : List (List Record)} (hs : Ready s)
    (hrun : run (recordFields fs) o s = (.ok rss, s')) : Gains nss.flatten s.scope s'.scope := by
  induction h generalizing s rss with
  | nil =>
    cases hrun
    exact gains_of_maps rfl
  | cons hfirst _ ih =>
    obtain ⟨rs, s1, h1, hrun⟩ := run_bind_ok hrun
    obtain ⟨rss', s2, h2, hrun⟩ := run_bind_ok hrun
    cases hrun
    have hs1 : Ready s1 := (adds_recordsOf _ o s rs s1 hs h1).ready hs
    exact (hfirst s rs s1 hs h1).trans (ih hs1 h2)

theorem gainsAt_expression {t : Tree} (ht : isExpression t = true) : GainsAt o t [] := by
  intro s rs s' hs h
  have hresults : run (resultsOf (walk t)) o s = (.ok (nodesOf rs), s') := by
    rw [resultsOf_walk, run_bind_of_ok h]
    rfl
  have hsettled : Settled o.camelCase (!s.operators.isEmpty) (resultsOf (walk t)) :=
    settled_resultsOf ((walk_settled ht _).mono fun _ hw => hw _)
  have hsame := hsettled.untouched ⟨rfl, hs, by rw [Bool.not_not]⟩
  rw [hresults] at hsame
  exact gains_of_maps (congrArg Scope.maps hsame.scope)

theorem gainsAt_method (m : Method) : GainsAt o m.tree [m.name] := by
  intro s rs s' hs h
  obtain ⟨r, s1, hr, h⟩ := run_bind_ok h
  cases h
  obtain ⟨_, _, _, _, _, _, id, -, -, -, -, -, hmaps⟩ := run_method hs hr
  exact (gains_bound s.scope m.name id).trans (gains_of_maps hmaps)

theorem gainsAt_methods (ms : List Method) :
    GainsAt o (.list (ms.map Method.tree)) (ms.map (·.name)) := by
  intro s rs s' hs h
  obtain ⟨rss, h, -⟩ := run_recordsOf_list h
  rw [List.filter_eq_self.2 (by simp [Method.tree, Tree.isNode])] at h
  have hall : List.Forall₂ (GainsAt o) (ms.map Method.tree) (ms.map fun m => [m.name]) := by
    rw [List.forall₂_map_left_iff, List.forall₂_map_right_iff, List.forall₂_same]
    exact fun m _ => gainsAt_method m
  have hgains := gains_recordFields hall hs h
  rwa [← List.flatMap_def, ← List.map_eq_flatMap] at hgains

theorem gains_class {name : String} {bases keywords decorators : List Tree} {ms : List Method}
    (hside : ∀ t ∈ bases ++ (keywords ++ decorators), IsSide t) {rss : List (List Record)}
    (hs : Ready s)
    (h : run (recordFields (classFields name bases keywords (ms.map Method.tree) decorators)) o s =
      (.ok rss, s')) : Gains (ms.map (·.name)) s.scope s'.scope := by
  have hexpr {ts : List Tree} (hts : ∀ t ∈ ts, t ∈ bases ++ (keywords ++ decorators)) :
      GainsAt o (.list ts) [] :=
    gainsAt_expression (isExpression_list.2 fun t ht => (hside t (hts t ht)).isExpression)
  have hall : List.Forall₂ (GainsAt o)
      (classFields name bases keywords (ms.map Method.tree) decorators)
      [[], [], [], ms.map (·.name), []] :=
    .cons (gainsAt_expression rfl) (.cons (hexpr (by simp +contextual))
      (.cons (hexpr (by simp +contextual)) (.cons (gainsAt_methods ms)
        (.cons (hexpr (by simp +contextual)) .nil))))
  have hgains := gains_recordFields hall hs h
  simpa using hgains

/-! Constructors -/

theorem isMaker_iff {e : Method × Piece} :
    isMaker o e = true ↔ o.camelCase = false ∧ e.1.name = "__init__" := by
  unfold isMaker nameIn
  rw [decide_eq_true_iff]
  split_ifs with hcamel
  · refine iff_of_false (fun h => ?_) (by simp [hcamel])
    have hscore := Text.underscore_notMem_camel e.1.name
    rw [h] at hscore
    exact hscore (by decide)
  · simp [hcamel]

theorem any_isMaker_iff {es : List (Method × Piece)} :
    es.any (isMaker o) = true ↔ o.camelCase = false ∧ ∃ e ∈ es, e.1.name = "__init__" := by
  simp only [List.any_eq_true, isMaker_iff]
  constructor
  · rintro ⟨e, he, ho, hname⟩
    exact ⟨ho, e, he, hname⟩
  · rintro ⟨ho, e, he, hname⟩
    exact ⟨e, he, ho, hname⟩

theorem length_members {id id' d d' c c' maker maker' : Piece} {ms ms' : List (Piece × Piece)}
    (h : classPiece id (classBody d c maker ms) = classPiece id' (classBody d' c' maker' ms')) :
    ms.length = ms'.length := by
  have hparts : id = id' ∧ classBody d c maker ms = classBody d' c' maker' ms' := by
    simpa [classPiece, statement, assignTo, callOf, functionPiece, Piece.inParens, Form.piece] using h
  have hlength := congrArg List.length hparts.2
  simpa [classBody] using hlength

/-- What a definition came to can be seen in its record. -/
theorem defines_unique {es es' : List (Method × Piece)} {rs : List Record}
    (h : List.Forall₂ (Defines o) es rs) (h' : List.Forall₂ (Defines o) es' rs)
    (hfst : es.map (·.1) = es'.map (·.1)) : es = es' := by
  induction h generalizing es' with
  | nil =>
    cases h'
    rfl
  | @cons e r es rs he _ ih =>
    cases h' with
    | @cons e' _ es' _ he' hrest' =>
      obtain ⟨hname, hmap⟩ := List.cons.inj hfst
      obtain ⟨_, _, ds, -, hspliced, -⟩ := he
      obtain ⟨_, _, ds', -, hspliced', -⟩ := he'
      obtain ⟨hhead, -⟩ := List.cons.inj (hspliced.symm.trans hspliced')
      have hfunction : e.2 = e'.2 := by
        have hparts : declaredWord (nameIn o e.1.name) = declaredWord (nameIn o e'.1.name) ∧
            e.2 = e'.2 := by
          simpa [definitionOf, statement, Form.piece] using hhead
        exact hparts.2
      rw [ih hrest' hmap, Prod.ext hname hfunction]

/-! Hygiene -/

def isInit (e : Method × Piece) : Bool := e.1.name = "__init__"

/-- The first definition of a constructor, if there is one, is what the class is made of and not one of
its members, and the innermost map keeps its names and gains at most those of the class and of the other
definitions. -/
structure Hygienic (o : Options) (name : String) (es : List (Method × Piece)) (s s' : State)
    (p : Piece) : Prop where
  maker : ∀ e, es.find? isInit = some e → ∃ id d c, p = classPiece id (classBody d c e.2
    ((es.eraseP isInit).map fun e => (declaredWord (nameIn o e.1.name), e.2)))
  kept : ∀ key, s.scope.inner.hasKey key = true → s'.scope.inner.hasKey key = true
  gained : ∀ key, s'.scope.inner.hasKey key = true → s.scope.inner.hasKey key = true ∨
    key = some name ∨ ∃ e ∈ es.eraseP isInit, key = some e.1.name

/-- Where a class that has a constructor can keep the names around it. -/
structure HasRoom (o : Options) (name : String) (sc : Scope) : Prop where
  asWritten : o.camelCase = false
  around : ∀ m ∈ sc.outer, m.has "__init__" = false
  own : sc.inner.has "__init__" = true → name = "__init__"

section

variable {name : String} {es : List (Method × Piece)} {sc : Scope} {m : Marks} {id p : Piece}
  {s2 : State} (hgains : Gains (es.map (·.1.name)) s.scope s2.scope)
  (hclass : IsClass o name es s2.scope sc m id p)
include hgains hclass

/-- The names in the innermost map before the class is bound. -/
theorem IsClass.hasKey_inner (key : Option String) : sc.inner.hasKey key = true ↔
    (s.scope.inner.hasKey key = true ∨
      key ∈ (es.map (·.1.name)).map some ∧ ∀ m ∈ s.scope.outer, m.hasKey key = false) ∧
    ¬ (es.any (isMaker o) = true ∧ key = some "__init__") := by
  have hinner := hclass.inner
  rw [← hgains.inner]
  split_ifs at hinner with hmade
  · rw [hinner.2, hasKey_erase]
    simp [hmade]
  · rw [hinner]
    simp [hmade]

variable (hmaps : s'.scope.maps = (sc.bound (some name) id).maps)
include hmaps

theorem IsClass.hasKey_after (key : Option String) : s'.scope.inner.hasKey key = true ↔
    sc.inner.hasKey key = true ∨ key = some name ∧ ∀ m ∈ s.scope.outer, m.hasKey key = false := by
  have hbound := (gains_bound sc name id).trans (gains_of_maps hmaps)
  rw [hbound.inner, hclass.outer, hgains.outer]
  simp

theorem hygienic_iff : Hygienic o name es s s' p ↔
    ((∃ e ∈ es, e.1.name = "__init__") → HasRoom o name s.scope) := by
  have hbefore := hclass.hasKey_inner hgains
  have hafter := hclass.hasKey_after hgains hmaps
  constructor
  · rintro hhygienic ⟨e, he, hname⟩
    have hinit : isInit e = true := decide_eq_true hname
    have hcamel : o.camelCase = false := by
      -- Else no definition is seen as a constructor, and all of them are members.
      by_contra hcamel
      have hnone : ∀ e ∈ es, ¬ isMaker o e = true := fun e _ h => hcamel (isMaker_iff.1 h).1
      obtain ⟨e1, hfind⟩ := Option.isSome_iff_exists.1 (List.find?_isSome.2 ⟨e, he, hinit⟩)
      obtain ⟨id', d, c, hpiece⟩ := hhygienic.maker e1 hfind
      have hlength := length_members (hclass.piece.symm.trans hpiece)
      rw [List.eraseP_of_forall_not hnone, List.length_map, List.length_map,
        List.length_eraseP_of_mem he hinit] at hlength
      have hpos := List.length_pos_of_mem he
      omega
    have hmade : es.any (isMaker o) = true := any_isMaker_iff.2 ⟨hcamel, e, he, hname⟩
    have hgone : ¬ sc.inner.hasKey (some "__init__") = true := fun h =>
      ((hbefore _).1 h).2 ⟨hmade, rfl⟩
    have hown (h : s.scope.inner.has "__init__" = true) :
        name = "__init__" ∧ ∀ m ∈ s.scope.outer, m.has "__init__" = false := by
      rcases (hafter _).1 (hhygienic.kept _ h) with h | ⟨hkey, hout⟩
      · exact absurd h hgone
      · exact ⟨(Option.some.inj hkey).symm, hout⟩
    have hinner := hclass.inner
    rw [if_pos hmade] at hinner
    refine ⟨hcamel, ?_, fun h => (hown h).1⟩
    rcases (hgains.inner _).1 hinner.1 with h | ⟨-, hout⟩
    · exact (hown h).2
    · exact hout
  · intro hroom
    have hmaker : es.any (isMaker o) = true → HasRoom o name s.scope := fun hmade =>
      hroom (any_isMaker_iff.1 hmade).2
    refine ⟨fun e hfind => ?_, fun key hkey => ?_, fun key hkey => ?_⟩
    · have hinit : isInit e = true := List.find?_some hfind
      have hcamel := (hroom ⟨e, List.mem_of_find?_eq_some hfind, of_decide_eq_true hinit⟩).asWritten
      have hsame : isMaker o = isInit := by
        funext e
        rw [Bool.eq_iff_iff, isMaker_iff, isInit, decide_eq_true_iff]
        exact and_iff_right hcamel
      have hpiece := hclass.piece
      rw [hsame, hfind] at hpiece
      exact ⟨id, _, _, hpiece⟩
    · by_cases hlost : es.any (isMaker o) = true ∧ key = some "__init__"
      · obtain ⟨hmade, rfl⟩ := hlost
        have hspace := hmaker hmade
        exact (hafter _).2 (.inr ⟨congrArg some (hspace.own hkey).symm, hspace.around⟩)
      · exact (hafter key).2 (.inl ((hbefore key).2 ⟨.inl hkey, hlost⟩))
    · rcases (hafter key).1 hkey with hkey | ⟨hkey, -⟩
      · obtain ⟨hkey, hlost⟩ := (hbefore key).1 hkey
        rcases hkey with hkey | ⟨hnames, -⟩
        · exact .inl hkey
        · obtain ⟨n, hn, rfl⟩ := List.mem_map.1 hnames
          obtain ⟨e, he, rfl⟩ := List.mem_map.1 hn
          refine .inr (.inr ⟨e, ?_, rfl⟩)
          have hother : ¬ isInit e = true := by
            intro hinit
            have hname : e.1.name = "__init__" := of_decide_eq_true hinit
            have hcamel := (hroom ⟨e, he, hname⟩).asWritten
            exact hlost ⟨any_isMaker_iff.2 ⟨hcamel, e, he, hname⟩, congrArg some hname⟩
          exact (List.mem_eraseP_of_neg hother).2 he
      · exact .inr (.inl hkey)

end

/-- Code is translated where its flow succeeds. -/
theorem code_translated_iff {t : Tree} (h : IsCode o t) (hs : Ready s) (horder : Orderly s) :
    (∃ p s', run (visit t) o s = (.ok p, s')) ↔ (flow o t s.scope.inits).isSome = true := by
  have hfollows : Follows o s.operators s.scope.inits (flow o t s.scope.inits) (visit t) (Coded t) :=
    follows_code h s.scope.inits
  have hholding : Holding (At s.scope.inits) s.operators s := ⟨hs, ⟨horder, rfl⟩, rfl⟩
  constructor
  · rintro ⟨p, s', hrun⟩
    rw [← Option.ne_none_iff_isSome]
    exact fun hnone => hfollows.fails hnone s hholding p s' hrun
  · intro hsome
    obtain ⟨bs, hflow⟩ := Option.isSome_iff_exists.1 hsome
    obtain ⟨p, s', hrun, -⟩ := hfollows.succeeds bs hflow s hholding
    exact ⟨p, s', hrun⟩

/-- A class over the methods is translated and is hygienic. -/
def KeepsNames (o : Options) (s : State) (name : String) (bases keywords : List Tree) (ms : List Method)
    (decorators : List Tree) : Prop :=
  ∃ p s' bs ks rs ds, ∃ es : List (Method × Piece),
    run (record .classDef (classFields name bases keywords (ms.map Method.tree) decorators)) o s =
      (.ok (.mk (.node .classDef (classFields name bases keywords (ms.map Method.tree) decorators)) p
        [[], bs, ks, rs, ds]), s') ∧
    es.map (·.1) = ms ∧ List.Forall₂ (Defines o) es rs ∧ Hygienic o name es s s' p

theorem KeepsNames.translated {name : String} {bases keywords decorators : List Tree}
    {ms : List Method} (h : KeepsNames o s name bases keywords ms decorators) :
    ∃ p s', run (visit (.node .classDef
      (classFields name bases keywords (ms.map Method.tree) decorators))) o s = (.ok p, s') := by
  obtain ⟨p, s', _, _, _, _, _, hrecord, -⟩ := h
  exact ⟨p, s', run_visit_of_record hrecord⟩

section

variable {name : String} {bases keywords decorators : List Tree} {ms : List Method}
  (hside : ∀ t ∈ bases ++ (keywords ++ decorators), IsSide t)
include hside

theorem keepsNames_iff_of_run {p : Piece} (hs : Ready s) (h : run (visit (.node .classDef
      (classFields name bases keywords (ms.map Method.tree) decorators))) o s = (.ok p, s')) :
    KeepsNames o s name bases keywords ms decorators ↔
      ((∃ m ∈ ms, m.name = "__init__") → HasRoom o name s.scope) := by
  obtain ⟨bs, ks, rs, ds, es, s1, s2, sc, m, id, hrecord, rfl, hdefines, hs1, hready, hfields, hclass, -,
    hmaps⟩ := run_class (fun t ht => (hside t ht).isOperand) hs h
  have hgains := gains_class hside hready hfields
  rw [hs1, List.map_map] at hgains
  have hiff := hygienic_iff hgains hclass hmaps
  have hinit : (∃ m ∈ es.map (·.1), m.name = "__init__") ↔ ∃ e ∈ es, e.1.name = "__init__" := by simp
  rw [hinit]
  refine Iff.trans ⟨?_, fun hhygienic => ?_⟩ hiff
  · rintro ⟨p', s3, bs', ks', rs', ds', es', hrecord', hes', hdefines', hhygienic⟩
    rw [hrecord] at hrecord'
    cases hrecord'
    rwa [defines_unique hdefines' hdefines hes'] at hhygienic
  · exact ⟨p, s', bs, ks, rs, ds, es, hrecord, rfl, hdefines, hhygienic⟩

/-- A class is translated where its flow succeeds, and is hygienic where besides its constructor, if it
has one, has room. -/
theorem class_hygienic_iff (hm : ∀ m ∈ ms, IsCode o m.tree) (hs : Ready s) (horder : Orderly s) :
    ((∃ p s', run (visit (.node .classDef
        (classFields name bases keywords (ms.map Method.tree) decorators))) o s = (.ok p, s')) ↔
      (flow o (.node .classDef (classFields name bases keywords (ms.map Method.tree) decorators))
        s.scope.inits).isSome = true) ∧
    (KeepsNames o s name bases keywords ms decorators ↔
      (flow o (.node .classDef (classFields name bases keywords (ms.map Method.tree) decorators))
        s.scope.inits).isSome = true ∧
      ((∃ m ∈ ms, m.name = "__init__") → HasRoom o name s.scope)) := by
  have hcode : IsCode o (.node .classDef
      (classFields name bases keywords (ms.map Method.tree) decorators)) := .ofMethods hside hm
  have htranslated := code_translated_iff hcode hs horder
  refine ⟨htranslated, ?_⟩
  rw [← htranslated]
  constructor
  · intro hkeeps
    obtain ⟨p, s', hvisit⟩ := hkeeps.translated
    exact ⟨⟨p, s', hvisit⟩, (keepsNames_iff_of_run hside hs hvisit).1 hkeeps⟩
  · rintro ⟨⟨p, s', hvisit⟩, hroom⟩
    exact (keepsNames_iff_of_run hside hs hvisit).2 hroom

end

/-- A function without parameters. -/
def routine (name : String) (body : List Tree) : Method where
  name := name
  args := .node .arguments [.list [], .list []]
  body := .list body
  returns := .none

/-- A constructor, and a method with a class in it that has a constructor of its own. -/
def nestedMakers : List Method :=
  [routine "__init__" [nameStatement "x"], routine "f" [.node .classDef
    (classFields "B" [] [] ([routine "__init__" [nameStatement "y"]].map Method.tree) [])]]

theorem isCode_routine {name : String} {body : List Tree} (h : ∀ s ∈ body, IsCode o s) :
    IsCode o (routine name body).tree :=
  .function (.arguments (.params (by simp)) (.params (by simp)) (by simp)) h (.atom _)

theorem isCode_nameStatement (n : String) : IsCode o (nameStatement n) :=
  .plain (.expr (.key (.name (.use _)))) rfl (by simp [Spares, boundField, spelled])

theorem isCode_nestedMakers : ∀ m ∈ nestedMakers, IsCode o m.tree := by
  have hone {P : Tree → Prop} {t : Tree} (h : P t) : ∀ u ∈ [t], P u := List.forall_mem_singleton.2 h
  have hinner : ∀ m ∈ [routine "__init__" [nameStatement "y"]], IsCode o m.tree :=
    List.forall_mem_singleton.2 (isCode_routine (hone (isCode_nameStatement "y")))
  refine List.forall_mem_cons.2 ⟨isCode_routine (hone (isCode_nameStatement "x")), ?_⟩
  exact List.forall_mem_singleton.2 (isCode_routine (hone (.ofMethods (by simp) hinner)))

/-- The inner constructor has no room, and in camel case neither is seen as a constructor. -/
theorem nestedMakers_not_hygienic :
    (¬ ∃ p s', run (visit (.node .classDef
      (classFields "A" [] [] (nestedMakers.map Method.tree) []))) {} {} = (.ok p, s')) ∧
    (∃ p s', run (visit (.node .classDef
      (classFields "A" [] [] (nestedMakers.map Method.tree) []))) { camelCase := true } {} =
        (.ok p, s')) ∧
    ¬ KeepsNames { camelCase := true } {} "A" [] [] nestedMakers [] := by
  have hplain := @class_hygienic_iff {} {} "A" [] [] [] nestedMakers (by simp) isCode_nestedMakers
    ready_start orderly_start
  have hcamel := @class_hygienic_iff { camelCase := true } {} "A" [] [] [] nestedMakers (by simp)
    isCode_nestedMakers ready_start orderly_start
  refine ⟨fun h => absurd (hplain.1.1 h) (by decide), hcamel.1.2 (by decide), fun h => ?_⟩
  cases ((hcamel.2.1 h).2 ⟨_, .head _, rfl⟩).asWritten

end

end Walk

end Transpile
