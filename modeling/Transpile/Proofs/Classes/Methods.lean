import Transpile.Proofs.Classes.Definition

/-! The functions of a class. A class takes the functions out of the results of all its fields, whatever
else is among them. Main statement: of function definitions without decorators none is lost, doubled or
moved. The first constructor is what the class is made of, and the others are its members in source
order, each under its own name. -/

namespace Transpile.Walk

open Script Source

/-- The fields of a class. -/
def classFields (name : String) (bases keywords body decorators : List Tree) : List Tree :=
  [.text name, .list bases, .list keywords, .list body, .list decorators]

/-- What stands around the body of a class: bases, keywords and decorators. -/
def isOperand : Tree → Bool
  | .node k _ => k = .keyword || isExpressionKind k
  | _ => true

section

variable {o : Options} {s s' : State}

/-! What is no function -/

/-- The rule of an expression gives no statement, and that of a keyword nothing. -/
theorem value_rule {k : Kind} (hk : (k = .keyword || isExpressionKind k) = true) (ws : List Branch)
    (cs : List Piece) : Results o (isValue · = true) (rule k ws cs) := by
  unfold rule
  split
  · exact value_subscriptRule _ _
  · exact value_comprehensionRule _
  · unfold fieldRule
    split <;> first | cases hk | skip
    · exact results_bind fun _ => results_bind fun _ => value_pure rfl
    · exact value_binaryRule _ _
    · exact results_bind fun _ => results_bind fun _ => results_bind fun _ => value_grouped _ _ _
    · exact results_bind fun _ => results_bind fun _ => results_bind fun _ => value_pure rfl
    · refine results_bind fun v => ?_
      split
      · exact results_throw _
      · exact value_pure rfl
    · exact results_bind fun _ => value_pure rfl
    · exact value_nameRule _
    · exact value_callRule _ _
    · exact results_bind fun _ => results_bind fun _ => results_bind fun _ => value_pure rfl
    · exact value_pure rfl
    · exact value_pure rfl
    · exact results_bind fun _ => value_pure rfl
    · exact results_bind fun _ => value_functionOf _ _
    · exact value_pure rfl

theorem method?_of_isValue {p : Piece} (h : isValue p = true) : method? p = none := by
  unfold method?
  split
  · cases h
  · rfl

theorem methods_operands {ts : List Tree} (hts : ∀ t ∈ ts, isOperand t = true) {rs : List Record}
    (h : Recorded o (.list ts) rs) : (nodesOf rs).filterMap method? = [] := by
  refine List.filterMap_eq_nil_iff.2 fun q hq => ?_
  obtain ⟨r, hr, hq⟩ := List.mem_flatMap.1 hq
  obtain ⟨t, ht, hrec⟩ := forall₂_right (recorded_list h) hr
  obtain ⟨hmem, hnode⟩ := List.mem_filter.1 ht
  cases t with
  | node k fs =>
    obtain ⟨p, rss, hrs, -, s1, s2, hrule⟩ := recorded_node hrec
    cases hrs
    have hvalue : isValue p = true := value_rule (hts _ hmem) _ _ s1 p s2 hrule
    rcases spliced_of_isPlain (Bool.and_eq_true_iff.1 hvalue).1 with h0 | h1
    · rw [Record.result_mk, h0] at hq
      cases hq
    · rw [Record.result_mk, h1] at hq
      rw [List.mem_singleton.1 hq]
      exact method?_of_isValue hvalue
  | _ => cases hnode

/-! What function definitions come to -/

/-- The definition came to a function under its name, and to what its decorators make of it. -/
def Defines (o : Options) (e : Method × Piece) (r : Record) : Prop :=
  ∃ ps body ds, e.2 = functionPiece ps body ∧
    spliced r.result = decorated (declaredWord (nameIn o e.1.name)) e.2 ds ∧
    (e.1.decorators = [] → ds = [])

theorem method?_definition (id : Piece) (ps : Seq) (body : List Piece) :
    method? (definitionOf id (functionPiece ps body)) = some (id, functionPiece ps body) := rfl

theorem method?_application (id d : Piece) : method? (application id d) = none := rfl

/-- Decorators are lost on a class: of a definition it sees the function. -/
theorem methods_defined {e : Method × Piece} {r : Record} (h : Defines o e r) :
    (spliced r.result).filterMap method? = [(declaredWord (nameIn o e.1.name), e.2)] := by
  obtain ⟨ps, body, ds, hf, hspliced, -⟩ := h
  have hnone : (ds.map (application (declaredWord (nameIn o e.1.name)))).filterMap method? = [] := by
    rw [List.filterMap_map]
    exact List.filterMap_eq_nil_iff.2 fun d _ => method?_application _ d
  rw [hspliced, decorated, List.filterMap_cons, hf, method?_definition, hnone]

theorem methods_all_defined {es : List (Method × Piece)} {rs : List Record}
    (h : List.Forall₂ (Defines o) es rs) : (nodesOf rs).filterMap method? =
      es.map fun e => (declaredWord (nameIn o e.1.name), e.2) := by
  induction h with
  | nil => rfl
  | cons he _ ih =>
    rw [nodesOf_cons, List.filterMap_append, methods_defined he, ih]
    rfl

theorem exists_defines {m : Method} {r : Record} (h : Recorded o m.tree [r]) :
    ∃ f, Defines o (m, f) r := by
  obtain ⟨s, s', hs, h⟩ := h
  obtain ⟨r', s1, hr, h⟩ := run_bind_ok h
  cases h
  obtain ⟨as, bs, es, rs, vars, ps, id, -, -, -, -, hspliced, -⟩ := run_method hs hr
  refine ⟨_, ps, _, _, rfl, hspliced, fun hnone => ?_⟩
  have hnone : m.decorators = [] := hnone
  simp [hnone, lastOf]

/-- The functions that the definitions of a list came to. -/
theorem exists_all_defines {ms : List Method} {rs : List Record}
    (h : Recorded o (.list (ms.map Method.tree)) rs) :
    ∃ es : List (Method × Piece), es.map (·.1) = ms ∧ List.Forall₂ (Defines o) es rs := by
  have hall := recorded_list h
  rw [List.filter_eq_self.2 (by simp [Method.tree, Tree.isNode]), List.forall₂_map_left_iff] at hall
  clear h
  induction hall with
  | nil => exact ⟨[], rfl, .nil⟩
  | cons hr _ ih =>
    obtain ⟨f, hf⟩ := exists_defines hr
    obtain ⟨es, rfl, hes⟩ := ih
    exact ⟨(_, f) :: es, rfl, .cons hf hes⟩

/-! Classes -/

theorem lasts_recordFields (fs : List Tree) : KeepsAt o (OnScope Lasts) (recordFields fs) := by
  intro s rss s' h
  have hvisit : run ((walkAll fs).forM visitField) o s = (.ok (), s') := by
    rw [forM_recordFields fun t _ => visitField_walk t, discard_eq, run_bind_of_ok h]
    rfl
  refine keeps_forM (Tracked.stepsLasts o) _ (fun w hw => ?_) s () s' hvisit
  exact keeps_visitField (Tracked.stepsLasts o) (forall_walkAll (fun t _ => lasts_walk o t) w hw)

theorem hasKey_bound {sc : Scope} {key key' : Option String} {p : Piece} :
    (sc.bound key p).hasKey key' = true ↔ sc.hasKey key' = true ∨ key' = key := by
  unfold Scope.bound
  split_ifs with hseen
  · constructor
    · exact .inl
    · rintro (h | rfl)
      · exact h
      · exact hseen
  · simp only [hasKey_maps, hasKey_put_iff]
    exact or_right_comm

/-- Whether a definition goes by the name of constructors. -/
def isMaker (o : Options) (e : Method × Piece) : Bool := nameIn o e.1.name = "__init__"

/-- A class whose definitions came to `es`, put together in the scope `sc` that its fields left; `sc'` is
that scope without the name of the constructor. -/
structure IsClass (o : Options) (name : String) (es : List (Method × Piece)) (sc sc' : Scope)
    (m : Marks) (id p : Piece) : Prop where
  piece : p = classPiece id (classBody
    (.node (.leaf .ident (.text (nameIn o (sc'.fresh "classref")))) { m with declared := true })
    (.node (.leaf .ident (.text (nameIn o (sc'.fresh "classref")))) m)
    (((es.find? (isMaker o)).map (·.2)).getD emptyFunction)
    ((es.eraseP (isMaker o)).map fun e => (declaredWord (nameIn o e.1.name), e.2)))
  named : nameOf? id = some (nameIn o name)
  outer : sc'.outer = sc.outer
  inner : if es.any (isMaker o) then
      sc.inner.has "__init__" = true ∧ sc'.inner = sc.inner.erase "__init__"
    else sc'.inner = sc.inner

theorem isConstructor_comp (o : Options) : (isConstructor ∘ fun e : Method × Piece =>
    (declaredWord (nameIn o e.1.name), e.2)) = isMaker o := by
  funext e
  rw [Bool.eq_iff_iff, Function.comp_apply, isConstructor_iff, isMaker, decide_eq_true_iff]
  exact Option.some_inj

/-- The rule of a class sees the functions among its results. -/
theorem isClass_of_run {name : String} {es : List (Method × Piece)} {cs : List Piece} {p : Piece}
    (hcs : cs.filterMap method? = es.map fun e => (declaredWord (nameIn o e.1.name), e.2))
    (h : run (classRule (.text name) cs) o s = (.ok p, s')) :
    ∃ sc m id, IsClass o name es s.scope sc m id p ∧ Lasts s.scope sc ∧
      s'.scope.maps = (sc.bound (some name) id).maps := by
  obtain ⟨e, s1, m, id, hparts, rfl, hname, hmaps⟩ := run_classRule h
  have hlasts : Lasts s.scope s1.scope := keeps_classParts Scoped.ofLasts cs s e s1 hparts
  obtain ⟨rfl, houter, hinner⟩ := run_classParts hparts
  rw [hcs, List.any_map, isConstructor_comp] at hinner
  refine ⟨s1.scope, m, id, ⟨?_, hname, houter, hinner⟩, hlasts, hmaps⟩
  rw [hcs, List.find?_map, List.eraseP_map, isConstructor_comp, Option.map_map]
  rfl

theorem run_class {name : String} {bases keywords decorators : List Tree} {ms : List Method}
    (hother : ∀ t ∈ bases ++ (keywords ++ decorators), isOperand t = true) {p : Piece} (hs : Ready s)
    (h : run (visit (.node .classDef
      (classFields name bases keywords (ms.map Method.tree) decorators))) o s = (.ok p, s')) :
    ∃ bs ks rs ds es s1 s2 sc m id,
      run (record .classDef (classFields name bases keywords (ms.map Method.tree) decorators)) o s =
        (.ok (.mk (.node .classDef
          (classFields name bases keywords (ms.map Method.tree) decorators)) p [[], bs, ks, rs, ds]), s') ∧
      es.map (·.1) = ms ∧ List.Forall₂ (Defines o) es rs ∧ s1.scope = s.scope ∧ Ready s1 ∧
      run (recordFields (classFields name bases keywords (ms.map Method.tree) decorators)) o s1 =
        (.ok [[], bs, ks, rs, ds], s2) ∧
      IsClass o name es s2.scope sc m id p ∧ Lasts s2.scope sc ∧
      s'.scope.maps = (sc.bound (some name) id).maps := by
  obtain ⟨r, hrecord, rfl⟩ := exists_record h
  obtain ⟨s1, s2, s3, rss, he, hs1, hfields, hrule, hr, hend⟩ := run_record hs hrecord
  have hrecorded := recorded_fields hs1 hfields
  simp only [classFields, List.forall₂_cons_left_iff, List.forall₂_nil_left_iff] at hrecorded
  obtain ⟨_, _, ⟨_, _, -, hname⟩, ⟨bs, _, hb, ⟨ks, _, hk, ⟨rs, _, hm, ⟨ds, _, hd, rfl, rfl⟩, rfl⟩, rfl⟩,
    rfl⟩, rfl⟩ := hrecorded
  cases hname
  obtain ⟨es, hes, hdefines⟩ := exists_all_defines hm
  have hcs : (nodesOf [[], bs, ks, rs, ds].flatten).filterMap method? =
      es.map fun e => (declaredWord (nameIn o e.1.name), e.2) := by
    simp only [List.flatten_cons, List.flatten_nil, List.nil_append, List.append_nil, nodesOf_append,
      List.filterMap_append]
    rw [methods_operands (fun t ht => hother t (by simp [ht])) hb,
      methods_operands (fun t ht => hother t (by simp [ht])) hk,
      methods_operands (fun t ht => hother t (by simp [ht])) hd, methods_all_defined hdefines]
    simp
  rw [rule_walkAll rfl] at hrule
  obtain ⟨sc, m, id, hclass, hlasts, hmaps⟩ := isClass_of_run hcs hrule
  exact ⟨bs, ks, rs, ds, es, s1, s2, sc, m, id, by rw [← hr]; exact hrecord, hes, hdefines,
    he.scope, hs1, hfields, hclass, hlasts, by rw [hend]; exact hmaps⟩

/-- No method is lost, doubled or moved. -/
theorem class_methods_kept (ho : o.camelCase = false) {name : String}
    {bases keywords decorators : List Tree} {ms : List Method}
    (hms : ∀ m ∈ ms, m.decorators = [])
    (hother : ∀ t ∈ bases ++ (keywords ++ decorators), isOperand t = true) {p : Piece} (hs : Ready s)
    (h : run (visit (.node .classDef
      (classFields name bases keywords (ms.map Method.tree) decorators))) o s = (.ok p, s')) :
    ∃ bs ks rs ds, ∃ es : List (Method × Piece), ∃ id k m,
      run (record .classDef (classFields name bases keywords (ms.map Method.tree) decorators)) o s =
        (.ok (.mk (.node .classDef
          (classFields name bases keywords (ms.map Method.tree) decorators)) p [[], bs, ks, rs, ds]), s') ∧
      es.map (·.1) = ms ∧
      List.Forall₂ (fun e r => (∃ ps body, e.2 = functionPiece ps body) ∧
        spliced r.result = [definitionOf (declaredWord e.1.name) e.2]) es rs ∧
      p = classPiece id (classBody
        (.node (.leaf .ident (.text (Scope.numbered "classref" k))) { m with declared := true })
        (.node (.leaf .ident (.text (Scope.numbered "classref" k))) m)
        (((es.find? fun e => e.1.name = "__init__").map (·.2)).getD emptyFunction)
        ((es.eraseP fun e => e.1.name = "__init__").map fun e => (declaredWord e.1.name, e.2))) ∧
      nameOf? id = some name ∧
      s.scope.hasKey (some (Scope.numbered "classref" k)) = false ∧
      (s'.scope.hasKey (some (Scope.numbered "classref" k)) = true →
        Scope.numbered "classref" k = name) := by
  have hname (n : String) : nameIn o n = n := by
    unfold nameIn
    rw [if_neg (by simp [ho])]
  have hmaker : isMaker o = fun e => decide (e.1.name = "__init__") := by
    funext e
    rw [isMaker, hname]
  obtain ⟨bs, ks, rs, ds, es, s1, s2, sc, m, id, hrecord, rfl, hdefines, hs1, -, hfields, hclass, hlasts,
    hmaps⟩ := run_class hother hs h
  obtain ⟨k, hk, hfree⟩ := exists_fresh sc "classref"
  have hpiece := hclass.piece
  have hnamed := hclass.named
  simp only [hname, hmaker, hk] at hpiece hnamed
  refine ⟨bs, ks, rs, ds, es, id, k, m, hrecord, rfl, ?_, hpiece, hnamed, ?_, fun hseen => ?_⟩
  · clear hpiece hclass hfields hrecord h
    induction hdefines with
    | nil => exact .nil
    | @cons e r es rs he _ ih =>
      obtain ⟨ps, body, ds', hf, hspliced, hnone⟩ := he
      have hplain : ds' = [] := hnone (hms e.1 (by simp))
      subst hplain
      rw [hname] at hspliced
      exact .cons ⟨⟨ps, body, hf⟩, hspliced⟩ (ih fun m hm => hms m (by simp [hm]))
  · have hbefore : Lasts s.scope sc := by
      rw [← hs1]
      exact (lasts_recordFields _ s1 _ s2 hfields).trans hlasts
    have hne : Scope.numbered "classref" k ≠ "__init__" := IsTemporary.ne_init ⟨.maker, k, rfl⟩
    rw [← Bool.not_eq_true]
    intro hseen
    have hstill := hbefore.hasKey hne hseen
    rw [hfree.free] at hstill
    cases hstill
  · have hbound : (sc.bound (some name) id).hasKey (some (Scope.numbered "classref" k)) = true := by
      unfold Scope.hasKey at hseen ⊢
      rwa [← hmaps]
    rcases hasKey_bound.1 hbound with hin | heq
    · rw [hfree.free] at hin
      cases hin
    · exact Option.some.inj heq

/-- A function without parameters over one statement. -/
def thunk (name body : String) : Method where
  name := name
  args := .node .arguments []
  body := .list [nameStatement body]
  returns := .none

/-- Two functions of one name, and two constructors among them. -/
def twiceOver : List Method := [thunk "f" "a", thunk "__init__" "b", thunk "f" "c", thunk "__init__" "d"]

theorem twiceOver_kept : ∃ p s' f1 maker f2 f3 id c d,
    run (visit (.node .classDef (classFields "A" [] [] (twiceOver.map Method.tree) []))) {} {} =
      (.ok p, s') ∧
    p = classPiece id (classBody d c maker [(declaredWord "f", f1), (declaredWord "f", f2),
      (declaredWord "__init__", f3)]) := by
  obtain ⟨p, s', hrun, -⟩ := exists_observed .classDef
    (classFields "A" [] [] (twiceOver.map Method.tree) []) (fun _ => ()) (b := ()) (by decide +kernel)
  obtain ⟨bs, ks, rs, ds, es, id, k, m, -, hes, -, hp, -⟩ :=
    class_methods_kept rfl (by decide) (by simp) ready_start hrun
  simp only [twiceOver, List.map_eq_cons_iff, List.map_eq_nil_iff] at hes
  obtain ⟨⟨_, f1⟩, _, rfl, rfl, ⟨_, maker⟩, _, rfl, rfl, ⟨_, f2⟩, _, rfl, rfl, ⟨_, f3⟩, _, rfl, rfl, rfl⟩ := hes
  exact ⟨p, s', f1, maker, f2, f3, id, _, _, hrun, hp⟩

end

end Transpile.Walk
