import Transpile.Proofs.Naming.Protected

/-! What definitions come to. A function definition is one statement that gives the function its name and
one more for each decorator; a class is the call of a function that puts its functions together. Either
changes the scope around it by its own name, and a class gives up the name of its constructor. -/

namespace Transpile

open Script

/-- The scope with a piece bound under a key, unless a visible name has the key. -/
def Scope.bound (sc : Scope) (key : Option String) (p : Piece) : Scope :=
  if sc.hasKey key then sc else { sc with inner := sc.inner.put key p }

theorem maps_bound {sc sc' : Scope} (h : sc.maps = sc'.maps) (key : Option String) (p : Piece) :
    (sc.bound key p).maps = (sc'.bound key p).maps := by
  obtain ⟨hinner, houter⟩ := List.cons.inj h
  have hseen : sc.hasKey key = sc'.hasKey key := by
    unfold Scope.hasKey
    rw [h]
  unfold Scope.bound
  rw [hseen]
  split_ifs
  · exact h
  · simp only [Scope.maps, hinner, houter]

namespace Walk

open Source

/-- An identifier that a declaration has introduced. -/
def declaredWord (n : String) : Piece := .node (.leaf .ident (.text n)) { declared := true }

def definitionOf (id f : Piece) : Piece := statement (Form.varDecl id f).piece

/-- The statement that applies a decorator to what goes by a name. -/
def application (id d : Piece) : Piece := statement (assignTo "=" id (callOf d [id]))

/-- A definition and the decorators in the order in which they are applied. -/
def decorated (id f : Piece) (ds : List Piece) : List Piece :=
  definitionOf id f :: ds.map (application id)

def functionPiece (params : Seq) (body : List Piece) : Piece :=
  (Form.function .expr .absent params (.items body)).piece

section

variable {o : Options} {s s' : State}

theorem run_bindAs {key p q : Piece} (h : run (bindAs key p) o s = (.ok q, s')) :
    s'.scope = s.scope.bound (keyOf key) q := by
  obtain ⟨seen, s1, hseen, h⟩ := run_bind_ok h
  obtain ⟨_, _, hget, hseen⟩ := run_bind_ok hseen
  cases hget
  cases hseen
  unfold Scope.bound
  split_ifs at h ⊢
  · cases h
    rfl
  · obtain ⟨r, s2, hsite, h⟩ := run_bind_ok h
    obtain ⟨_, s3, hset, h⟩ := run_bind_ok h
    cases h
    obtain ⟨-, rfl⟩ := run_changeScope hset
    rw [(run_atSite hsite).2]
    rfl

theorem nameOf?_bindAs {key q : Piece} {n : String}
    (h : run (bindAs key (word n)) o s = (.ok q, s')) : nameOf? q = some n := by
  have hbare : q.bare = word n := bare_bindAs h
  cases q with
  | node f m =>
    cases hbare
    rfl
  | _ => cases hbare

theorem run_functionOf {params body : Seq} {f : Piece}
    (h : run (functionOf params body) o s = (.ok f, s')) :
    (∃ ps, f = (Form.function .expr .absent ps body).piece) ∧ s' = s := by
  refine ⟨results_functionOf params body s f s' h, ?_⟩
  obtain ⟨_, s1, hneed, h⟩ := run_bind_ok h
  cases h
  exact (run_need hneed).2

/-! Functions -/

/-- A function definition. -/
structure Method where
  name : String
  args : Tree
  body : Tree
  decorators : List Tree := []
  returns : Tree

def Method.fields (m : Method) : List Tree :=
  [.text m.name, m.args, m.body, .list m.decorators, m.returns]

def Method.tree (m : Method) : Tree := .node .functionDef m.fields

theorem spliced_decorated {id f : Piece} {ds : List Piece} {p : Piece}
    (h : p = if ds = [] then definitionOf id f
      else splice (definitionOf id f :: (ds.map (application id)).reverse)) :
    spliced p = decorated id f ds.reverse := by
  subst h
  split_ifs with hds
  · subst hds
    rfl
  · have hall : ∀ q ∈ definitionOf id f :: (ds.map (application id)).reverse,
        (!q.isAbsent) = true := by
      intro q hq
      rcases List.mem_cons.1 hq with rfl | hq
      · rfl
      · obtain ⟨d, -, rfl⟩ := List.mem_map.1 (List.mem_reverse.1 hq)
        rfl
    rw [spliced_splice, List.filter_eq_self.2 hall, ← List.map_reverse]
    rfl

/-- The results of a function definition are its parameters, its body and its decorators; the body
ends where as many results are left as there are decorators. -/
theorem run_defineFunction_parts {name : String} {cs vars : List Piece} {n : Nat} {p : Piece}
    (h : run (defineFunction (.text name) cs vars n) o s = (.ok p, s')) :
    ∃ params rest ps id, cs = params :: rest ∧
      spliced p = decorated (declaredWord (nameIn o name))
        (functionPiece ps (vars ++ (butLast n cs).drop 1)) (lastOf n cs).reverse ∧
      s'.scope = s.scope.leave.bound (some name) id := by
  have hparts : (if n = 0 then (cs.drop 1, []) else ((butLast n cs).drop 1, lastOf n cs)) =
      ((butLast n cs).drop 1, lastOf n cs) := by
    split_ifs with hn
    · simp [hn, butLast, lastOf]
    · rfl
  unfold defineFunction at h
  rw [hparts] at h
  obtain ⟨_, _, hkey, h⟩ := run_bind_ok h
  cases hkey
  obtain ⟨_, _, hname, h⟩ := run_bind_ok h
  rw [Tracked.run_sourceName_text] at hname
  cases hname
  obtain ⟨_, _, hdeclare, h⟩ := run_bind_ok h
  cases hdeclare
  obtain ⟨params, s1, hchild, h⟩ := run_bind_ok h
  obtain ⟨f, s2, hf, h⟩ := run_bind_ok h
  obtain ⟨_, _, hleave, h⟩ := run_bind_ok h
  cases hleave
  obtain ⟨id, s3, hbind, h⟩ := run_bind_ok h
  obtain ⟨rest, rfl⟩ := results_child_zero cs _ _ _ hchild
  obtain ⟨⟨ps, rfl⟩, hs2⟩ := run_functionOf hf
  have hscope : s3.scope = s.scope.leave.bound (some name) id := by
    rw [run_bindAs hbind, hs2, (run_child hchild).2]
    rfl
  refine ⟨params, rest, ps, id, rfl, spliced_decorated ?_, ?_⟩
  · split at h
    · next happlied =>
      cases h
      rw [if_pos happlied]
      rfl
    · next happlied =>
      cases h
      rw [if_neg happlied]
      rfl
  · split at h
    all_goals
      cases h
      exact hscope

theorem isLead_scopeVars (root : Bool) : Results o IsLead (scopeVars root) := by
  refine results_bind fun s => results_bind fun ps => ?_
  split
  · exact results_pure (.inl rfl)
  · exact results_bind fun ds => results_pure (.inr ⟨ds, rfl⟩)

theorem run_functionRule_parts {name : String} {ds : List Tree} {cs : List Piece} {p : Piece}
    (h : run (functionRule (.text name) (.list ds) cs) o s = (.ok p, s')) :
    ∃ params rest vars ps id, cs = params :: rest ∧ IsLead vars ∧
      spliced p = decorated (declaredWord (nameIn o name))
        (functionPiece ps (vars ++ (butLast ds.length cs).drop 1)) (lastOf ds.length cs).reverse ∧
      s'.scope = s.scope.leave.bound (some name) id := by
  rw [functionRule_eq] at h
  obtain ⟨vars, s1, hvars, h⟩ := run_bind_ok h
  obtain ⟨n, s2, hcount, h⟩ := run_bind_ok h
  have hn : n = ds.length ∧ s2 = s1 := by
    cases ds <;> cases hcount <;> exact ⟨rfl, rfl⟩
  rw [hn.1, hn.2] at h
  obtain ⟨params, rest, ps, id, hcs, hp, hscope⟩ := run_defineFunction_parts h
  rw [(run_scopeVars_quiet hvars).1.scope] at hscope
  exact ⟨params, rest, vars, ps, id, hcs, isLead_scopeVars false s vars s1 hvars, hp, hscope⟩

/-- A function is walked in a scope of its own, so that its name is all that it adds to the scope
around it. -/
theorem run_method {m : Method} {r : Record} (hs : Ready s)
    (h : run (record .functionDef m.fields) o s = (.ok r, s')) :
    ∃ as bs es rs vars ps id,
      r = .mk m.tree r.result [[], as, bs, es, rs] ∧
      List.Forall₂ (Recorded o) [m.args, m.body, .list m.decorators, m.returns] [as, bs, es, rs] ∧
      nodesOf [as, bs, es, rs].flatten ≠ [] ∧ IsLead vars ∧
      spliced r.result = decorated (declaredWord (nameIn o m.name))
        (functionPiece ps
          (vars ++ (butLast m.decorators.length (nodesOf [as, bs, es, rs].flatten)).drop 1))
        (lastOf m.decorators.length (nodesOf [as, bs, es, rs].flatten)).reverse ∧
      s'.scope.maps = (s.scope.bound (some m.name) id).maps := by
  obtain ⟨s1, s2, s3, rss, he, hs1, hfields, hrule, hr, hend⟩ := run_record hs h
  have hkept : Kept s1 s2 (nodesOf rss.flatten) :=
    adds_recordFields (fun t _ => adds_recordsOf t) o s1 rss s2 hs1 hfields
  have hrecorded := recorded_fields hs1 hfields
  simp only [Method.fields, List.forall₂_cons_left_iff, List.forall₂_nil_left_iff] at hrecorded
  obtain ⟨_, _, ⟨_, _, -, hname⟩, ⟨as, _, ha, ⟨bs, _, hb, ⟨es, _, hd, ⟨rs, _, hret, rfl, rfl⟩, rfl⟩, rfl⟩,
    rfl⟩, rfl⟩ := hrecorded
  cases hname
  rw [rule_walkAll rfl] at hrule
  obtain ⟨params, rest, vars, ps, id, hcs, hlead, hp, hscope⟩ := run_functionRule_parts hrule
  refine ⟨as, bs, es, rs, vars, ps, id, hr, .cons ha (.cons hb (.cons hd (.cons hret .nil))), ?_,
    hlead, hp, ?_⟩
  · exact fun hnil => List.cons_ne_nil params rest (hcs.symm.trans hnil)
  · have houter : s2.scope.outer = s.scope.inner :: s.scope.outer := by
      rw [hkept.outer, he.scope]
      rfl
    have hleft : (s2.scope.leave).maps = s.scope.maps := by
      unfold Scope.leave Scope.maps
      rw [houter]
    rw [hend, hscope]
    exact maps_bound hleft (some m.name) id

/-! Classes -/

def emptyFunction : Piece := functionPiece (.items []) []

/-- The statement that makes a function a member of the class that goes by `c`. -/
def memberOf (c : Piece) (m : Piece × Piece) : Piece :=
  statement (assignTo "=" (Form.dot (dot c "prototype") m.1).piece m.2)

/-- The statements of the function of a class: its name is declared and given the constructor, the
members are added, and the class is returned. -/
def classBody (declared c maker : Piece) (members : List (Piece × Piece)) : List Piece :=
  (Form.group .vars (.items [(Form.varDecl declared .absent).piece])).piece ::
    statement (assignTo "=" c maker) :: members.map (memberOf c) ++ [(Form.returns c).piece]

def classPiece (id : Piece) (body : List Piece) : Piece :=
  statement (assignTo "=" id (callOf (functionPiece (.items []) body).inParens []))

theorem isConstructor_iff {m : Piece × Piece} :
    isConstructor m = true ↔ nameOf? m.1 = some "__init__" := by
  unfold isConstructor nameOf?
  split
  · next h => simp [h, keyOf]
  · next h =>
    cases hv : m.1.value with
    | error c => simp
    | ok v =>
      simp only [Bool.false_eq_true, false_iff]
      unfold keyOf
      split
      · next s =>
        rintro ⟨⟩
        exact h hv
      · nofun

theorem dropConstructor_eq (ms : List (Piece × Piece)) :
    dropConstructor ms = ms.eraseP isConstructor := by
  induction ms with
  | nil => rfl
  | cons m ms ih =>
    rw [dropConstructor, List.eraseP_cons, ih]
    cases isConstructor m <;> rfl

/-- What is the constructor of a class is not a member. Its name must stand in the innermost map and
is removed from there. -/
theorem run_classParts {cs : List Piece} {e : Piece × List (Piece × Piece)}
    (h : run (classParts cs) o s = (.ok e, s')) :
    e = ((((cs.filterMap method?).find? isConstructor).map (·.2)).getD emptyFunction,
        (cs.filterMap method?).eraseP isConstructor) ∧
      s'.scope.outer = s.scope.outer ∧
      if (cs.filterMap method?).any isConstructor then
        s.scope.inner.has "__init__" = true ∧ s'.scope.inner = s.scope.inner.erase "__init__"
      else s'.scope.inner = s.scope.inner := by
  unfold classParts at h
  split at h
  · next m hm =>
    obtain ⟨_, s1, hunset, h⟩ := run_bind_ok h
    cases h
    obtain ⟨hok, rfl⟩ := run_changeScope hunset
    have hany : (cs.filterMap method?).any isConstructor = true :=
      List.any_eq_true.2 ⟨m, List.mem_of_find?_eq_some hm, List.find?_some hm⟩
    rw [if_pos hany, hm, dropConstructor_eq]
    unfold Scope.unset at hok ⊢
    split_ifs at hok ⊢ with hin
    exact ⟨rfl, rfl, hin, rfl⟩
  · next hnone =>
    obtain ⟨f, s1, hf, h⟩ := run_bind_ok h
    cases h
    have hall : ∀ m ∈ cs.filterMap method?, ¬ isConstructor m = true := List.find?_eq_none.1 hnone
    have hany : ¬ (cs.filterMap method?).any isConstructor = true := by
      rw [List.any_eq_true]
      rintro ⟨m, hm, hc⟩
      exact hall m hm hc
    obtain ⟨-, rfl⟩ := run_functionOf hf
    cases hf
    rw [if_neg hany, hnone, List.eraseP_of_forall_not hall]
    exact ⟨rfl, rfl, rfl⟩

/-- Where one name is bound, it is the one that is declared. -/
theorem run_scopeVars_single {key : Option String} {n : String} {m : Marks} {vars : List Piece}
    (hinner : s.scope.inner = [⟨key, .node (.leaf .ident (.text n)) m⟩])
    (h : run (scopeVars false) o s = (.ok vars, s')) :
    vars = [(Form.group .vars (.items [(Form.varDecl
      (.node (.leaf .ident (.text n)) { m with declared := true }) .absent).piece])).piece] := by
  have hids : s.scope.identifiers false = .ok [.node (.leaf .ident (.text n)) m] := by
    unfold Scope.identifiers
    rw [hinner]
    rfl
  obtain ⟨_, _, hget, h⟩ := run_bind_ok h
  cases hget
  rw [hids] at h
  obtain ⟨_, _, hneed, h⟩ := run_bind_ok h
  cases hneed
  obtain ⟨ds, s1, hds, h⟩ := run_bind_ok h
  cases h
  rw [List.mapM_cons] at hds
  obtain ⟨d, s2, hd, hds⟩ := run_bind_ok hds
  cases hds
  obtain ⟨id, s3, hid, hd⟩ := run_bind_ok hd
  cases hd
  have hdeclared : id = .node (.leaf .ident (.text n)) { m with declared := true } := by
    unfold declare at hid
    split at hid
    · obtain ⟨_, s4, -, hid⟩ := run_bind_ok hid
      cases hid
      rfl
    · cases hid
      rfl
  rw [hdeclared]
  rfl

/-- The temporary for the function of a class is drawn when its functions are walked, and stands in a
scope of its own. -/
theorem run_classRule {name : String} {cs : List Piece} {p : Piece}
    (h : run (classRule (.text name) cs) o s = (.ok p, s')) :
    ∃ e s1 m id, run (classParts cs) o s = (.ok e, s1) ∧
      p = classPiece id (classBody
        (.node (.leaf .ident (.text (nameIn o (s1.scope.fresh "classref")))) { m with declared := true })
        (.node (.leaf .ident (.text (nameIn o (s1.scope.fresh "classref")))) m) e.1 e.2) ∧
      nameOf? id = some (nameIn o name) ∧
      s'.scope.maps = (s1.scope.bound (some name) id).maps := by
  rw [classRule_eq] at h
  obtain ⟨e, s1, hparts, h⟩ := run_bind_ok h
  obtain ⟨_, _, henter, h⟩ := run_bind_ok h
  cases henter
  obtain ⟨c, s2, hc, h⟩ := run_bind_ok h
  obtain ⟨vars, s3, hvars, h⟩ := run_bind_ok h
  obtain ⟨closure, s4, hclosure, h⟩ := run_bind_ok h
  obtain ⟨_, _, hkey, h⟩ := run_bind_ok h
  cases hkey
  obtain ⟨_, _, hname, h⟩ := run_bind_ok h
  rw [Tracked.run_sourceName_text] at hname
  cases hname
  obtain ⟨_, _, hleave, h⟩ := run_bind_ok h
  cases hleave
  obtain ⟨id, s5, hbind, h⟩ := run_bind_ok h
  cases h
  have hscope := (Tracked.run_fresh hc).2
  obtain ⟨m, hm⟩ : ∃ m, c = .node (.leaf .ident (.text (nameIn o (s1.scope.fresh "classref")))) m := by
    obtain ⟨_, _, hget, hc⟩ := run_bind_ok hc
    cases hget
    obtain ⟨_, _, hword, hc⟩ := run_bind_ok hc
    rw [Tracked.run_sourceName_text] at hword
    cases hword
    obtain ⟨_, _, hsite, hc⟩ := run_bind_ok hc
    cases hsite
    obtain ⟨_, _, -, hc⟩ := run_bind_ok hc
    cases hc
    exact ⟨_, rfl⟩
  subst hm
  have hlist := run_scopeVars_single (by rw [hscope]; rfl) hvars
  subst hlist
  refine ⟨e, s1, m, id, hparts, ?_, ?_, ?_⟩
  · cases hclosure
    rfl
  · exact nameOf?_bindAs hbind
  · have hleft : s4.scope.leave.maps = s1.scope.maps := by
      rw [(run_functionOf hclosure).2, (run_scopeVars_quiet hvars).1.scope, hscope]
      rfl
    rw [run_bindAs hbind]
    exact maps_bound hleft _ _

end

end Walk

end Transpile
