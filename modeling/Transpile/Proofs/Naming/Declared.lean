import Transpile.Proofs.Shapes

/-! What functions and programs declare. The body that is built for them starts with one statement
that declares the names of their scope, in increasing order and each of them once. -/

namespace Transpile.Walk

open Script Source

/-! Where the names stand -/

/-- The name that a declaration introduces. -/
def declaredName? : Piece → Option String
  | .node (.varDecl name _) _ => nameOf? name
  | _ => none

/-- The names that a body declares in its first statement. -/
def leadingNames : List Piece → List String
  | .node (.group .vars (.items ds)) _ :: _ => ds.filterMap declaredName?
  | _ => []

def functionBody : Piece → List Piece
  | .node (.function _ _ _ (.items body)) _ => body
  | _ => []

/-- The body of a function definition, which may come before its decorators. -/
def definitionBody : Piece → List Piece
  | .node (.exprStatement (.node (.varDecl _ f) _)) _
  | .node (.group .splice (.items (.node (.exprStatement (.node (.varDecl _ f) _)) _ :: _))) _ =>
    functionBody f
  | _ => []

/-- The body of a program, which may be wrapped in a function that is called at once. -/
def programBody (o : Options) : Piece → List Piece
  | .node (.group .program (.items body)) _ =>
    match o.closure, body with
    | true, [.node (.exprStatement (.node (.call (.node (.dot f _) _) _) _)) _] => functionBody f
    | true, _ => []
    | false, body => body
  | _ => []

def isVars : Piece → Bool
  | .node (.group .vars _) _ => true
  | _ => false

/-- Nothing, or one statement that declares names. -/
def IsLead (vars : List Piece) : Prop :=
  vars = [] ∨ ∃ ds, vars = [(Form.group .vars (.items ds)).piece]

theorem leadingNames_append {vars body : List Piece} (hv : IsLead vars)
    (hb : ∀ q ∈ body, isVars q = false) : leadingNames (vars ++ body) = leadingNames vars := by
  rcases hv with rfl | ⟨ds, rfl⟩
  · rw [List.nil_append]
    unfold leadingNames
    split
    · cases hb _ List.mem_cons_self
    · rfl
  · rfl

section

variable {o : Options} {s s' : State}

/-! The statement that declares names -/

theorem run_declare {p q : Piece} (h : run (declare p) o s = (.ok q, s')) : q.value = p.value := by
  have hneed {s1 : State} (h : run (need p.declare) o s1 = (.ok q, s')) : q.value = p.value := by
    obtain ⟨hp, -⟩ := run_need h
    unfold Piece.declare at hp
    split at hp
    · cases hp
      rfl
    · cases hp
  unfold declare at h
  split at h
  · obtain ⟨_, s1, -, h⟩ := run_bind_ok h
    exact hneed h
  · exact hneed h

theorem names_declaration (p v : Piece) :
    Results o (fun d => declaredName? d = nameOf? p) (declaration p v) := by
  intro s d s' h
  obtain ⟨q, _, hq, h⟩ := run_bind_ok h
  cases h
  exact nameOf?_congr (run_declare hq)

theorem filterMap_of_forall₂ {α β γ : Type} {f : α → Option γ} {g : β → Option γ} {as : List α}
    {bs : List β} (h : List.Forall₂ (fun a b => g b = f a) as bs) :
    bs.filterMap g = as.filterMap f := by
  induction h with
  | nil => rfl
  | cons hab _ ih => rw [List.filterMap_cons, List.filterMap_cons, hab, ih]

/-- The statement has the names of the scope in increasing order, and every key is one of them. -/
theorem run_scopeVars {root : Bool} {vars : List Piece}
    (h : run (scopeVars root) o s = (.ok vars, s')) (ht : Tidy (s.scope.declarable root)) :
    IsLead vars ∧ (leadingNames vars).Pairwise (· < ·) ∧
      ∀ n, (s.scope.declarable root).hasKey (some n) = true → n ∈ leadingNames vars := by
  obtain ⟨_, _, hget, h⟩ := run_bind_ok h
  cases hget
  obtain ⟨ps, s1, hps, h⟩ := run_bind_ok h
  obtain ⟨hsorted, hkeys⟩ := identifiers_ok (run_need hps).1 ht
  split at h
  · cases h
    exact ⟨.inl rfl, .nil, hkeys⟩
  · obtain ⟨ds, s2, hds, h⟩ := run_bind_ok h
    cases h
    have hnames : ds.filterMap declaredName? = ps.filterMap nameOf? :=
      filterMap_of_forall₂ (results_mapM (fun p => names_declaration p _) ps _ ds _ hds)
    refine ⟨.inr ⟨ds, rfl⟩, ?_, ?_⟩
    · change (ds.filterMap declaredName?).Pairwise (· < ·)
      rwa [hnames]
    · change ∀ n, _ → n ∈ ds.filterMap declaredName?
      rwa [hnames]

/-! Walks that bind names -/

variable (ho : o.camelCase = false)

include ho in
theorem Steps.ofGrown : Steps o (OnScope Grown) where
  trans := Grown.trans
  note h := by
    unfold OnScope
    rw [h.scope]
    exact Grown.refl _
  set h _ := grown_set _ (h ho)

include ho in
/-- The body of a function starts with what its scope declares. Its name is bound in the scope around
it, where nothing is lost. -/
theorem run_defineFunction {name : Tree} {cs vars : List Piece} {n : Nat} {p : Piece}
    (h : run (defineFunction name cs vars n) o s = (.ok p, s')) :
    (∃ body, definitionBody p = vars ++ body ∧ ∀ q ∈ body, q ∈ cs) ∧
      Grown s.scope.leave s'.scope ∧
      ∀ m, name = .text m → s'.scope.hasKey (some m) = true := by
  have hG := Steps.ofGrown ho
  unfold defineFunction at h
  generalize he : (if n = 0 then (cs.drop 1, []) else ((butLast n cs).drop 1, lastOf n cs)) = e at h
  have hbody : ∀ q ∈ e.1, q ∈ cs := by
    rw [← he]
    split_ifs
    · exact fun q hq => List.mem_of_mem_drop hq
    · exact fun q hq => List.mem_of_mem_take (List.mem_of_mem_drop hq)
  obtain ⟨body, applied⟩ := e
  obtain ⟨key, s1, h1, h⟩ := run_bind_ok h
  obtain ⟨id, s2, h2, h⟩ := run_bind_ok h
  obtain ⟨id', s3, h3, h⟩ := run_bind_ok h
  obtain ⟨params, s4, h4, h⟩ := run_bind_ok h
  obtain ⟨f, s5, h5, h⟩ := run_bind_ok h
  obtain ⟨_, s6, h6, h⟩ := run_bind_ok h
  obtain ⟨_, s7, h7, h⟩ := run_bind_ok h
  obtain ⟨ps, rfl⟩ := results_functionOf _ _ s4 f s5 h5
  have hinner : Grown s.scope s5.scope :=
    (keeps_atomField hG name s key s1 h1).trans <| (keeps_sourceName hG key s1 id s2 h2).trans <|
    (keeps_declare hG id s2 id' s3 h3).trans <| (keeps_child hG cs 0 s3 params s4 h4).trans
      (keeps_functionOf hG _ _ s4 _ s5 h5)
  have hname : nameOf? id' = keyOf key :=
    (nameOf?_congr (run_declare h3)).trans (fits_sourceName h2 ho)
  have hbound : Grown s6.scope s7.scope := by
    refine keeps_bindAs hG (fun q hq => keeps_set hG fun _ => ?_) s6 _ s7 h7
    rw [nameOf?_congr hq, hname]
  have hleft : Grown s.scope.leave s7.scope := by
    cases h6
    rw [← hinner.leave]
    exact hbound
  have hvisible (m : String) (hm : name = .text m) : s7.scope.hasKey (some m) = true := by
    subst hm
    cases h1
    exact hasKey_bindAs h7
  split at h
  · cases h
    exact ⟨⟨body, rfl, hbody⟩, hleft, hvisible⟩
  · cases h
    exact ⟨⟨body, rfl, hbody⟩, hleft, hvisible⟩

include ho in
theorem run_functionRule {name decorators : Tree} {cs : List Piece} {p : Piece}
    (h : run (functionRule name decorators cs) o s = (.ok p, s')) :
    (∃ vars s1 body, run (scopeVars false) o s = (.ok vars, s1) ∧
        definitionBody p = vars ++ body ∧ ∀ q ∈ body, q ∈ cs) ∧
      Grown s.scope.leave s'.scope ∧
      ∀ m, name = .text m → s'.scope.hasKey (some m) = true := by
  have hG := Steps.ofGrown ho
  rw [functionRule_eq] at h
  obtain ⟨vars, s1, h1, h⟩ := run_bind_ok h
  obtain ⟨n, s2, h2, h⟩ := run_bind_ok h
  obtain ⟨⟨body, hp, hbody⟩, hgrown, hname⟩ := run_defineFunction ho h
  have hcount : Grown s1.scope s2.scope :=
    keeps_bind hG (keeps_given hG _) (fun _ => keeps_ite (keeps_sizeOfField hG _) (keeps_pure hG _))
      s1 n s2 h2
  have hvars : Grown s.scope s1.scope := keeps_scopeVars hG false s vars s1 h1
  refine ⟨⟨vars, s1, body, h1, hp, hbody⟩, ?_, hname⟩
  rwa [(hvars.trans hcount).leave] at hgrown

theorem run_functionDef {fs : List Tree} {cs : List Piece} {p : Piece}
    (h : run (fieldRule .functionDef fs cs) o s = (.ok p, s')) :
    ∃ name decorators, fs.head? = some name ∧
      run (functionRule name decorators cs) o s = (.ok p, s') := by
  match fs with
  | [name, _, _, decorators, _] => exact ⟨name, decorators, rfl, h⟩
  | [] | [_] | [_, _] | [_, _, _] | [_, _, _, _] | _ :: _ :: _ :: _ :: _ :: _ :: _ => cases h

include ho in
/-- A walk that meets no program and no class only binds names in the innermost map. -/
theorem walk_grown {t : Tree} (hm : contains .module t = false)
    (hc : contains .classDef t = false) : (walk t).All (KeepsAt o (OnScope Grown)) := by
  have hG := Steps.ofGrown ho
  refine walk_keeps_scope hG [.module, .classDef] ?_ (by simp [hm, hc])
  intro k hk ws hw cs sc s p s' hs hr
  simp only [List.mem_cons, List.not_mem_nil, or_false, not_or] at hk
  by_cases hopens : opensScope k = true
  · have hk : k = .functionDef := by
      cases k <;> first | rfl | exact absurd rfl hk.1 | cases hopens
    subst hk
    obtain ⟨name, decorators, -, hr⟩ := run_functionDef hr
    obtain ⟨-, hgrown, -⟩ := run_functionRule ho hr
    rwa [Grown.leave hs] at hgrown
  · have hgrown := steps_rule hG (by simpa using hopens) hk.2 hw cs s p s' hr
    rw [scopeWithin, if_neg hopens] at hs
    exact hs.trans hgrown

/-! Programs -/

include ho in
theorem run_specialForm {name : Option String} {value : Piece} {body body' : List Piece}
    (h : run (specialForm name value body) o s = (.ok body', s'))
    (ht : Tidy (s.scope.declarable true)) :
    s'.scope.inner = s.scope.inner ∧ Tidy (s'.scope.declarable true) ∧
      ∀ q ∈ body', q ∈ body ∨ isStatement q = true := by
  have same (h : run (pure body) o s = (.ok body', s')) : s'.scope.inner = s.scope.inner ∧
      Tidy (s'.scope.declarable true) ∧ ∀ q ∈ body', q ∈ body ∨ isStatement q = true := by
    cases h
    exact ⟨rfl, ht, fun q hq => .inl hq⟩
  unfold specialForm at h
  split at h
  · exact same h
  · next k =>
    split_ifs at h
    · exact same h
    · obtain ⟨p, s1, h1, h⟩ := run_bind_ok h
      obtain ⟨id, s2, h2, h⟩ := run_bind_ok h
      obtain ⟨_, s3, h3, h⟩ := run_bind_ok h
      cases h
      rw [run_sourceName ho] at h1
      cases h1
      obtain ⟨hvalue, hscope⟩ := run_atSite h2
      obtain ⟨hok, rfl⟩ := run_changeScope h3
      rw [hscope] at hok ⊢
      refine ⟨rfl, tidy_setSpecial (nameOf?_congr hvalue) hok ht, fun q hq => ?_⟩
      rcases List.mem_cons.1 hq with rfl | hq
      · exact .inr rfl
      · exact .inl hq

/-- A program has the special forms put before its statements, the constructor helper last, and before
them what its scope declares. -/
theorem run_programRule_stages {cs : List Piece} {p : Piece}
    (h : run (programRule cs) o s = (.ok p, s')) :
    ∃ body1 s1 body vars s2 s3,
      run (specialForm s.globalName (word "this") cs) o s = (.ok body1, s1) ∧
      run (specialForm s1.newName (leaf .string constructorHelper) body1) o s1 = (.ok body, s2) ∧
      run (scopeVars true) o s2 = (.ok vars, s3) ∧ programBody o p = vars ++ body ∧
      s' = { s3 with scope := s3.scope.leave } := by
  obtain ⟨_, _, hget, h⟩ := run_bind_ok h
  cases hget
  obtain ⟨body1, s1, h1, h⟩ := run_bind_ok h
  obtain ⟨_, _, hget, h⟩ := run_bind_ok h
  cases hget
  obtain ⟨body, s2, h2, h⟩ := run_bind_ok h
  obtain ⟨vars, s3, h3, h⟩ := run_bind_ok h
  obtain ⟨_, s4, hleave, h⟩ := run_bind_ok h
  cases hleave
  obtain ⟨_, _, hread, h⟩ := run_bind_ok h
  cases hread
  refine ⟨body1, s1, body, vars, s2, s3, h1, h2, h3, ?_⟩
  split_ifs at h with hclosure
  · obtain ⟨f, s5, hf, h⟩ := run_bind_ok h
    cases h
    obtain ⟨ps, rfl⟩ := results_functionOf _ _ _ f s' hf
    obtain ⟨_, _, hneed, hf⟩ := run_bind_ok hf
    obtain ⟨-, rfl⟩ := run_need hneed
    cases hf
    refine ⟨?_, rfl⟩
    simp only [programBody, Form.piece, hclosure]
    rfl
  · cases h
    refine ⟨?_, rfl⟩
    simp only [programBody, Form.piece, Bool.eq_false_iff.2 hclosure]

include ho in
/-- The body of a program starts with what its scope declares, the special forms included. -/
theorem run_programRule {cs : List Piece} {p : Piece} (h : run (programRule cs) o s = (.ok p, s'))
    (ht : Tidy (s.scope.declarable true)) :
    ∃ vars s1 s2 body, run (scopeVars true) o s1 = (.ok vars, s2) ∧
      Tidy (s1.scope.declarable true) ∧ s1.scope.inner = s.scope.inner ∧
      s'.scope.special = s1.scope.special ∧ programBody o p = vars ++ body ∧
      ∀ q ∈ body, q ∈ cs ∨ isStatement q = true := by
  obtain ⟨body1, s1, body, vars, s2, s3, h1, h2, h3, hbody, rfl⟩ := run_programRule_stages h
  obtain ⟨hinner1, ht1, hbody1⟩ := run_specialForm ho h1 ht
  obtain ⟨hinner2, ht2, hbody2⟩ := run_specialForm ho h2 ht1
  have hvars : Grown s2.scope s3.scope := keeps_scopeVars (Steps.ofGrown ho) true s2 vars s3 h3
  refine ⟨vars, s2, s3, body, h3, ht2, hinner2.trans hinner1,
    (special_leave _).trans hvars.special, hbody, fun q hq => ?_⟩
  rcases hbody2 q hq with hq | hq
  · exact hbody1 q hq
  · exact .inr hq

end

end Transpile.Walk
