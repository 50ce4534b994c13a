import Transpile.Proofs.Provenance.Tree
import Transpile.Proofs.Shapes

/-! The statements of a program. What a statement of the source becomes are rows: forms that stand on
lines of their own. A program is its rows, which are the same whether or not they are wrapped in a
function. -/

namespace Transpile.Walk

open Script Source

/-- A form that stands as a statement. -/
def isRow : Piece → Bool
  | .node f _ => match f with
    | .exprStatement _ | .returns _ | .throws _ | .breakTo _ | .continueTo _ | .ifThen ..
    | .whileDo .. | .forLoop .. | .tryDo .. | .group .vars _ => true
    | _ => false
  | _ => false

/-- All that the piece adds to a list are rows. -/
def AddsRows (p : Piece) : Prop := ∀ q ∈ spliced p, isRow q = true

theorem isRow_of_isStatement {p : Piece} (h : isStatement p = true) : isRow p = true := by
  unfold isStatement at h
  split at h
  · rfl
  · cases h

theorem addsRows_absent : AddsRows .absent := fun _ hq => nomatch hq

theorem addsRows_one {p : Piece} (h : isRow p = true) : AddsRows p := by
  intro q hq
  unfold spliced at hq
  split at hq
  · cases h
  · cases hq
  · rwa [List.mem_singleton.1 hq]

theorem addsRows_splice {ps : List Piece} (h : ∀ p ∈ ps, isRow p = true) : AddsRows (splice ps) :=
  fun q hq => h q (List.mem_filter.1 hq).1

theorem Statements.addsRows {p : Piece} (h : Statements p) : AddsRows p := by
  cases h with
  | one h => exact addsRows_one (isRow_of_isStatement h)
  | several h => exact addsRows_splice fun q hq => isRow_of_isStatement (h q hq)

theorem Looped.addsRows {p : Piece} (h : Looped p) : AddsRows p := by
  cases h with
  | alone test body => exact addsRows_one rfl
  | flagged hstart test body flag rest =>
    refine addsRows_splice fun q hq => ?_
    simp only [List.mem_cons, List.not_mem_nil, or_false] at hq
    rcases hq with rfl | rfl | rfl
    · exact isRow_of_isStatement hstart
    · rfl
    · rfl

section

variable {o : Options}

/-- A result of the form that is made in the end. -/
theorem rows_pure {p : Piece} (h : isRow p = true) : Results o AddsRows (pure p) :=
  results_pure (addsRows_one h)

theorem rows_of_statement {w : Walker Piece} (h : Results o (isStatement · = true) w) :
    Results o AddsRows w :=
  h.imp fun _ hp => addsRows_one (isRow_of_isStatement hp)

theorem rows_fieldRule {k : Kind} (hk : isStatementKind k = true) (fs : List Tree)
    (cs : List Piece) : Results o AddsRows (fieldRule k fs cs) := by
  unfold fieldRule
  split <;> first | cases hk | skip
  · exact results_bind fun _ => rows_pure rfl
  · exact rows_pure rfl
  · exact results_bind fun _ => rows_pure rfl
  · exact (statements_deleteRule _).imp fun _ => Statements.addsRows
  · exact (statements_assignRule _).imp fun _ => Statements.addsRows
  · exact rows_of_statement (statement_augmentRule _ _)
  · exact rows_pure rfl
  · exact rows_pure rfl
  · exact (made_ifRule _ _ _).imp fun _ ⟨_, _, _, hp⟩ => addsRows_one (hp ▸ rfl)
  · exact (looped_whileRule _ _ _).imp fun _ => Looped.addsRows
  · exact (made_forRule _).imp fun _ ⟨_, _, _, _, hp⟩ => addsRows_one (hp ▸ rfl)
  · exact results_bind fun _ => rows_pure rfl
  · exact results_bind fun _ => results_pure addsRows_absent
  · exact (statements_functionRule _ _ _).imp fun _ => Statements.addsRows
  · exact results_throw _
  · exact rows_of_statement (statement_classRule _ _)
  · exact results_pure addsRows_absent

theorem rows_rule {k : Kind} (hk : isStatementKind k = true) (ws : List Branch) (cs : List Piece) :
    Results o AddsRows (rule k ws cs) := by
  unfold rule
  split
  · cases hk
  · cases hk
  · exact rows_fieldRule hk _ _

/-- The result of a node is that of its rule. -/
theorem results_visitNode {k : Kind} {ws : List Branch} {Q : Piece → Prop}
    (h : ∀ cs, Results o Q (rule k ws cs)) : Results o Q (visitNode k ws) := by
  rw [visitNode_eq]
  refine results_bind fun _ => results_bind fun _ => results_bind fun _ => results_bind fun cs => ?_
  refine results_bind_of (h cs) fun p hp => ?_
  exact results_bind fun _ => results_bind fun _ => results_bind fun _ => results_bind fun _ =>
    results_bind fun _ => results_pure hp

end

/-! Statements of the source -/

/-- A node of a class of statements, with no program inside. -/
def isStatementTree : Tree → Bool
  | .node k fs => isStatementKind k && !anyContains .module fs
  | _ => false

theorem contains_of_isStatementTree {t : Tree} (h : isStatementTree t = true) :
    contains .module t = false := by
  cases t with
  | node k fs =>
    obtain ⟨hk, hfs⟩ := Bool.and_eq_true_iff.1 h
    have hne : k ≠ .module := by rintro rfl; cases hk
    simpa [contains, hne] using hfs
  | _ => cases h

theorem anyContains_of_forall {k : Kind} {ts : List Tree} (h : ∀ t ∈ ts, contains k t = false) :
    anyContains k ts = false := by
  induction ts with
  | nil => rfl
  | cons t ts ih => simp [anyContains, h t (by simp), ih fun u hu => h u (by simp [hu])]

section

variable {o : Options} {ts : List Tree}

theorem rows_visit {t : Tree} (ht : isStatementTree t = true) :
    Results o AddsRows (walk t).again := by
  cases t with
  | node k fs => exact results_visitNode (rows_rule (Bool.and_eq_true_iff.1 ht).1 _)
  | _ => cases ht

theorem results_gather {α : Type} {f : α → Walker (List Piece)} {as : List α} {Q : Piece → Prop}
    (h : ∀ a ∈ as, Results o (fun ps => ∀ p ∈ ps, Q p) (f a)) :
    Results o (fun ps => ∀ p ∈ ps, Q p) (gather f as) := by
  induction as with
  | nil => exact results_pure (by simp)
  | cons a as ih =>
    refine results_bind_of (h a (by simp)) fun ps hps => ?_
    refine results_bind_of (ih fun b hb => h b (by simp [hb])) fun qs hqs => results_pure ?_
    exact fun p hp => (List.mem_append.1 hp).elim (hps p) (hqs p)

/-- Walking statements collects rows. -/
theorem rows_resultsOf (hts : ∀ t ∈ ts, isStatementTree t = true) :
    Results o (fun ps => ∀ p ∈ ps, isRow p = true) (resultsOf (walk (.list ts))) := by
  refine results_gather (forall_walkAll fun t ht => results_ite ?_ (results_pure (by simp)))
  exact results_bind_of (rows_visit (hts t ht)) fun p hp => results_pure hp

end

/-! Programs -/

/-- The statements of a program, from those that its fields gave. -/
def programStatements (cs : List Piece) : Walker (List Piece) := do
  let body ← specialForm (← get).globalName (word "this") cs
  let body ← specialForm (← get).newName (leaf .string constructorHelper) body
  let vars ← scopeVars true
  leaveScope
  return vars ++ body

/-- A program of the statements, which a function may hold that is called at once. -/
def wrapProgram (closure : Bool) (body : List Piece) : Piece :=
  if closure then
    let f := (Form.function .expr .absent (.items []) (.items body)).piece
    let main := statement (callOf (dot f.inParens "call") [Form.this.piece])
    (Form.group .program (.items [main])).piece
  else (Form.group .program (.items body)).piece

theorem programRule_eq (cs : List Piece) : programRule cs = (do
    let body ← programStatements cs
    return wrapProgram (← read).closure body) := by
  unfold programRule programStatements
  simp only [bind_assoc, pure_bind]
  refine bind_congr fun _ => bind_congr fun _ => bind_congr fun _ => bind_congr fun _ => ?_
  refine bind_congr fun _ => bind_congr fun _ => bind_congr fun o => ?_
  unfold wrapProgram
  split_ifs <;> rfl

section

variable {o : Options} {σ : Supply} {cs : List Piece}

theorem closes_programStatements (cs : List Piece) :
    KeepsAt o (Closes (Edit true)) (programStatements cs) := by
  have hR := Scoped.ofEdit true
  have hE := hR.steps o
  have hspecial := keeps_specialForm (o := o) hR Specials.ofEdit
  refine keeps_closes_bind hR (keeps_get hE) fun _ => keeps_closes_bind hR (hspecial _ _ _) ?_
  refine fun _ => keeps_closes_bind hR (keeps_get hE) fun _ => ?_
  refine keeps_closes_bind hR (hspecial _ _ _) fun _ => ?_
  exact keeps_closes_bind hR (keeps_scopeVars hE _) fun _ => keeps_closes_leave (keeps_pure hE _)

theorem rows_specialForm {name : Option String} {value : Piece} {body : List Piece}
    (h : ∀ p ∈ body, isRow p = true) :
    Results o (fun ps => ∀ p ∈ ps, isRow p = true) (specialForm name value body) := by
  unfold specialForm
  split
  · exact results_pure h
  · refine results_ite (results_pure h) ?_
    refine results_bind fun _ => results_bind fun id => results_bind fun _ => results_pure ?_
    exact List.forall_mem_cons.2 ⟨rfl, h⟩

theorem rows_scopeVars (root : Bool) :
    Results o (fun ps => ∀ p ∈ ps, isRow p = true) (scopeVars root) := by
  refine results_bind fun s => results_bind fun ps => ?_
  split
  · exact results_pure (by simp)
  · exact results_bind fun _ => results_pure (List.forall_mem_singleton.2 rfl)

theorem rows_programStatements (hcs : ∀ c ∈ cs, isRow c = true) :
    Results o (fun ps => ∀ p ∈ ps, isRow p = true) (programStatements cs) := by
  refine results_bind fun _ => results_bind_of (rows_specialForm hcs) fun body hbody => ?_
  refine results_bind fun _ => results_bind_of (rows_specialForm hbody) fun body hbody => ?_
  refine results_bind_of (rows_scopeVars true) fun vars hvars => results_bind fun _ => results_pure ?_
  exact fun p hp => (List.mem_append.1 hp).elim (hvars p) (hbody p)

theorem hands_specialForm {name : Option String} {value : Piece} {body : List Piece}
    (hname : ∀ k, name = some k → σ.A (.text k)) (hv : σ.Fine value) (hb : ∀ p ∈ body, σ.Fine p) :
    Hands σ (fun ps => ∀ p ∈ ps, σ.Fine p) (specialForm name value body) := by
  unfold specialForm
  split
  · exact hands_pure hb
  · next k =>
    refine hands_ite (hands_pure hb) ?_
    refine hands_bind (hands_sourceName (.atom (hname k rfl))) fun p hp => ?_
    refine hands_bind (hands_atSite hp) fun id hid => ?_
    refine hands_bind (hands_changeScope fun s hs => ?_) fun _ _ => hands_pure ?_
    · refine ⟨hs.levels, fun b hb => ?_, hs.maps, hs.imported⟩
      rcases mem_put hb with hb | rfl
      · exact hs.special b hb
      · exact hid
    · exact List.forall_mem_cons.2 ⟨fine_statement (fine_assignTo (by decide) hid hv), hb⟩

theorem notMem_append {c : Char} {a b : String} (ha : c ∉ a.toList) (hb : c ∉ b.toList) :
    c ∉ (a ++ b).toList := by
  simp [ha, hb]

/-- A literal is made of its characters, so there is no need to take it apart. -/
theorem notMem_ofList {c : Char} {cs : List Char} (h : cs.contains c = false) :
    c ∉ (String.ofList cs).toList := by
  simpa using h

theorem break_notMem_constructorHelper : '\n' ∉ constructorHelper.toList :=
  notMem_append (notMem_append (notMem_ofList rfl) (notMem_ofList rfl)) (notMem_ofList rfl)

theorem hands_programStatements (hcs : ∀ c ∈ cs, σ.Fine c) :
    Hands σ (fun ps => ∀ p ∈ ps, σ.Fine p) (programStatements cs) := by
  have hhelper : σ.Fine (leaf .string constructorHelper) :=
    fine_leaf (by decide) break_notMem_constructorHelper
  refine hands_bind hands_get fun s hs => ?_
  refine hands_bind (hands_specialForm (fun k hk => hs.imported k (.inl hk)) (fine_word (by decide))
    hcs) fun body hbody => ?_
  refine hands_bind hands_get fun s hs => ?_
  refine hands_bind (hands_specialForm (fun k hk => hs.imported k (.inr hk)) hhelper hbody)
    fun body hbody => ?_
  refine hands_bind (hands_scopeVars true) fun vars hvars => ?_
  refine hands_bind hands_leaveScope fun _ _ => hands_pure fun p hp => ?_
  exact (List.mem_append.1 hp).elim (hvars p) (hbody p)

/-- All of a program but how it is wrapped. -/
def programRows (ts : List Tree) : Walker (List Piece) := do
  enterNode .module [walk (.list ts)]
  visitField (walk (.list ts))
  leaveFields popOperator .module
  programStatements (← children)

theorem visit_program_eq (ts : List Tree) : visit (.node .module [.list ts]) = (do
    let body ← programRows ts
    let o ← read
    closeNode closeLevel .module (wrapProgram o.closure body)) := by
  have hrule (cs : List Piece) : rule .module [walk (.list ts)] cs = programRule cs := rfl
  have hfields : [walk (.list ts)].forM visitField = visitField (walk (.list ts)) := bind_pure_unit
  change visitNode .module [walk (.list ts)] = _
  rw [visitNode_eq, hfields]
  simp only [hrule, programRule_eq, programRows, bind_assoc, pure_bind]

theorem hands_programRows {ts : List Tree} (hm : anyContains .module ts = false)
    (hts : ∀ a ∈ Tree.atomsAll ts, σ.A a) :
    Hands σ (fun ps => ∀ p ∈ ps, σ.Fine p) (programRows ts) := by
  have hw : (walk (.list ts)).All (Hands σ σ.Fine) := hands_walk hm hts
  refine hands_bind (hands_enterNode _ _) fun _ _ => hands_bind (hands_visitField hw) fun _ _ => ?_
  refine hands_bind (hands_leaveFields _) fun _ _ => hands_bind hands_children fun cs hcs => ?_
  exact hands_programStatements hcs

/-- The level of a program is open when its rows are known. -/
theorem run_programRows {ts : List Tree} (hts : ∀ t ∈ ts, isStatementTree t = true) {s s' : State}
    (hs : Ready s) {body : List Piece} (h : run (programRows ts) o s = (.ok body, s')) :
    (∀ p ∈ body, isRow p = true) ∧ 0 < s'.levels.level := by
  obtain ⟨_, s1, henter, h⟩ := run_bind_ok h
  obtain ⟨_, s2, hfields, h⟩ := run_bind_ok h
  obtain ⟨_, s3, hleave, h⟩ := run_bind_ok h
  obtain ⟨cs, s4, hcs, h⟩ := run_bind_ok h
  have hentered : Entered .module s s1 := entered_of_run henter
  rw [visitField_eq, discard_eq] at hfields
  obtain ⟨ps, _, hresults, hpure⟩ := run_bind_ok hfields
  cases hpure
  have hkept : Kept s1 s2 ps := adds_resultsOf (walk_adds (.list ts)) o s1 ps s2
    (hentered.ready hs) hresults
  rw [run_leaveFields hentered hkept (.inl rfl)] at hleave
  cases hleave
  rw [run_children] at hcs
  cases hcs
  have hat := atRule_of_entered hs hentered hkept
  have hclosed : Edit true _ s' := closes_programStatements _ _ _ _ h
  refine ⟨rows_programStatements (fun c hc => ?_) _ _ _ h, ?_⟩
  · rw [← Levels.current_touch] at hc
    exact rows_resultsOf hts _ _ _ hresults c (hat.current ▸ hc)
  · have hlevel := hat.level
    have hpos := hs.level
    rw [hclosed.levels]
    change 0 < (s.fieldsLeft s2).touched.levels.level
    omega

/-- Under options that differ only in how a program is wrapped, the walk over a program gives the same
rows, or fails in the same way. -/
theorem run_visit_program {ts : List Tree} (hts : ∀ t ∈ ts, isStatementTree t = true)
    (hatoms : ∀ a ∈ Tree.atomsAll ts, σ.A a) {s : State} (hs : Ready s) (hstock : σ.Stocked s) :
    ∃ rows : Except Cause (List Piece),
      (run (visit (.node .module [.list ts])) σ.o s).1 = rows.map (wrapProgram σ.o.closure) ∧
      (run (visit (.node .module [.list ts])) σ.o' s).1 = rows.map (wrapProgram σ.o'.closure) ∧
      ∀ body, rows = .ok body → ∀ p ∈ body, isRow p = true ∧ σ.Fine p := by
  have hm : anyContains .module ts = false :=
    anyContains_of_forall fun t ht => contains_of_isStatementTree (hts t ht)
  obtain ⟨hsame, hfine⟩ := hands_programRows hm hatoms s hstock
  rcases hrows : run (programRows ts) σ.o s with ⟨c | body, s'⟩
  · refine ⟨.error c, ?_, ?_, nofun⟩
    · rw [visit_program_eq, run_bind, hrows]
      rfl
    · rw [visit_program_eq, run_bind, hsame, hrows]
      rfl
  · obtain ⟨hrow, hlevel⟩ := run_programRows hts hs hrows
    have hclose (o : Options) : (run (do
        let o ← read
        closeNode closeLevel .module (wrapProgram o.closure body)) o s').1 =
          .ok (wrapProgram o.closure body) := by
      obtain ⟨tr, hclose⟩ := run_closeNode hlevel .module (wrapProgram o.closure body) o
      rw [run_bind_of_ok run_read, hclose _ (.inl rfl)]
    refine ⟨.ok body, ?_, ?_, ?_⟩
    · rw [visit_program_eq, run_bind_of_ok hrows, hclose]
      rfl
    · rw [visit_program_eq, run_bind_of_ok (hsame.trans hrows), hclose]
      rfl
    · rintro _ ⟨⟩ p hp
      exact ⟨hrow p hp, (hfine body s' hrows).1 p hp⟩

end

end Transpile.Walk
