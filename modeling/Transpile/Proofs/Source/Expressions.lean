import Transpile.Proofs.Closure.Rows
import Transpile.Proofs.Source.Tokens
import Transpile.Proofs.Source.Yields
import Transpile.Source.Grammar.Expr

/-! The trees of expressions. Every reader of the grammar builds its tree from the trees and the names
that its parts give: no module stands in it, and it holds line breaks only where a token does. -/

namespace Transpile.Source

open Walk (contains anyContains)

/-- A tree inside a program: no program stands in it, and no atom of it holds a line break. -/
structure Part (t : Tree) : Prop where
  inner : contains .module t = false
  unbroken : ∀ a ∈ t.atoms, '\n' ∉ a.shown.toList

theorem exists_of_mem_atomsAll {ts : List Tree} {a : Atom} (h : a ∈ Tree.atomsAll ts) :
    ∃ t ∈ ts, a ∈ t.atoms := by
  induction ts with
  | nil => cases h
  | cons t ts ih =>
    rcases List.mem_append.1 h with h | h
    · exact ⟨t, List.mem_cons_self, h⟩
    · obtain ⟨u, hu, hau⟩ := ih h
      exact ⟨u, List.mem_cons_of_mem _ hu, hau⟩

section

variable {k : Kind} {ts : List Tree} {t : Tree}

@[simp] theorem part_atom_iff {a : Atom} : Part (.atom a) ↔ '\n' ∉ a.shown.toList :=
  ⟨fun h => h.unbroken a (by simp [Tree.atoms]), fun h => ⟨rfl, by simpa [Tree.atoms] using h⟩⟩

@[simp] theorem part_list_iff : Part (.list ts) ↔ ∀ t ∈ ts, Part t := by
  constructor
  · intro h t ht
    exact ⟨Walk.contains_of_mem h.inner ht, fun a ha => h.unbroken a (Tree.mem_atomsAll ht ha)⟩
  · intro h
    refine ⟨Walk.anyContains_of_forall fun t ht => (h t ht).inner, fun a ha => ?_⟩
    obtain ⟨t, ht, hat⟩ := exists_of_mem_atomsAll ha
    exact (h t ht).unbroken a hat

@[simp] theorem part_node_iff : Part (.node k ts) ↔ k ≠ .module ∧ ∀ t ∈ ts, Part t := by
  rw [← part_list_iff]
  constructor
  · intro h
    have hk : k ≠ .module ∧ anyContains .module ts = false := by simpa [contains] using h.inner
    exact ⟨hk.1, hk.2, h.unbroken⟩
  · rintro ⟨hk, h⟩
    exact ⟨by simpa [contains, hk] using h.inner, h.unbroken⟩

@[simp] theorem shown_text (s : String) : (Atom.text s).shown = s := rfl

@[simp] theorem break_notMem_none : '\n' ∉ Atom.none.shown.toList := by decide

theorem part_none : Part .none := part_atom_iff.2 break_notMem_none

@[simp] theorem part_use (u : Use) : Part (.use u) := by simp [Tree.use]

@[simp] theorem part_op (o : Op) : Part (.op o) := by simp [Tree.op]

@[simp] theorem part_const_iff {a : Atom} : Part (.const a) ↔ '\n' ∉ a.shown.toList := by
  simp [Tree.const]

@[simp] theorem part_ident_iff {s : String} : Part (.ident s) ↔ '\n' ∉ s.toList := by
  simp [Tree.ident]

@[simp] theorem part_tuple_iff : Part (.tuple ts) ↔ ∀ t ∈ ts, Part t := by simp [Tree.tuple]

@[simp] theorem part_starred_iff : Part (.starred t) ↔ Part t := by simp [Tree.starred]

theorem part_opt {o : Option Tree} (h : ∀ t, o = some t → Part t) : Part (.opt o) := by
  cases o with
  | none => exact part_none
  | some t => exact h t rfl

theorem part_opt_text {o : Option String} (h : ∀ s, o = some s → '\n' ∉ s.toList) :
    Part (.opt (o.map .text)) := by
  cases o with
  | none => exact part_none
  | some s => exact part_atom_iff.2 (h s rfl)

end

/-! Targets -/

mutual

theorem part_target? (u : Use) {t t' : Tree} (ht : Part t) (h : t.target? u = some t') : Part t' := by
  unfold Tree.target? at h
  split at h
  case h_7 => cases h
  all_goals simp only [part_node_iff, part_list_iff, List.forall_mem_cons] at ht
  · cases h
    simpa using ht.2.1
  · cases h
    simpa using ⟨ht.2.1, ht.2.2.1⟩
  · cases h
    simpa using ⟨ht.2.1, ht.2.2.1⟩
  · obtain ⟨ts', hts', h⟩ := Option.bind_eq_some_iff.1 h
    cases h
    simpa using part_targets? u ht.2.1 hts'
  · obtain ⟨ts', hts', h⟩ := Option.bind_eq_some_iff.1 h
    cases h
    simpa using part_targets? u ht.2.1 hts'
  · split_ifs at h
    obtain ⟨t', ht', h⟩ := Option.bind_eq_some_iff.1 h
    cases h
    simpa using part_target? u ht.2.1 ht'
termination_by sizeOf t
decreasing_by
  all_goals
    subst_vars
    simp
    omega

theorem part_targets? (u : Use) {ts ts' : List Tree} (hts : ∀ t ∈ ts, Part t)
    (h : Tree.targets? u ts = some ts') : ∀ t ∈ ts', Part t := by
  cases ts with
  | nil =>
    unfold Tree.targets? at h
    cases h
    exact hts
  | cons t ts =>
    unfold Tree.targets? at h
    obtain ⟨t', ht', h⟩ := Option.bind_eq_some_iff.1 h
    obtain ⟨us, hus, h⟩ := Option.bind_eq_some_iff.1 h
    cases h
    obtain ⟨ht, hts⟩ := List.forall_mem_cons.1 hts
    exact List.forall_mem_cons.2 ⟨part_target? u ht ht', part_targets? u hts hus⟩
termination_by sizeOf ts
decreasing_by
  all_goals
    subst_vars
    simp <;> omega

end

theorem part_single? {t t' : Tree} (ht : Part t) (h : t.single? = some t') : Part t' := by
  unfold Tree.single? at h
  split at h
  all_goals first | exact part_target? .store ht h | cases h

/-! Parameter lists -/

def Param.IsPart : Param → Prop
  | .plain a d => Part a ∧ Part (.opt d)
  | .slash => True
  | .star a => Part (.opt a)
  | .twoStars a => Part a

structure Params.AreParts (ps : Params) : Prop where
  byPlace : ∀ t ∈ ps.byPlace, Part t
  plain : ∀ t ∈ ps.plain, Part t
  defaults : ∀ t ∈ ps.defaults, Part t
  star : Part (.opt ps.star.join)
  byName : ∀ p ∈ ps.byName, Part p.1 ∧ Part (.opt p.2)
  rest : Part (.opt ps.rest)

theorem Params.AreParts.add? {ps ps' : Params} (hps : ps.AreParts) {p : Param} (hp : p.IsPart)
    (h : ps.add? p = some ps') : ps'.AreParts := by
  have happend : ∀ {ts : List Tree} {t : Tree}, (∀ t ∈ ts, Part t) → Part t → ∀ u ∈ ts ++ [t], Part u :=
    fun hts ht => List.forall_mem_append.2 ⟨hts, by simpa using ht⟩
  cases p with
  | plain a d =>
    obtain ⟨ha, hd⟩ := hp
    cases d with
    | none =>
      simp only [Params.add?] at h
      split_ifs at h <;> cases h
      · exact { hps with byName := List.forall_mem_append.2 ⟨hps.byName, by simpa using ⟨ha, hd⟩⟩ }
      · exact { hps with plain := happend hps.plain ha }
    | some d =>
      simp only [Params.add?] at h
      split_ifs at h <;> cases h
      · exact { hps with byName := List.forall_mem_append.2 ⟨hps.byName, by simpa using ⟨ha, hd⟩⟩ }
      · exact { hps with plain := happend hps.plain ha, defaults := happend hps.defaults hd }
  | slash =>
    simp only [Params.add?] at h
    split_ifs at h
    cases h
    exact { hps with byPlace := hps.plain, plain := by simp }
  | star a =>
    simp only [Params.add?] at h
    split_ifs at h
    cases h
    exact { hps with star := hp }
  | twoStars a =>
    simp only [Params.add?] at h
    split_ifs at h
    cases h
    exact { hps with rest := hp }

theorem Params.AreParts.toTree {ps : Params} (h : ps.AreParts) : Part ps.toTree := by
  have hnames : Part (.list (ps.byName.map Prod.fst)) :=
    part_list_iff.2 (List.forall_mem_map.2 fun p hp => (h.byName p hp).1)
  have hvalues : Part (.list (ps.byName.map fun p => .opt p.2)) :=
    part_list_iff.2 (List.forall_mem_map.2 fun p hp => (h.byName p hp).2)
  have hlists := And.intro h.byPlace (And.intro h.plain h.defaults)
  simp only [← part_list_iff] at hlists
  exact part_node_iff.2 ⟨by decide, by simp [-part_list_iff, hlists, hnames, hvalues, h.star, h.rest]⟩

theorem part_tree? {items : List Param} (h : ∀ p ∈ items, p.IsPart) {t : Tree}
    (ht : Params.tree? items = some t) : Part t := by
  have hfold : ∀ {ps ps' : Params}, ps.AreParts → items.foldlM Params.add? ps = some ps' →
      ps'.AreParts := by
    clear ht
    induction items with
    | nil =>
      rintro ps ps' hps hfold
      cases hfold
      exact hps
    | cons p items ih =>
      intro ps ps' hps hfold
      obtain ⟨hp, hitems⟩ := List.forall_mem_cons.1 h
      rw [List.foldlM_cons] at hfold
      obtain ⟨ps1, hadd, hfold⟩ := Option.bind_eq_some_iff.1 hfold
      exact ih hitems (hps.add? hp hadd) hfold
  have hstart : ({} : Params).AreParts :=
    ⟨by simp, by simp, by simp, part_none, by simp, part_none⟩
  obtain ⟨ps, hps, ht⟩ := Option.bind_eq_some_iff.1 ht
  split_ifs at ht
  cases ht
  exact (hfold hstart hps).toTree

/-! Expressions -/

/-- What the reader gives has the property, if no token holds a line break. -/
abbrev Gives {α : Type} (P : α → Prop) (r : Reader α) : Prop := Yields Tok.Unbroken P r

namespace Grammar

open Reader

def Arg.tree : Arg → Tree
  | .plain t | .starred t | .keyword t | .twoStars t => t

section

variable {nested : Nested} (hn : ∀ l, Gives Part (nested l))

include hn

theorem gives_starExpression : Gives Part (starExpression nested) := by
  refine yields_orElse (yields_bind (yields_op _) fun _ _ => ?_) (hn _)
  exact yields_bind (hn _) fun t ht => yields_pure (by simpa using ht)

theorem gives_starExpressions : Gives Part (starExpressions nested) :=
  yields_tupleOr (fun _ => part_tuple_iff.2) (gives_starExpression hn)

theorem gives_yieldExpr : Gives Part (yieldExpr nested) := by
  refine yields_bind (yields_keyword _) fun _ _ => yields_bind (yields_after? (hn _) _) fun o ho => ?_
  split
  · next t => exact yields_pure (by simpa using ho t rfl)
  · refine yields_bind (yields_optional (gives_starExpressions hn)) fun o ho => yields_pure ?_
    simpa using part_opt ho

theorem gives_yieldOrStar : Gives Part (yieldOrStar nested) :=
  yields_orElse (gives_yieldExpr hn) (gives_starExpressions hn)

theorem gives_naming : Gives Part (naming nested) := by
  refine yields_bind yields_name fun s hs => yields_bind (yields_op _) fun _ _ => ?_
  refine yields_bind (hn _) fun t ht => yields_pure ?_
  simpa using ⟨hs, ht⟩

theorem gives_namedExpression : Gives (fun m => Part m.tree) (namedExpression nested) := by
  refine yields_bind (P := fun _ => True) ?_ fun b _ => ?_
  · refine yields_bind (yields_peek? 0) fun _ _ => yields_bind (yields_peek? 1) fun _ _ => ?_
    split <;> exact yields_pure trivial
  · refine yields_ite ?_ ?_
    · exact yields_bind (gives_naming hn) fun t ht => yields_pure ht
    · exact yields_bind (hn _) fun t ht => yields_pure ht

theorem gives_named : Gives Part (named nested) := yields_map (gives_namedExpression hn)

theorem gives_member : Gives (fun m => Part m.tree) (member nested) := by
  refine yields_orElse (yields_bind (yields_op _) fun _ _ => ?_) (gives_namedExpression hn)
  exact yields_bind (hn _) fun t ht => yields_pure (part_starred_iff.2 ht)

theorem gives_starTarget (u : Use) : Gives Part (starTarget nested u) := by
  have hread : Gives Part ((do op "*"; return .starred (← nested .primary)) <|> nested .primary) := by
    refine yields_orElse (yields_bind (yields_op _) fun _ _ => ?_) (hn _)
    exact yields_bind (hn _) fun t ht => yields_pure (by simpa using ht)
  exact yields_bind hread fun t ht => yields_lift fun t' => part_target? u ht

theorem gives_starTargets : Gives Part (starTargets nested) := by
  refine yields_bind (yields_tupleOr (fun _ => part_tuple_iff.2) (gives_starTarget hn _)) fun t ht => ?_
  exact yields_lift fun t' => part_target? _ ht

theorem gives_clause : Gives Part (clause nested) := by
  refine yields_bind (yields_keyword _) fun _ _ => yields_bind (gives_starTargets hn) fun t ht => ?_
  refine yields_bind (yields_keyword _) fun _ _ => yields_bind (hn _) fun i hi => ?_
  refine yields_bind (yields_many (yields_seqRight (yields_keyword _) (hn _))) fun ifs hifs => ?_
  exact yields_pure (by simpa using ⟨ht, hi, hifs, by decide⟩)

theorem gives_clauses : Gives Part (clauses nested) :=
  yields_map ((yields_many1 (gives_clause hn)).imp fun _ => part_list_iff.2)

omit hn in
theorem gives_strings : Gives Part strings := by
  refine yields_bind (P := fun parts => ∀ p ∈ parts, p.2 = false → '\n' ∉ p.1.toList) ?_ ?_
  · refine yields_many1 (yields_bind yields_next fun t ht => ?_)
    split
    · next s hs => exact yields_pure fun _ => by simpa [hs, Tok.Unbroken] using ht
    · exact yields_pure fun hbytes => by cases hbytes
    · exact yields_failure
  · intro parts hparts
    dsimp only
    split_ifs with htexts hbytes
    · refine yields_pure (part_const_iff.2 (break_notMem_join fun s hs => ?_))
      obtain ⟨p, hp, rfl⟩ := List.mem_map.1 hs
      exact hparts p hp (by simpa using List.all_eq_true.1 htexts p hp)
    · refine yields_pure (part_const_iff.2 ?_)
      simpa [Atom.shown, Atom.quoted] using Text.break_notMem_quoted _
    · exact yields_failure

omit hn in
theorem part_unstarred? {m : Member} (hm : Part m.tree) {t : Tree} (h : m.unstarred? = some t) :
    Part t := by
  cases m <;> cases h <;> exact hm

omit hn in
theorem gives_unstarred? {m : Member} (hm : Part m.tree) :
    Gives Part (liftM m.unstarred? : Reader Tree) :=
  yields_lift fun _ => part_unstarred? hm

theorem gives_parenthesis : Gives Part (parenthesis nested) := by
  refine yields_orElse ?_ (yields_orElse ?_ ?_)
  · exact yields_seqRight (yields_op _) (yields_pure (by simp))
  · exact yields_seqLeft (gives_yieldExpr hn) (yields_op _)
  · refine yields_bind (gives_member hn) fun m hm => yields_bind (yields_peekKeyword _) fun _ _ => ?_
    refine yields_ite ?_ (yields_bind yields_comma? fun _ _ => yields_ite ?_ ?_)
    · refine yields_bind (gives_unstarred? hm) fun t ht => ?_
      refine yields_bind (gives_clauses hn) fun gens hgens => yields_bind (yields_op _) fun _ _ => ?_
      exact yields_pure (by simpa using ⟨ht, hgens⟩)
    · refine yields_bind (yields_optional (yields_commasEnd (gives_member hn))) fun rest hrest => ?_
      refine yields_bind (yields_op _) fun _ _ => yields_pure ?_
      cases rest with
      | none => simpa using hm
      | some ms => simpa using ⟨hm, hrest ms rfl⟩
    · exact yields_bind (yields_op _) fun _ _ => gives_unstarred? hm

theorem gives_membersAfter {m : Member} (hm : Part m.tree) (close : String) :
    Gives (fun ts => ∀ t ∈ ts, Part t) (membersAfter nested m close) := by
  refine yields_bind (yields_afterComma (gives_member hn)) fun ms hms => ?_
  refine yields_bind (yields_discard yields_comma?) fun _ _ => yields_bind (yields_op _) fun _ _ => ?_
  exact yields_pure (by simpa using ⟨hm, hms⟩)

theorem gives_bracket : Gives Part (bracket nested) := by
  refine yields_orElse (yields_seqRight (yields_op _) (yields_pure (by simp))) ?_
  refine yields_bind (gives_member hn) fun m hm => yields_bind (yields_peekKeyword _) fun _ _ => ?_
  refine yields_ite ?_ ?_
  · refine yields_bind (gives_unstarred? hm) fun t ht => ?_
    refine yields_bind (gives_clauses hn) fun gens hgens => yields_bind (yields_op _) fun _ _ => ?_
    exact yields_pure (by simpa using ⟨ht, hgens⟩)
  · refine yields_bind (gives_membersAfter hn hm _) fun ts hts => yields_pure ?_
    simpa using hts

theorem gives_entry : Gives (fun e => Part e.1 ∧ Part e.2) (entry nested) := by
  refine yields_orElse (yields_bind (yields_op _) fun _ _ => ?_) ?_
  · exact yields_bind (hn _) fun t ht => yields_pure ⟨part_none, ht⟩
  · refine yields_bind (hn _) fun k hk => yields_bind (yields_op _) fun _ _ => ?_
    exact yields_bind (hn _) fun t ht => yields_pure ⟨hk, ht⟩

omit hn in
theorem part_dictOf {es : List (Tree × Tree)} (h : ∀ e ∈ es, Part e.1 ∧ Part e.2) :
    Part (dictOf es) := by
  have hkeys : Part (.list (es.map Prod.fst)) :=
    part_list_iff.2 (List.forall_mem_map.2 fun e he => (h e he).1)
  have hvalues : Part (.list (es.map Prod.snd)) :=
    part_list_iff.2 (List.forall_mem_map.2 fun e he => (h e he).2)
  exact part_node_iff.2 ⟨by decide, by simp [-part_list_iff, hkeys, hvalues]⟩

theorem gives_entriesAfter {e : Tree × Tree} (he : Part e.1 ∧ Part e.2) :
    Gives Part (entriesAfter nested e) := by
  refine yields_bind (yields_afterComma (gives_entry hn)) fun es hes => ?_
  refine yields_bind (yields_discard yields_comma?) fun _ _ => yields_bind (yields_op _) fun _ _ => ?_
  exact yields_pure (part_dictOf (List.forall_mem_cons.2 ⟨he, hes⟩))

theorem gives_brace : Gives Part (brace nested) := by
  refine yields_orElse (yields_seqRight (yields_op _) (yields_pure (part_dictOf (by simp)))) ?_
  refine yields_bind (yields_peekOp _) fun _ _ => yields_ite ?_ ?_
  · exact yields_bind (gives_entry hn) fun e he => gives_entriesAfter hn he
  · refine yields_bind (gives_member hn) fun m hm => yields_bind (yields_peekOp _) fun _ _ => ?_
    split
    · next k =>
      refine yields_bind (yields_op _) fun _ _ => yields_bind (hn _) fun v hv => ?_
      refine yields_bind (yields_peekKeyword _) fun _ _ => yields_ite ?_ ?_
      · refine yields_bind (gives_clauses hn) fun gens hgens => yields_bind (yields_op _) fun _ _ => ?_
        exact yields_pure (by simpa using ⟨hm, hv, hgens⟩)
      · exact gives_entriesAfter hn ⟨hm, hv⟩
    · refine yields_bind (yields_peekKeyword _) fun _ _ => yields_ite ?_ ?_
      · refine yields_bind (gives_unstarred? hm) fun t ht => ?_
        refine yields_bind (gives_clauses hn) fun gens hgens => yields_bind (yields_op _) fun _ _ => ?_
        exact yields_pure (by simpa using ⟨ht, hgens⟩)
      · refine yields_bind (gives_membersAfter hn hm _) fun ts hts => yields_pure ?_
        simpa using hts

omit hn in
theorem part_numberAtom {s : String} (h : '\n' ∉ s.toList) : Part (.const (numberAtom s)) := by
  unfold numberAtom
  split_ifs
  · exact part_const_iff.2 (by decide)
  · exact part_const_iff.2 h

theorem gives_atom : Gives Part (atom nested) := by
  refine yields_bind (yields_peek? 0) fun o ho => ?_
  have hnext : ∀ {r : Reader Tree}, Gives Part r → Gives Part (next *> r) :=
    yields_seqRight yields_next
  split
  · exact hnext (yields_pure (part_ident_iff.2 (ho _ rfl)))
  · exact hnext (yields_pure (part_numberAtom (ho _ rfl)))
  · exact gives_strings
  · exact gives_strings
  · exact hnext (yields_pure (part_const_iff.2 (by decide)))
  · exact hnext (yields_pure (part_const_iff.2 (by decide)))
  · exact hnext (yields_pure (part_const_iff.2 (by decide)))
  · exact hnext (yields_pure (part_const_iff.2 (by decide)))
  · exact hnext (gives_parenthesis hn)
  · exact hnext (gives_bracket hn)
  · exact hnext (gives_brace hn)
  · exact yields_failure

/-! Calls and subscripts -/

theorem gives_keywordArg : Gives Part (keywordArg nested) := by
  refine yields_bind yields_name fun s hs => yields_bind (yields_op _) fun _ _ => ?_
  exact yields_bind (hn _) fun t ht => yields_pure (by simpa using ⟨hs, ht⟩)

theorem gives_arg : Gives (fun a => Part a.tree) (arg nested) := by
  refine yields_bind (yields_peek? 0) fun _ _ => yields_bind (yields_peek? 1) fun _ _ => ?_
  split
  · refine yields_bind (yields_op _) fun _ _ => yields_bind (hn _) fun t ht => yields_pure ?_
    exact part_starred_iff.2 ht
  · refine yields_bind (yields_op _) fun _ _ => yields_bind (hn _) fun t ht => yields_pure ?_
    exact part_node_iff.2 ⟨by decide, by simpa using ht⟩
  · exact yields_bind (gives_keywordArg hn) fun t ht => yields_pure ht
  · exact yields_bind (gives_named hn) fun t ht => yields_pure ht

omit hn in
theorem part_splitArgs {as : List Arg} (h : ∀ a ∈ as, Part a.tree) :
    Part (splitArgs as).1 ∧ Part (splitArgs as).2 := by
  constructor
  all_goals
    refine part_list_iff.2 fun t ht => ?_
    obtain ⟨a, ha, hat⟩ := List.mem_filterMap.1 ht
    have hpart := h a ha
    cases a <;> cases hat <;> exact hpart

omit hn in
theorem gives_closeArguments {as : List Arg} (h : ∀ a ∈ as, Part a.tree) :
    Gives (fun r => Part r.1 ∧ Part r.2) (closeArguments as) := by
  have hclose : Gives (fun r => Part r.1 ∧ Part r.2)
      (do op ")"; if inOrder as then return splitArgs as else failure) :=
    yields_bind (yields_op _) fun _ _ => yields_ite (yields_pure (part_splitArgs h)) yields_failure
  exact yields_ite (yields_bind (yields_discard yields_comma?) fun _ _ => hclose) hclose

theorem gives_argumentList : Gives (fun as => ∀ a ∈ as, Part a.tree) (argumentList nested) := by
  refine yields_bind (yields_optional (yields_commas (gives_arg hn))) fun o ho => yields_pure ?_
  cases o with
  | none => simp
  | some as => exact ho as rfl

theorem gives_classArguments : Gives (fun r => Part r.1 ∧ Part r.2) (classArguments nested) :=
  yields_bind (gives_argumentList hn) fun _ => gives_closeArguments

theorem gives_callArguments : Gives (fun r => Part r.1 ∧ Part r.2) (callArguments nested) := by
  refine yields_bind (gives_argumentList hn) fun as has => yields_bind (yields_peekKeyword _) fun _ _ => ?_
  split
  · next t =>
    have ht : Part t := has _ (List.mem_singleton_self _)
    refine yields_bind (gives_clauses hn) fun gens hgens => yields_bind (yields_op _) fun _ _ => ?_
    exact yields_pure (by simpa using ⟨ht, hgens⟩)
  · exact gives_closeArguments has

theorem gives_sliceFrom {lower : Option Tree} (h : ∀ t, lower = some t → Part t) :
    Gives Part (sliceFrom nested lower) := by
  refine yields_bind (yields_op _) fun _ _ => yields_bind (yields_optional (hn _)) fun upper hupper => ?_
  refine yields_bind (yields_after? (yields_optional (hn _)) _) fun step hstep => yields_pure ?_
  have hjoin : ∀ t, step.join = some t → Part t := by
    intro t ht
    exact hstep (some t) (Option.join_eq_some_iff.1 ht) t rfl
  simpa using ⟨part_opt h, part_opt hupper, part_opt hjoin⟩

theorem gives_slice : Gives Part (slice nested) := by
  refine yields_bind (yields_peekOp _) fun _ _ => yields_ite (gives_sliceFrom hn nofun) ?_
  refine yields_bind (gives_namedExpression hn) fun m hm => yields_bind (yields_peekOp _) fun _ _ => ?_
  split
  · next t => exact gives_sliceFrom hn fun u hu => by cases hu; exact hm
  · exact yields_pure hm

theorem gives_slices : Gives Part (slices nested) := by
  have hpart : Gives Part ((do op "*"; return .starred (← nested .expression)) <|> slice nested) := by
    refine yields_orElse (yields_bind (yields_op _) fun _ _ => ?_) (gives_slice hn)
    exact yields_bind (hn _) fun t ht => yields_pure (by simpa using ht)
  refine yields_bind (yields_peekOp _) fun _ _ => yields_bind hpart fun t ht => ?_
  refine yields_bind (yields_afterComma hpart) fun ts hts => yields_bind yields_comma? fun _ _ => ?_
  refine yields_bind (yields_op _) fun _ _ => yields_pure ?_
  split_ifs
  · exact ht
  · simpa using ⟨ht, hts⟩

theorem gives_trailer : Gives (fun f => ∀ t, Part t → Part (f t)) (trailer nested) := by
  refine yields_bind yields_next fun _ _ => ?_
  split
  · refine yields_bind yields_name fun s hs => yields_pure fun t ht => ?_
    simpa using ⟨ht, hs⟩
  · refine yields_bind (gives_callArguments hn) fun r hr => yields_pure fun t ht => ?_
    simpa using ⟨ht, hr⟩
  · refine yields_bind (gives_slices hn) fun s hs => yields_pure fun t ht => ?_
    simpa using ⟨ht, hs⟩
  · exact yields_failure

theorem gives_primary : Gives Part (primary nested) := by
  refine yields_bind (gives_atom hn) fun t ht => yields_bind (yields_many (gives_trailer hn)) fun fs hfs => ?_
  refine yields_pure ?_
  induction fs generalizing t with
  | nil => exact ht
  | cons f fs ih =>
    obtain ⟨hf, hfs⟩ := List.forall_mem_cons.1 hfs
    exact ih (f t) (hf t ht) hfs

/-! Operators -/

theorem gives_factor : Gives Part (factor nested) := by
  refine yields_orElse ?_ ?_
  · refine yields_bind (yields_choose _) fun o _ => yields_bind (hn _) fun t ht => yields_pure ?_
    simpa using ht
  · refine yields_bind (gives_primary hn) fun t ht => yields_bind (yields_after? (hn _) _) fun o ho => ?_
    split
    · next e => exact yields_pure (by simpa using ⟨ht, ho e rfl⟩)
    · exact yields_pure ht

theorem gives_binary (ops : List (List (String × Op))) : Gives Part (binary nested ops) := by
  induction ops with
  | nil => exact gives_factor hn
  | cons table ops ih =>
    have hright : Gives (fun r => Part r.2) (do return (← choose table, ← binary nested ops)) :=
      yields_bind (yields_choose _) fun o _ => yields_bind ih fun t ht => yields_pure ht
    refine yields_bind ih fun t ht => yields_bind (yields_many hright) fun rest hrest => yields_pure ?_
    induction rest generalizing t with
    | nil => exact ht
    | cons r rest ihr =>
      obtain ⟨hr, hrest⟩ := List.forall_mem_cons.1 hrest
      exact ihr _ (by simpa using ⟨ht, hr⟩) hrest

omit hn in
theorem gives_comparisonOp : Gives (fun _ => True) comparisonOp := by
  have hafter : ∀ {r : Reader Unit} (o : Op), Gives (fun _ => True) r →
      Gives (fun _ => True) (r *> pure o) := fun _ hr => yields_seqRight hr (yields_pure trivial)
  refine yields_orElse (yields_choose _) (yields_orElse ?_ (yields_orElse ?_ (yields_orElse ?_ ?_)))
  · exact hafter _ (yields_keyword _)
  · exact hafter _ (yields_seqRight (yields_keyword _) (yields_keyword _))
  · exact hafter _ (yields_seqRight (yields_keyword _) (yields_keyword _))
  · exact hafter _ (yields_keyword _)

theorem gives_comparison : Gives Part (comparison nested) := by
  have hright : Gives (fun r => Part r.2) (do return (← comparisonOp, ← bitOr nested)) :=
    yields_bind gives_comparisonOp fun o _ =>
      yields_bind (gives_binary hn _) fun t ht => yields_pure ht
  refine yields_bind (gives_binary hn _) fun t ht => yields_bind (yields_many hright) fun rest hrest => ?_
  refine yields_ite (yields_pure ht) (yields_pure ?_)
  have hops : Part (.list (rest.map fun r => .op r.1)) := by
    simpa only [part_list_iff] using List.forall_mem_map.2 fun r _ => part_op r.1
  have hvalues : Part (.list (rest.map Prod.snd)) := part_list_iff.2 (List.forall_mem_map.2 hrest)
  exact part_node_iff.2 ⟨by decide, by simp [-part_list_iff, ht, hops, hvalues]⟩

theorem gives_inversion : Gives Part (inversion nested) := by
  refine yields_orElse (yields_bind (yields_keyword _) fun _ _ => ?_) (gives_comparison hn)
  exact yields_bind (hn _) fun t ht => yields_pure (by simpa using ht)

omit hn in
theorem gives_joined {r : Reader Tree} (hr : Gives Part r) (word : String) (o : Op) :
    Gives Part (joined word o r) := by
  refine yields_bind hr fun t ht => ?_
  refine yields_bind (yields_many (yields_seqRight (yields_keyword _) hr)) fun ts hts => yields_pure ?_
  split_ifs
  · exact ht
  · simpa using ⟨ht, hts⟩

theorem gives_disjunction : Gives Part (disjunction nested) :=
  gives_joined (gives_joined (gives_inversion hn) _ _) _ _

/-! Parameters -/

theorem gives_param {plainName starName : Reader Tree} (hplain : Gives Part plainName)
    (hstar : Gives Part starName) : Gives Param.IsPart (param nested plainName starName) := by
  refine yields_orElse ?_ (yields_orElse ?_ (yields_orElse ?_ ?_))
  · exact yields_seqRight (yields_op _) (yields_pure trivial)
  · exact yields_bind (yields_op _) fun _ _ => yields_bind hplain fun t ht => yields_pure ht
  · refine yields_bind (yields_op _) fun _ _ => yields_bind (yields_optional hstar) fun o ho => ?_
    exact yields_pure (part_opt ho)
  · refine yields_bind hplain fun t ht => yields_bind (yields_after? (hn _) _) fun o ho => ?_
    exact yields_pure ⟨ht, part_opt ho⟩

theorem gives_params {plainName starName : Reader Tree} (hplain : Gives Part plainName)
    (hstar : Gives Part starName) : Gives Part (params nested plainName starName) := by
  refine yields_bind (yields_optional (yields_commasEnd (gives_param hn hplain hstar))) fun o ho => ?_
  refine yields_lift fun t => part_tree? ?_
  cases o with
  | none => simp
  | some ps => exact ho ps rfl

omit hn in
theorem gives_bareArg : Gives Part bareArg :=
  yields_bind yields_name fun s hs => yields_pure (by simpa [Tok.Unbroken] using hs)

theorem gives_lambda : Gives Part (lambda nested) := by
  refine yields_bind (yields_keyword _) fun _ _ => ?_
  refine yields_bind (gives_params hn gives_bareArg gives_bareArg) fun ps hps => ?_
  refine yields_bind (yields_op _) fun _ _ => yields_bind (hn _) fun t ht => yields_pure ?_
  simpa using ⟨hps, ht⟩

theorem gives_conditional : Gives Part (conditional nested) := by
  refine yields_bind (gives_disjunction hn) fun t ht => ?_
  have hrest : Gives (fun r => Part r.1 ∧ Part r.2)
      (do
        keyword "if"
        let test ← disjunction nested
        keyword "else"
        return (test, ← nested .expression)) := by
    refine yields_bind (yields_keyword _) fun _ _ => yields_bind (gives_disjunction hn) fun c hc => ?_
    refine yields_bind (yields_keyword _) fun _ _ => yields_bind (hn _) fun e he => ?_
    exact yields_pure ⟨hc, he⟩
  refine yields_bind (yields_optional hrest) fun o ho => ?_
  split
  · next test other =>
    obtain ⟨htest, hother⟩ := ho _ rfl
    exact yields_pure (by simpa using ⟨htest, ht, hother⟩)
  · exact yields_pure ht

theorem gives_level (l : Level) : Gives Part (level nested l) := by
  cases l with
  | expression => exact yields_orElse (gives_lambda hn) (gives_conditional hn)
  | disjunction => exact gives_disjunction hn
  | inversion => exact gives_inversion hn
  | bitOr => exact gives_binary hn _
  | factor => exact gives_factor hn
  | primary => exact gives_primary hn

end

theorem gives_expr (n : Nat) (l : Level) : Gives Part (expr n l) := by
  induction n generalizing l with
  | zero => exact yields_failure
  | succ n ih => exact gives_level ih l

end Grammar

end Transpile.Source
