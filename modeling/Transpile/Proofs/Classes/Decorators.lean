import Transpile.Proofs.Classes.Methods

/-! Decorators. Body, decorators and annotation of a function give one list of results, which is cut
from its end, by the number of decorators. Main statement: the function has the statements of its body
and the decorators are applied from the last to the first if and only if the annotation has no result.
With an annotation every part moves on by one place; in a class no decorator is applied at all. -/

namespace Transpile.Walk

open Script Source

section

variable {o : Options} {s s' : State}

/-! Where the list is cut -/

/-- What stands before the cut does not move while it is not reached. -/
theorem butLast_cons {n : Nat} {c : Piece} {cs : List Piece} (h : n ≤ cs.length) :
    butLast n (c :: cs) = c :: butLast n cs := by
  rw [butLast, butLast, List.length_cons, Nat.succ_sub h, List.take_succ_cons]

theorem lastOf_cons {n : Nat} {c : Piece} {cs : List Piece} (h : n ≤ cs.length) :
    lastOf n (c :: cs) = lastOf n cs := by
  rw [lastOf, lastOf, List.length_cons, Nat.succ_sub h, List.drop_succ_cons]

/-- The cut is where the last part begins if and only if nothing follows that part. -/
theorem cut_iff {front last rest : List Piece} :
    butLast last.length (front ++ (last ++ rest)) = front ∧
      lastOf last.length (front ++ (last ++ rest)) = last ↔ rest = [] := by
  constructor
  · rintro ⟨hfront, -⟩
    have hlen := congrArg List.length hfront
    rw [butLast, List.length_take, List.length_append, List.length_append] at hlen
    exact List.eq_nil_of_length_eq_zero (by omega)
  · rintro rfl
    rw [List.append_nil]
    exact ⟨butLast_append, lastOf_append⟩

/-! What the fields give -/

/-- Parameters are one result, however many there are. -/
theorem nodesOf_arguments {ps : List Tree} {as : List Record}
    (h : Recorded o (.node .arguments ps) as) : ∃ cs, nodesOf as = [.items cs] := by
  obtain ⟨p, rss, rfl, -, s1, s2, hrule⟩ := recorded_node h
  rw [rule_walkAll rfl] at hrule
  cases hrule
  exact ⟨_, rfl⟩

theorem length_recorded_list {ts : List Tree} (hts : ∀ t ∈ ts, t.isNode = true) {rs : List Record}
    (h : Recorded o (.list ts) rs) : rs.length = ts.length := by
  have hlen := (recorded_list h).length_eq
  rw [List.filter_eq_self.2 hts] at hlen
  exact hlen.symm

theorem functionPiece_inj {ps ps' : Seq} {body body' : List Piece}
    (h : functionPiece ps body = functionPiece ps' body') : body = body' := by
  cases h
  rfl

/-- Two decorated definitions are the same code only if function and decorators agree. -/
theorem decorated_inj {id f f' : Piece} {ds ds' : List Piece}
    (h : decorated id f ds = decorated id f' ds') : f = f' ∧ ds = ds' := by
  obtain ⟨hf, hds⟩ := List.cons.inj h
  refine ⟨?_, ?_⟩
  · cases hf
    rfl
  · refine List.map_injective_iff.2 ?_ hds
    intro d d' hd
    cases hd
    rfl

/-! Definitions -/

theorem run_method_cut {m : Method} {params : List Tree} (hargs : m.args = .node .arguments params)
    (hnodes : ∀ t ∈ m.decorators, t.isNode = true) {p : Piece} (hs : Ready s)
    (h : run (visit m.tree) o s = (.ok p, s')) :
    ∃ as bs es rs vars ps,
      run (record .functionDef m.fields) o s = (.ok (.mk m.tree p [[], as, bs, es, rs]), s') ∧
      es.length = m.decorators.length ∧ IsLead vars ∧
      (es.length ≤ (nodesOf bs ++ (nodesOf es ++ nodesOf rs)).length →
        spliced p = decorated (declaredWord (nameIn o m.name))
          (functionPiece ps (vars ++ butLast es.length (nodesOf bs ++ (nodesOf es ++ nodesOf rs))))
          (lastOf es.length (nodesOf bs ++ (nodesOf es ++ nodesOf rs))).reverse) := by
  obtain ⟨r, hrecord, rfl⟩ := exists_record h
  obtain ⟨as, bs, es, rs, vars, ps, id, hr, hfields, -, hlead, hspliced, -⟩ := run_method hs hrecord
  simp only [List.forall₂_cons_left_iff, List.forall₂_nil_left_iff] at hfields
  obtain ⟨_, _, ha, ⟨_, _, -, ⟨_, _, hd, -, hlists⟩, hlists'⟩, hlists''⟩ := hfields
  cases hlists''
  cases hlists'
  cases hlists
  rw [hargs] at ha
  obtain ⟨cs, hcs⟩ := nodesOf_arguments ha
  have hlen : es.length = m.decorators.length := length_recorded_list hnodes hd
  refine ⟨as, bs, es, rs, vars, ps, by rw [← hr]; exact hrecord, hlen, hlead, fun hshort => ?_⟩
  have hall : nodesOf [as, bs, es, rs].flatten =
      .items cs :: (nodesOf bs ++ (nodesOf es ++ nodesOf rs)) := by
    simp [hcs]
  rw [hall, ← hlen, butLast_cons hshort, lastOf_cons hshort] at hspliced
  exact hspliced

/-- The function is the one of the body, and the decorators are those of the source from the last to
the first, if and only if nothing comes after the decorators. -/
theorem decorated_cut_iff {id : Piece} {ps : Seq} {vars front last rest : List Piece} :
    decorated id (functionPiece ps (vars ++ butLast last.length (front ++ (last ++ rest))))
        (lastOf last.length (front ++ (last ++ rest))).reverse =
      decorated id (functionPiece ps (vars ++ front)) last.reverse ↔ rest = [] := by
  rw [← @cut_iff front last]
  constructor
  · intro heq
    obtain ⟨hf, hds⟩ := decorated_inj heq
    exact ⟨List.append_cancel_left (functionPiece_inj hf), List.reverse_injective hds⟩
  · rintro ⟨hfront, hlast⟩
    rw [hfront, hlast]

/-! Classes -/

/-- A function of a class is its constructor or one of its members. -/
theorem mem_find?_or_eraseP {α : Type} {p : α → Bool} {xs : List α} {x : α} (h : x ∈ xs) :
    xs.find? p = some x ∨ x ∈ xs.eraseP p := by
  induction xs with
  | nil => cases h
  | cons y ys ih =>
    rw [List.find?_cons, List.eraseP_cons]
    cases hy : p y with
    | true =>
      rcases List.mem_cons.1 h with rfl | h
      · exact .inl rfl
      · exact .inr h
    | false =>
      rcases List.mem_cons.1 h with rfl | h
      · exact .inr (List.mem_cons_self ..)
      · rcases ih h with hfind | hmem
        · exact .inl hfind
        · exact .inr (List.mem_cons_of_mem _ hmem)

theorem mem_classBody {q c c' maker : Piece} {members : List (Piece × Piece)} :
    q ∈ classBody c' c maker members ↔
      q = (Form.group .vars (.items [(Form.varDecl c' .absent).piece])).piece ∨
      q = statement (assignTo "=" c maker) ∨ (∃ e ∈ members, memberOf c e = q) ∨
      q = (Form.returns c).piece := by
  simp only [classBody, List.cons_append, List.mem_cons, List.mem_append, List.mem_map,
    List.not_mem_nil, or_false]

/-- No statement of the function of a class applies anything. -/
theorem application_notMem_classBody {c c' maker : Piece} {members : List (Piece × Piece)}
    (hmaker : ∃ ps body, maker = functionPiece ps body)
    (hmembers : ∀ e ∈ members, ∃ ps body, e.2 = functionPiece ps body) (id d : Piece) :
    application id d ∉ classBody c' c maker members := by
  rw [mem_classBody]
  rintro (hvars | hmade | ⟨e, he, heq⟩ | hreturned)
  · cases hvars
  · obtain ⟨ps, body, rfl⟩ := hmaker
    cases hmade
  · obtain ⟨ps, body, hf⟩ := hmembers e he
    rw [memberOf, hf] at heq
    cases heq
  · cases hreturned

/-- Of a definition with decorators a class takes the function and drops the rest. -/
theorem classBody_of_mem {es : List (Method × Piece)} {rs : List Record}
    (hdefines : List.Forall₂ (Defines o) es rs) {name : String} {sc sc' : Scope} {k : Marks}
    {id p : Piece} (hclass : IsClass o name es sc sc' k id p) {e : Method × Piece} (he : e ∈ es) :
    ∃ c body, p = classPiece id body ∧
      (statement (assignTo "=" c e.2) ∈ body ∨
        memberOf c (declaredWord (nameIn o e.1.name), e.2) ∈ body) ∧
      ∀ id' d, application id' d ∉ body := by
  have hfunctions : ∀ e ∈ es, ∃ ps body, e.2 = functionPiece ps body := by
    intro e he
    obtain ⟨r, -, ps, body, -, hf, -⟩ := forall₂_right (R := flip (Defines o)) hdefines.flip he
    exact ⟨ps, body, hf⟩
  refine ⟨.node (.leaf .ident (.text (nameIn o (sc'.fresh "classref")))) k, _, hclass.piece, ?_,
    application_notMem_classBody ?_ ?_⟩
  · rw [mem_classBody, mem_classBody]
    rcases mem_find?_or_eraseP (p := isMaker o) he with hfound | hmem
    · rw [hfound]
      exact .inl (.inr (.inl rfl))
    · exact .inr (.inr (.inr (.inl ⟨_, List.mem_map_of_mem hmem, rfl⟩)))
  · cases hfound : es.find? (isMaker o) with
    | none => exact ⟨_, _, rfl⟩
    | some e => exact hfunctions e (List.mem_of_find?_eq_some hfound)
  · intro q hq
    obtain ⟨e, he, rfl⟩ := List.mem_map.1 hq
    exact hfunctions e (List.mem_of_mem_eraseP he)

/-- Where every decorator has one result, they are applied to the function of the body if and only if
the annotation has none. In a class they never are. -/
theorem decorators_applied_iff {m : Method} {params : List Tree}
    (hargs : m.args = .node .arguments params) (hnodes : ∀ t ∈ m.decorators, t.isNode = true) :
    (∀ s s' p, Ready s → run (visit m.tree) o s = (.ok p, s') →
      ∃ as bs es rs vars ps,
        run (record .functionDef m.fields) o s = (.ok (.mk m.tree p [[], as, bs, es, rs]), s') ∧
        IsLead vars ∧
        ((∀ r ∈ es, (spliced r.result).length = 1) →
          (∃ body ds, spliced p = decorated (declaredWord (nameIn o m.name))
              (functionPiece ps (vars ++ body)) ds ∧
            body ++ ds.reverse = nodesOf bs ++ (nodesOf es ++ nodesOf rs) ∧
            ds.length = m.decorators.length) ∧
          (spliced p = decorated (declaredWord (nameIn o m.name))
            (functionPiece ps (vars ++ nodesOf bs)) (nodesOf es).reverse ↔ nodesOf rs = []))) ∧
    ∀ name bases keywords (ms : List Method) decorators s s' p, m ∈ ms →
      (∀ t ∈ bases ++ (keywords ++ decorators), isOperand t = true) → Ready s →
      run (visit (.node .classDef
        (classFields name bases keywords (ms.map Method.tree) decorators))) o s = (.ok p, s') →
      ∃ bs ks rs ds r f es id c body,
        run (record .classDef (classFields name bases keywords (ms.map Method.tree) decorators)) o s =
          (.ok (.mk (.node .classDef
            (classFields name bases keywords (ms.map Method.tree) decorators)) p
            [[], bs, ks, rs, ds]), s') ∧
        r ∈ rs ∧ spliced r.result = decorated (declaredWord (nameIn o m.name)) f es ∧
        p = classPiece id body ∧
        (statement (assignTo "=" c f) ∈ body ∨
          memberOf c (declaredWord (nameIn o m.name), f) ∈ body) ∧
        ∀ id' d, application id' d ∉ body := by
  refine ⟨fun s s' p hs h => ?_, fun name bases keywords ms decorators s s' p hm hother hs h => ?_⟩
  · obtain ⟨as, bs, es, rs, vars, ps, hrecord, hlen, hlead, hcut⟩ := run_method_cut hargs hnodes hs h
    refine ⟨as, bs, es, rs, vars, ps, hrecord, hlead, fun hone => ?_⟩
    have hshort : es.length ≤ (nodesOf bs ++ (nodesOf es ++ nodesOf rs)).length := by
      rw [List.length_append, List.length_append, length_nodesOf hone]
      omega
    have hp := hcut hshort
    refine ⟨⟨_, _, hp, ?_, ?_⟩, ?_⟩
    · rw [List.reverse_reverse]
      exact List.take_append_drop _ _
    · rw [List.length_reverse, ← hlen, lastOf, List.length_drop]
      omega
    · rw [hp, ← length_nodesOf hone]
      exact decorated_cut_iff
  · obtain ⟨bs, ks, rs, ds, es, s1, s2, sc, k, id, hrecord, rfl, hdefines, -, -, -, hclass, -, -⟩ :=
      run_class hother hs h
    obtain ⟨e, he, rfl⟩ := List.mem_map.1 hm
    obtain ⟨c, body, hp, hkept, hnone⟩ := classBody_of_mem hdefines hclass he
    obtain ⟨r, hr, -, -, applied, -, hspliced, -⟩ := forall₂_right (R := flip (Defines o)) hdefines.flip he
    exact ⟨bs, ks, rs, ds, r, e.2, applied, id, c, body, hrecord, hr, hspliced, hp, hkept, hnone⟩

/-- A function of one statement, with a decorator and an annotation. -/
def annotated : Method where
  name := "f"
  args := .node .arguments []
  body := .list [nameStatement "x"]
  decorators := [nameNode "d"]
  returns := nameNode "int"

theorem annotated_applies_annotation : ∃ p s' as bs es rs vars ps x d t,
    run (record .functionDef annotated.fields) {} {} =
      (.ok (.mk annotated.tree p [[], as, bs, es, rs]), s') ∧ IsLead vars ∧
    nodesOf bs = [x] ∧ nodesOf es = [d] ∧ nodesOf rs = [t] ∧
    spliced p = decorated (declaredWord "f") (functionPiece ps (vars ++ [x, d])) [t] ∧
    spliced p ≠ decorated (declaredWord "f") (functionPiece ps (vars ++ [x])) [d] := by
  obtain ⟨p, s', hrun, hcount⟩ := exists_observed .functionDef annotated.fields
    (fun r => (r.fields.map fun rs => (nodesOf rs).length,
      r.fields.flatten.all fun r => (spliced r.result).length = 1))
    (b := ([0, 1, 1, 1, 1], true)) (by decide +kernel)
  obtain ⟨as, bs, es, rs, vars, ps, hrecord, hlead, hcut⟩ :=
    (decorators_applied_iff (m := annotated) rfl (by decide)).1 {} s' p ready_start hrun
  have hall := hcount _ hrecord
  simp only [Record.fields_mk, List.map_cons, List.map_nil, Prod.mk.injEq, List.cons.injEq] at hall
  obtain ⟨⟨-, -, hbs, hes, hrs, -⟩, hsingle⟩ := hall
  obtain ⟨x, hx⟩ := List.length_eq_one_iff.1 hbs
  obtain ⟨d, hd⟩ := List.length_eq_one_iff.1 hes
  obtain ⟨t, ht⟩ := List.length_eq_one_iff.1 hrs
  obtain ⟨⟨body, ds, hp, hparts, hlen⟩, hiff⟩ := hcut fun r hr => by
    simpa using List.all_eq_true.1 hsingle r (by simp [hr])
  obtain ⟨t', rfl⟩ := List.length_eq_one_iff.1 hlen
  rw [hx, hd, ht] at hparts hiff
  have hshifted : body ++ [t'] = [x, d] ++ [t] := hparts
  obtain ⟨rfl, htail⟩ := List.append_inj' hshifted rfl
  cases htail
  exact ⟨p, s', as, bs, es, rs, vars, ps, x, d, t, hrecord, hlead, hx, hd, ht, hp,
    fun hp' => List.cons_ne_nil t [] (hiff.1 hp')⟩

end

end Transpile.Walk
