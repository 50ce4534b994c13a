import Transpile.Proofs.Progress.Names
import Transpile.Proofs.Progress.Supported

/-! The walk over a supported expression gives a form that can be rendered. -/

namespace Transpile.Walk

open Script Source

/-- What an expression gives. An identifier has a name, and an array has parts to be taken. -/
structure Expressed (p : Piece) : Prop where
  form : IsForm p
  printable : Printable p
  ident : isIdentifier p = true → IsIdent p
  array : ∀ qs, arrayParts? p = some qs → ∀ q ∈ qs, Printable q

/-- Forms that are no identifiers, no arrays and do not join a list. -/
def isCompound : Form → Bool
  | .leaf .ident _ | .array _ | .group .splice _ => false
  | _ => true

theorem expressed_node {f : Form} {m : Marks} (hf : isCompound f = true)
    (hp : Printable (.node f m)) : Expressed (.node f m) := by
  refine ⟨⟨f, m, rfl, ?_⟩, hp, fun h => ?_, fun qs h => ?_⟩
  · rintro s rfl
    cases hf
  · unfold isIdentifier at h
    split at h
    · next heq =>
      cases heq
      cases hf
    · cases h
  · unfold arrayParts? at h
    split at h
    · next heq =>
      cases heq
      cases hf
    · cases h

theorem IsIdent.expressed {p : Piece} (h : IsIdent p) : Expressed p := by
  refine ⟨h.isForm, h.printable, fun _ => h, fun qs hq => ?_⟩
  obtain ⟨s, m, rfl⟩ := h
  cases hq

theorem expressed_array {ps : List Piece} (h : ∀ p ∈ ps, Printable p) :
    Expressed (Form.array (.items ps)).piece := by
  refine ⟨isForm_piece (by simp), printable_array h, (nomatch ·), fun qs hq q hm => ?_⟩
  obtain rfl := Option.some.inj hq
  exact h q (List.mem_filter.1 hm).1

theorem printable_word (s : String) : Printable (word s) := (isIdent_word s).printable

theorem expressed_callOf {f : Piece} {ps : List Piece} (hf : Printable f) (h : ∀ p ∈ ps, Printable p) :
    Expressed (callOf f ps) :=
  expressed_node rfl (printable_call hf (items_printable h))

theorem expressed_dot {x : Piece} (hx : Printable x) (n : String) : Expressed (dot x n) :=
  expressed_node rfl (printable_dot hx (printable_word n))

theorem printable_assignTo (op : String) {l r : Piece} (hl : Printable l) (hr : Printable r) :
    Printable (assignTo op l r) :=
  printable_assign hl hr

theorem printable_statement {p : Piece} (hp : Printable p) : Printable (statement p) :=
  printable_exprStatement hp

theorem printable_blockOf {ps : List Piece} (h : ∀ p ∈ ps, Printable p) : Printable (block ps) :=
  printable_block (items_printable h)

theorem expressed_wrapped {x y : Piece} (hx : Printable x) (hy : Printable y) (op : String)
    (inner : Bool) : Expressed (wrapped inner (binary op x y)) := by
  cases inner <;> exact expressed_node rfl (printable_binary hx hy)

theorem expressed_powerOf {x y : Piece} (hx : Printable x) (hy : Printable y) :
    Expressed (powerOf x y) :=
  expressed_callOf (expressed_dot (printable_word _) _).printable (by simp [hx, hy])

theorem expressed_floorOf {x y : Piece} (hx : Printable x) (hy : Printable y) :
    Expressed (floorOf x y) :=
  expressed_callOf (expressed_dot (printable_word _) _).printable
    (List.forall_mem_singleton.2 (expressed_wrapped hx hy "/" false).printable)

theorem expressed_binaryPiece {op : Op} (hop : op ∈ binaryOps) (inner : Bool) {x y : Piece}
    (hx : Printable x) (hy : Printable y) : Expressed (binaryPiece op inner x y) := by
  simp only [binaryOps, List.mem_cons, List.not_mem_nil, or_false] at hop
  rcases hop with rfl | rfl | rfl | rfl | rfl | rfl | rfl | rfl | rfl | rfl | rfl | rfl
  all_goals first
    | exact expressed_wrapped hx hy _ inner
    | exact expressed_wrapped hx hy _ false
    | exact expressed_powerOf hx hy
    | exact expressed_floorOf hx hy

section

variable {o : Options} {I : State → Prop} {ops : Stack Kind}

theorem gives_ite {α : Type} {c : Prop} [Decidable c] {v w : Walker α}
    {Q : α → Prop} (hv : c → Gives o I ops v Q) (hw : ¬ c → Gives o I ops w Q) :
    Gives o I ops (if c then v else w) Q := by
  split_ifs with hc
  · exact hv hc
  · exact hw hc

/-! Fields -/

theorem yields_inert {t : Tree} (h : Inert t) : Yields o I ops t (· = []) := by
  cases h with
  | missing => exact yields_missing
  | atom a => exact yields_atom a
  | empty => exact gives_pure rfl

theorem gives_inert {ts : List Tree} (h : ∀ t ∈ ts, Inert t) :
    Gives o I ops (gather resultsOf (walkAll ts)) (· = []) := by
  induction ts with
  | nil => exact gives_no_fields
  | cons t ts ih =>
    refine Gives.mono (gives_fields (yields_inert (h t (by simp)))
      (ih fun u hu => h u (by simp [hu]))) ?_
    rintro _ ⟨_, _, rfl, rfl, rfl⟩
    rfl

theorem yields_trees {ts : List Tree} {Q : Piece → Prop}
    (hQ : ∀ p, Q p → IsForm p) (h : ∀ t ∈ ts, t.isNode = true ∧ Gives o I ops (visit t) Q) :
    Yields o I ops (.list ts) fun cs => cs.length = ts.length ∧ ∀ c ∈ cs, Q c := by
  have heach : Yields o I ops (.list (ts.map id)) fun cs => List.Forall₂ (fun _ => Q) ts cs :=
    yields_each (fun _ p hp => (hQ p hp).spliced) h
  rw [List.map_id] at heach
  refine Gives.mono heach fun cs hcs => ⟨hcs.length_eq.symm, fun c hc => ?_⟩
  obtain ⟨t, -, ht⟩ := forall₂_right hcs hc
  exact ht

theorem yields_optional {v : Option Tree} {Q : Piece → Prop}
    (hQ : ∀ p, Q p → IsForm p) (h : ∀ t ∈ v, t.isNode = true ∧ Gives o I ops (visit t) Q) :
    Yields o I ops (optional v) fun cs => cs.length ≤ 1 ∧ ∀ c ∈ cs, Q c := by
  cases v with
  | none => exact Gives.mono (yields_atom _) fun cs hcs => by simp [hcs]
  | some t =>
    obtain ⟨ht, hv⟩ := h t rfl
    refine Gives.mono (yields_one ht (fun p hp => (hQ p hp).spliced) hv) ?_
    rintro _ ⟨p, hp, rfl⟩
    simpa using hp

/-! Parameters -/

section

variable (hI : Stable I)
include hI

theorem gives_param {t : Tree} (h : IsParam t) :
    t.isNode = true ∧ Gives o I ops (visit t) IsIdent := by
  obtain ⟨ha⟩ := h
  refine ⟨rfl, gives_node hI rfl rfl (gives_fields (yields_atom _)
    (gives_fields (yields_inert ha) gives_no_fields)) fun cs _ => ?_⟩
  refine gives_bind_eq (gives_atomField _) (Gives.mono (gives_sourceName _) ?_)
  rintro _ rfl
  exact isIdent_word _

theorem yields_paramList {t : Tree} (h : IsParamList t) :
    Yields o I ops t fun cs => ∀ c ∈ cs, IsIdent c := by
  cases h with
  | missing => exact Gives.mono yields_missing fun cs hcs => by simp [hcs]
  | params h => exact Gives.mono (yields_trees (fun _ hp => hp.isForm) fun p hp =>
      gives_param hI (h p hp)) fun cs hcs => hcs.2

theorem yields_params {t : Tree} (h : IsParams t) :
    Yields o I ops t fun cs => ∃ ps, (∀ p ∈ ps, IsIdent p) ∧ cs = [.items ps] := by
  obtain @⟨only, ps, rest, ho, hp, hr⟩ := h
  have hv : Gives o I ops (visit (.node .arguments (only :: ps :: rest))) fun p =>
      ∃ qs, (∀ q ∈ qs, IsIdent q) ∧ p = .items qs := by
    refine gives_node hI rfl rfl (gives_fields (yields_paramList hI ho)
      (gives_fields (yields_paramList hI hp) (gives_inert hr))) ?_
    rintro _ ⟨as, _, rfl, ha, bs, _, rfl, hb, rfl⟩
    refine gives_pure ⟨_, fun q hq => ?_, rfl⟩
    simp only [List.append_nil, List.mem_append] at hq
    exact hq.elim (ha q) (hb q)
  refine Gives.mono (yields_node rfl hv) ?_
  rintro _ ⟨_, ⟨qs, hqs, rfl⟩, rfl⟩
  exact ⟨qs, hqs, rfl⟩

/-! Expressions -/

/-- A key is expressed, and carries a text. -/
theorem gives_key {t : Tree} (h : IsKey t) : t.isNode = true ∧
    Gives o I ops (visit t) fun p => Expressed p ∧ ∃ s, p.value = .ok (.text s) := by
  have hleaf {k : Leaf} (hk : k ∈ [.number, .string, .boolean, .null]) (s : String) :
      Expressed (leaf k s) ∧ ∃ s', (leaf k s).value = .ok (.text s') := by
    refine ⟨expressed_node ?_ (printable_leaf (List.mem_cons_of_mem _ hk) s), s, rfl⟩
    simp only [List.mem_cons, List.not_mem_nil, or_false] at hk
    rcases hk with rfl | rfl | rfl | rfl <;> rfl
  cases h with
  | @name n ctx hc =>
    refine ⟨rfl, ?_⟩
    have special {k : Leaf} {s : String} (hk : k ∈ [.number, .string, .boolean, .null])
        (hrule : ∀ cs, fieldRule .name [.text n, ctx] cs = pure (leaf k s)) :
        Gives o I ops (visit (.node .name [.text n, ctx])) fun p =>
          Expressed p ∧ ∃ s, p.value = .ok (.text s) := by
      refine gives_node hI rfl rfl (gives_fields (yields_atom _)
        (gives_fields (yields_use hI hc) gives_no_fields)) fun cs _ => ?_
      rw [hrule]
      exact gives_pure (hleaf hk s)
    by_cases hn : n ∈ ["None", "True", "False"]
    · simp only [List.mem_cons, List.not_mem_nil, or_false] at hn
      rcases hn with rfl | rfl | rfl <;> exact special (by decide) fun _ => rfl
    · refine Gives.mono (gives_name hI hn hc) ?_
      rintro _ rfl
      exact ⟨(isIdent_word _).expressed, (isIdent_word _).value⟩
  | number =>
    refine ⟨rfl, Gives.mono (gives_number hI (by simp)) ?_⟩
    rintro _ rfl
    exact hleaf (by decide) _
  | string =>
    refine ⟨rfl, gives_node hI rfl rfl (gives_fields (yields_atom _) gives_no_fields)
      fun cs _ => ?_⟩
    exact gives_bind_eq (gives_atomField _) (gives_pure (hleaf (by decide) _))

theorem gives_attr {x : Tree} {n : String} {ctx : Tree} (hx : x.isNode = true)
    (h : Gives o I ops (visit x) Expressed) (hc : IsUse ctx) :
    Gives o I ops (visit (.node .attr [x, .text n, ctx])) Expressed := by
  refine gives_node hI rfl rfl (gives_fields (yields_one hx
    (fun _ hp => hp.form.spliced) h) (gives_fields (yields_atom _)
    (gives_fields (yields_use hI hc) gives_no_fields))) ?_
  rintro _ ⟨_, _, rfl, ⟨p, hp, rfl⟩, -⟩
  refine gives_bind_eq (gives_child rfl) (gives_bind_eq (gives_atomField _)
    (gives_bind_eq (gives_sourceName _) (gives_pure ?_)))
  exact expressed_dot hp.printable _

theorem gives_index {x i ctx : Tree} (hx : x.isNode = true) (hi : i.isNode = true)
    (h1 : Gives o I ops (visit x) Expressed) (h2 : Gives o I ops (visit i) Expressed)
    (hc : IsUse ctx) :
    Gives o I ops (visit (.node .subscript [x, .node .index [i], ctx])) Expressed := by
  refine Gives.mono (gives_subscript hI hx hi hc (fun _ hp => hp.form)
    (fun _ hp => hp.form) h1 h2) ?_
  rintro _ ⟨y, z, hy, hz, rfl⟩
  exact expressed_node rfl (printable_bracket hy.printable hz.printable)

theorem gives_slice {x ctx : Tree} {low high : Option Tree} (hx : x.isNode = true)
    (h : Gives o I ops (visit x) Expressed)
    (hl : ∀ t ∈ low, t.isNode = true ∧ Gives o I ops (visit t) Expressed)
    (hh : ∀ t ∈ high, t.isNode = true ∧ Gives o I ops (visit t) Expressed) (hc : IsUse ctx) :
    Gives o I ops
      (visit (.node .subscript [x, .node .slice [optional low, optional high, .none], ctx]))
      Expressed := by
  have hslice : Gives o I ops (visit (.node .slice [optional low, optional high, .none]))
      (· = .absent) :=
    gives_node hI rfl rfl (gives_fields (yields_optional (fun _ hp => hp.form) hl)
      (gives_fields (yields_optional (fun _ hp => hp.form) hh)
      (gives_fields (yields_atom _) gives_no_fields))) fun cs _ => gives_pure rfl
  -- A bound that is there is walked again.
  have again {v : Option Tree}
      (hv : ∀ t ∈ v, t.isNode = true ∧ Gives o I ops (visit t) Expressed)
      (htrue : (walk (optional v)).tree.isTruthy = true) :
      Gives o I ops (walk (optional v)).again Expressed := by
    cases v with
    | none => cases htrue
    | some t => exact (hv t rfl).2
  refine gives_visit hI rfl rfl (gives_fields (yields_one hx
    (fun _ hp => hp.form.spliced) h) (gives_fields (yields_node rfl hslice)
    (gives_fields (yields_use hI hc) gives_no_fields))) ?_
  rintro _ ⟨_, _, rfl, ⟨p, hp, rfl⟩, _, _, rfl, ⟨_, rfl, rfl⟩, _, _, rfl, rfl, rfl⟩
  have hgiven : Gives o I ops (given (.node .slice [optional low, optional high, .none]))
      (· = .node .slice [optional low, optional high, .none]) := gives_given nofun
  have done (bounds : List Piece) (hb : ∀ b ∈ bounds, Printable b) :
      Gives o I ops (pure (callOf (dot p "slice") bounds)) Expressed :=
    gives_pure (expressed_callOf (expressed_dot hp.printable _).printable hb)
  refine gives_bind_eq (gives_child rfl) (gives_bind_eq hgiven ?_)
  refine gives_ite (fun h => by cases h) fun _ => ?_
  have hrest {b : Piece} (hb : Expressed b) : Gives o I ops (do
      let bs ← if (walk (optional high)).tree.isTruthy then do pure [← (walk (optional high)).again]
        else pure []
      return callOf (dot p "slice") (b :: bs)) Expressed := by
    refine gives_ite (fun htrue => gives_bind (again hh htrue) fun c hc => ?_) fun _ => ?_
    · exact done [b, c] (by simp [hb.printable, hc.printable])
    · exact done [b] (by simp [hb.printable])
  refine gives_ite (fun htrue => gives_bind (again hl htrue) fun b hb => hrest hb) fun _ => ?_
  exact hrest (expressed_node rfl (printable_leaf (by simp) "0"))

theorem gives_sequence {k : Kind} (hk : k = .list ∨ k = .tuple) {ts : List Tree} {ctx : Tree}
    (h : ∀ t ∈ ts, t.isNode = true ∧ Gives o I ops (visit t) Expressed) (hc : IsUse ctx) :
    Gives o I ops (visit (.node k [.list ts, ctx])) Expressed := by
  have hfields : Gives o I ops (gather resultsOf (walkAll [.list ts, ctx]))
      fun cs => ∀ c ∈ cs, Printable c := by
    refine Gives.mono (gives_fields (yields_trees (fun _ hp => hp.form) h)
      (gives_fields (yields_use hI hc) gives_no_fields)) ?_
    rintro _ ⟨cs, _, rfl, ⟨-, hcs⟩, _, _, rfl, rfl, rfl⟩ c hm
    exact (hcs c (by simpa using hm)).printable
  rcases hk with rfl | rfl
  · exact gives_node hI rfl rfl hfields fun cs hcs => gives_pure (expressed_array hcs)
  · exact gives_node hI rfl rfl hfields fun cs hcs => gives_pure (expressed_array hcs)

theorem gives_dict {ks vs : List Tree} (hk : ∀ k ∈ ks, IsKey k)
    (hv : ∀ v ∈ vs, v.isNode = true ∧ Gives o I ops (visit v) Expressed)
    (hn : ks.length = vs.length) :
    Gives o I ops (visit (.node .dict [.list ks, .list vs])) Expressed := by
  have hdict : Gives o I ops _ _ := gives_dictionary hI (f := Prod.fst)
    (g := Prod.snd) (P := fun _ p => Expressed p ∧ ∃ s, p.value = .ok (.text s))
    (Q := fun _ => Expressed) (fun _ _ hp => ⟨hp.1.form, hp.2⟩) (fun _ _ hp => hp.form)
    (fun e (he : e ∈ ks.zip vs) => gives_key hI (hk e.1 (List.of_mem_zip he).1))
    fun e he => hv e.2 (List.of_mem_zip he).2
  rw [List.map_fst_zip (Nat.le_of_eq hn), List.map_snd_zip (Nat.le_of_eq hn.symm)] at hdict
  refine Gives.mono hdict ?_
  rintro _ ⟨xs, ys, hxs, hys, rfl⟩
  refine expressed_node rfl (printable_object (items_printable fun p hp => ?_))
  obtain ⟨e, he, rfl⟩ := List.mem_map.1 hp
  obtain ⟨-, -, hvalue⟩ := forall₂_right hys (List.of_mem_zip he).2
  exact printable_assign (printable_word _) hvalue.printable

omit hI in
theorem expressed_function {ps : List Piece} (hps : ∀ p ∈ ps, IsIdent p) {body : Seq}
    (hbody : body.Printable) (m : Marks) :
    Expressed (.node (.function .expr .absent (.items ps) body) m) :=
  expressed_node rfl (printable_function (items_printable fun p hp => (hps p hp).printable) hbody)

theorem gives_lambda {ps body : Tree} (hp : IsParams ps) (hb : body.isNode = true)
    (h : Gives o I ops (visit body) Expressed) :
    Gives o I ops (visit (.node .lambda [ps, body])) Expressed := by
  refine gives_node hI rfl rfl (gives_fields (yields_params hI hp) (gives_fields
    (yields_one hb (fun _ hp => hp.form.spliced) h) gives_no_fields)) ?_
  rintro _ ⟨_, _, rfl, ⟨qs, hqs, rfl⟩, _, _, rfl, ⟨p, hp, rfl⟩, rfl⟩
  refine gives_bind_eq (gives_child rfl) (Gives.mono (gives_functionOf hqs _) ?_)
  rintro _ ⟨rs, hrs, rfl⟩
  refine expressed_function hrs (items_printable ?_) {}
  exact List.forall_mem_singleton.2 (printable_exprStatement hp.printable)

end

/-! Comprehensions -/

theorem gives_conditions {ws : List Branch} (h : ∀ w ∈ ws, Gives o I ops w.again Printable)
    {acc : Piece} (hacc : Printable acc) : Gives o I ops (conditions ws acc) Printable := by
  induction ws generalizing acc with
  | nil => exact gives_pure hacc
  | cons w ws ih =>
    refine gives_bind (h w (by simp)) fun c hc => ih (fun v hv => h v (by simp [hv])) ?_
    split_ifs
    · exact hc
    · exact printable_binary hacc hc

/-- `for (i = 0, n = values.length; i < n; i++) body` -/
theorem printable_indexLoop {i n values body : Piece} (hi : IsIdent i) (hn : IsIdent n)
    (hv : IsIdent values) (hb : Printable body) : Printable (indexLoop i n values body) := by
  have hzero : Printable (leaf .number "0") := printable_leaf (by simp) "0"
  have hlength : Printable (dot values "length") := (expressed_dot hv.printable _).printable
  exact printable_forLoop (printable_comma (printable_assignTo "=" hi.printable hzero)
    (printable_assignTo "=" hn.printable hlength)) (printable_binary hi.printable hn.printable)
    (printable_unary hi.printable) hb

theorem gives_listComp (hI : Roomy o I) {x target source sync : Tree} {ifs : List Tree}
    (hx : x.isNode = true ∧ Gives o I ops (visit x) Expressed)
    (ht : target.isNode = true ∧ Gives o I ops (visit target) Expressed)
    (hs : source.isNode = true ∧ Gives o I ops (visit source) Expressed)
    (hi : ∀ t ∈ ifs, t.isNode = true ∧ Gives o I ops (visit t) Expressed) (ha : Inert sync) :
    Gives o I ops
      (visit (.node .listComp [x, .list [.node .comprehension [target, source, .list ifs, sync]]]))
      Expressed := by
  have one {t : Tree} (h : t.isNode = true ∧ Gives o I ops (visit t) Expressed) :=
    yields_one h.1 (fun _ hp => hp.form.spliced) h.2
  have hgen : Gives o I ops (visit (.node .comprehension [target, source, .list ifs, sync]))
      (· = .absent) :=
    gives_node hI.toStable rfl rfl (gives_fields (one ht) (gives_fields (one hs) (gives_fields
      (yields_trees (fun _ hp => hp.form) hi) (gives_fields (yields_inert ha) gives_no_fields))))
      fun cs _ => gives_pure rfl
  have hgens : Yields o I ops
      (.list [.node .comprehension [target, source, .list ifs, sync]]) fun _ => True :=
    Gives.mono (yields_single rfl hgen) fun _ _ => trivial
  refine gives_visit hI.toStable rfl rfl (gives_fields (one hx) (gives_fields hgens
    gives_no_fields)) fun cs _ => ?_
  have given' {t : Tree} (ht : t ≠ .missing) : Gives o I ops (given (walk t).tree) (· = t) := by
    rw [walk_tree]
    exact gives_given ht
  refine gives_bind_eq (gives_sizeOfField _) (gives_ite (fun h => absurd rfl h) fun _ => ?_)
  refine gives_bind_eq (given' (t := source) ?_) (gives_bind_eq (given' (t := target) ?_)
    (gives_bind_eq (given' (t := .list ifs) nofun) ?_))
  · rintro rfl
    cases hs.1
  · rintro rfl
    cases ht.1
  refine gives_bind (hI.gives_fresh _ _) fun i hident => gives_bind (hI.gives_fresh _ _) fun n hn => ?_
  refine gives_bind (hI.gives_fresh _ _) fun values hvalues => ?_
  refine gives_bind (hI.gives_fresh _ _) fun results hresults => ?_
  have hdecls : ∀ p ∈ [i, n, values, results],
      Gives o I ops (declaration p .absent) Printable := by
    intro p hp
    have hpident : IsIdent p := by
      simp only [List.mem_cons, List.not_mem_nil, or_false] at hp
      rcases hp with rfl | rfl | rfl | rfl <;> assumption
    refine Gives.mono (gives_declaration hI.toStable hpident _) ?_
    rintro _ ⟨q, hq, rfl⟩
    exact printable_varDecl hq.printable printable_absent
  refine gives_bind (gives_mapM hdecls) fun vars hvars => gives_bind hs.2 fun src hsrc => ?_
  have hclear : Printable (Form.array (.items [])).piece := (expressed_array (by simp)).printable
  have hpush : Printable (Form.call (dot results "push")
      (Seq.ofPiece (statement (Form.bracket values i).piece))).piece :=
    printable_call (expressed_dot hresults.printable _).printable (ofPiece_printable rfl
      (List.forall_mem_singleton.2 (printable_bracket hvalues.printable hident.printable)) _)
  have hrest {body : Piece} (hbody : Printable body) : Gives o I ops (do
      let f ← functionOf (.items []) (Seq.ofPiece (block [(Form.group .vars (.items vars)).piece,
        statement (assignTo "=" values src),
        statement (assignTo "=" results (Form.array (.items [])).piece),
        indexLoop i n values body, (Form.returns results).piece]))
      return callOf f.inParens []) Expressed := by
    refine gives_bind (gives_functionOf (by simp) _) ?_
    rintro _ ⟨qs, hqs, rfl⟩
    refine gives_pure (expressed_callOf (expressed_function hqs (ofPiece_printable rfl ?_ _)
      _).printable (by simp))
    simp only [List.forall_mem_cons, List.not_mem_nil, false_implies, implies_true, and_true]
    exact ⟨printable_vars (items_printable hvars.2),
      printable_statement (printable_assignTo _ hvalues.printable hsrc.printable),
      printable_statement (printable_assignTo _ hresults.printable hclear),
      printable_indexLoop hident hn hvalues hbody, printable_returns hresults.printable⟩
  have hpushes := printable_blockOf (List.forall_mem_singleton.2 hpush)
  refine gives_ite (fun _ => gives_bind (gives_conditions ?_ printable_absent) fun test htest => ?_)
    fun _ => hrest hpushes
  · exact forall_walkAll fun t ht => Gives.mono (hi t ht).2 fun _ hp => hp.printable
  · exact hrest (printable_blockOf (List.forall_mem_singleton.2
      (printable_ifThen htest hpushes printable_absent)))

/-- Every supported expression is walked to a form that can be rendered. -/
theorem gives_expr (hI : Roomy o I) {t : Tree} (h : IsExpr t) (ops : Stack Kind) :
    Gives o I ops (visit t) Expressed := by
  induction h generalizing ops with
  | key hk => exact Gives.mono (gives_key hI.toStable hk).2 fun _ hp => hp.1
  | @unary op x hop hx ih =>
    have hnone : operatorText op = none := by
      revert hop op
      decide
    refine Gives.mono (gives_unary hI.toStable hnone hx.isNode (fun _ hp => hp.form)
      (ih ops)) ?_
    rintro _ ⟨y, hy, rfl⟩
    exact expressed_node rfl (printable_unary hy.printable)
  | @binary op l r hop hl hr ihl ihr =>
    refine Gives.mono (gives_binary hI.toStable hop hl.isNode hr.isNode (fun _ hp => hp.form)
      (fun _ hp => hp.form) (ihl _) (ihr _)) ?_
    rintro _ ⟨x, y, hx, hy, rfl⟩
    exact expressed_binaryPiece hop _ hx.printable hy.printable
  | @bool op vs hop hn hv ih =>
    obtain ⟨s, hs⟩ : ∃ s, operatorText op = some s := Option.isSome_iff_exists.1 (by
      revert hop op
      decide)
    have hbool : Gives o I ops
        (visit (.node .boolOp [.node (.op op) [], .list (vs.map id)])) fun p => ∃ x y zs,
          List.Forall₂ (fun _ => Expressed) vs (x :: y :: zs) ∧
            p = wrapped (!ops.isEmpty) (Walk.binary s x y) :=
      gives_bool hI.toStable hs hn (fun _ _ hp => hp.form)
        fun v hm => ⟨(hv v hm).isNode, ih v hm _⟩
    rw [List.map_id] at hbool
    refine Gives.mono hbool ?_
    rintro _ ⟨x, y, zs, hxy, rfl⟩
    rcases hxy with _ | ⟨hx, _ | ⟨hy, _⟩⟩
    exact expressed_wrapped hx.printable hy.printable s _
  | @compare op l r hop hl hr ihl ihr =>
    obtain ⟨s, hs⟩ : ∃ s, operatorText op = some s := Option.isSome_iff_exists.1 (by
      revert hop op
      decide)
    refine Gives.mono (gives_compare hI.toStable hs hl.isNode hr.isNode (fun _ hp => hp.form)
      (fun _ hp => hp.form) (ihl _) (ihr _)) ?_
    rintro _ ⟨x, y, hx, hy, rfl⟩
    exact expressed_wrapped hx.printable hy.printable s false
  | @call f args hf ha ihf iha =>
    have hcall : Gives o I ops (visit (.node .call [f, .list (args.map id), .list []]))
        fun p => ∃ x ys, Expressed x ∧ List.Forall₂ (fun _ => Expressed) args ys ∧ p = callOf x ys :=
      gives_call hI.toStable hf.isNode (fun _ hp => hp.form) (fun _ _ hp => hp.form) (ihf ops)
        fun a hm => ⟨(ha a hm).isNode, iha a hm ops⟩
    rw [List.map_id] at hcall
    refine Gives.mono hcall ?_
    rintro _ ⟨x, ys, hx, hys, rfl⟩
    refine expressed_callOf hx.printable fun y hy => ?_
    obtain ⟨a, -, hexpr⟩ := forall₂_right hys hy
    exact hexpr.printable
  | attr hx hc ih => exact gives_attr hI.toStable hx.isNode (ih ops) hc
  | index hx hi hc ihx ihi => exact gives_index hI.toStable hx.isNode hi.isNode (ihx ops) (ihi ops) hc
  | slice hx hl hh hc ihx ihl ihh =>
    exact gives_slice hI.toStable hx.isNode (ihx ops) (fun t ht => ⟨(hl t ht).isNode, ihl t ht ops⟩)
      (fun t ht => ⟨(hh t ht).isNode, ihh t ht ops⟩) hc
  | sequence hk ht hc ih =>
    exact gives_sequence hI.toStable hk (fun t hm => ⟨(ht t hm).isNode, ih t hm ops⟩) hc
  | dict hk hv hn ih => exact gives_dict hI.toStable hk (fun t hm => ⟨(hv t hm).isNode, ih t hm ops⟩) hn
  | lambda hp hb ih => exact gives_lambda hI.toStable hp hb.isNode (ih ops)
  | listComp hx ht hs hi ha ihx iht ihs ihi =>
    exact gives_listComp hI ⟨hx.isNode, ihx ops⟩ ⟨ht.isNode, iht ops⟩ ⟨hs.isNode, ihs ops⟩
      (fun t hm => ⟨(hi t hm).isNode, ihi t hm ops⟩) ha

end

end Transpile.Walk
