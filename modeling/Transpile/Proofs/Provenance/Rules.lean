import Transpile.Proofs.Provenance.Steps

/-! What rules make of what they are given. Each rule but that of a program hands on pieces of the
results of its fields, of the scope and of the atoms of its node. -/

namespace Transpile.Walk

open Script Source

variable {β : Type} {σ : Supply}

attribute [local simp] Form.pieces Seq.pieces

/-! Expressions -/

section Expr

variable {cs : List Piece}

theorem hands_operatorRule (op : Op) : Hands σ σ.Fine (operatorRule op) := by
  have hline : (operatorText op).all (fun t => !t.toList.contains '\n') = true := by
    cases op <;> rfl
  unfold operatorRule
  split
  · next t ht =>
    rw [ht] at hline
    exact hands_pure (fine_text (by simpa using hline))
  · exact hands_pure fine_absent

theorem hands_unaryRule (op : Tree) (hcs : ∀ c ∈ cs, σ.Fine c) :
    Hands σ σ.Fine (unaryRule op cs) := by
  refine hands_bind (hands_operatorOf op) fun o _ => hands_bind (hands_child hcs 0) fun c hc => ?_
  have hline : '\n' ∉ (unaryText o).toList := by
    unfold unaryText
    split <;> decide
  exact hands_pure (fine_unary hline hc false)

theorem hands_grouped {p : Piece} (hp : σ.Fine p) : Hands σ σ.Fine (grouped p) := by
  refine hands_bind (hands_bind (Q := fun _ => True) hands_get fun _ _ => hands_pure trivial) fun _ _ => ?_
  exact hands_ite (hands_pure hp.inParens) (hands_pure hp)

theorem fine_powerOf {l r : Piece} (hl : σ.Fine l) (hr : σ.Fine r) : σ.Fine (powerOf l r) :=
  fine_callOf (fine_dot (by decide) (fine_word (by decide))) (by simpa using ⟨hl, hr⟩)

theorem fine_floorOf {l r : Piece} (hl : σ.Fine l) (hr : σ.Fine r) : σ.Fine (floorOf l r) :=
  fine_callOf (fine_dot (by decide) (fine_word (by decide)))
    (by simpa using fine_binary (by decide) hl hr)

theorem fine_operator {op l r : Piece} (hop : σ.Fine op) (hl : σ.Fine l) (hr : σ.Fine r) :
    σ.Fine (Form.binary op l r).piece :=
  fine_piece rfl (by simpa using ⟨hop, hl, hr⟩)

theorem hands_binaryRule (op : Tree) (hcs : ∀ c ∈ cs, σ.Fine c) :
    Hands σ σ.Fine (binaryRule op cs) := by
  refine hands_bind (hands_operatorOf op) fun b _ => ?_
  have two {f : Piece → Piece → Piece} (hf : ∀ {l r}, σ.Fine l → σ.Fine r → σ.Fine (f l r)) :
      Hands σ σ.Fine (do return f (← child cs 0) (← child cs 1)) :=
    hands_bind (hands_child hcs 0) fun _ hl => hands_bind (hands_child hcs 1) fun _ hr =>
      hands_pure (hf hl hr)
  split
  · exact two fine_powerOf
  · exact two fine_floorOf
  · split
    · next t ht =>
      obtain ⟨q, -, hq⟩ := Option.bind_eq_some_iff.1 ht
      have hline : (bitText q).all (fun t => !t.toList.contains '\n') = true := by
        cases q <;> rfl
      rw [hq] at hline
      exact two (fine_binary (by simpa using hline))
    · exact hands_bind (hands_child hcs 1) fun _ hop => hands_bind (hands_child hcs 0) fun _ hl =>
        hands_bind (hands_child hcs 2) fun _ hr => hands_grouped (fine_operator hop hl hr)

theorem hands_boolRule (hcs : ∀ c ∈ cs, σ.Fine c) : Hands σ σ.Fine (boolRule cs) :=
  hands_bind (hands_child hcs 0) fun _ hop => hands_bind (hands_child hcs 1) fun _ hl =>
    hands_bind (hands_child hcs 2) fun _ hr => hands_grouped (fine_operator hop hl hr)

theorem hands_compareRule (hcs : ∀ c ∈ cs, σ.Fine c) : Hands σ σ.Fine (compareRule cs) :=
  hands_bind (hands_child hcs 1) fun _ hop => hands_bind (hands_child hcs 0) fun _ hl =>
    hands_bind (hands_child hcs 2) fun _ hr => hands_pure (fine_operator hop hl hr)

theorem hands_numberRule {n : Tree} (hn : σ.Holds n) : Hands σ σ.Fine (numberRule n) := by
  refine hands_bind (hands_atomField hn) fun v hv => ?_
  split
  · exact hands_throw _
  · refine hands_pure (fine_piece rfl fun q hq => ?_)
    rw [List.mem_singleton.1 hq]
    exact .atom hv.2

theorem hands_stringRule {t : Tree} (ht : σ.Holds t) : Hands σ σ.Fine (stringRule t) := by
  refine hands_bind (hands_atomField ht) fun v hv => hands_pure (fine_piece rfl fun q hq => ?_)
  have hquote : σ.A (.text "\"") := σ.line _ (by decide)
  rw [List.mem_singleton.1 hq]
  exact .atom (σ.append _ _ (σ.append _ _ hquote hv.2) hquote)

theorem hands_nameRule {id : Tree} (hid : σ.Holds id) : Hands σ σ.Fine (nameRule id) := by
  refine hands_bind (hands_atomField hid) fun v hv => ?_
  split
  · exact hands_pure (fine_leaf (by decide) (by decide))
  · exact hands_pure (fine_leaf (by decide) (by decide))
  · exact hands_pure (fine_leaf (by decide) (by decide))
  · exact hands_sourceName hv.1

theorem hands_callRule (func : Tree) (hcs : ∀ c ∈ cs, σ.Fine c) :
    Hands σ σ.Fine (callRule func cs) := by
  have hargs : ∀ c ∈ cs.drop 1, σ.Fine c := fun c hc => hcs c (List.mem_of_mem_drop hc)
  refine hands_bind (hands_given func) fun t _ => ?_
  split
  · exact hands_bind (hands_child hcs 0) fun _ hf => hands_pure (fine_callOf hf hargs)
  · exact hands_bind (hands_child hcs 0) fun _ hf =>
      hands_pure (fine_callOf hf fun c hc => hargs c (List.mem_filter.1 hc).1)

theorem hands_attributeRule {name : Tree} (hname : σ.Holds name) (hcs : ∀ c ∈ cs, σ.Fine c) :
    Hands σ σ.Fine (attributeRule name cs) :=
  hands_bind (hands_child hcs 0) fun _ ht => hands_bind (hands_atomField hname) fun _ hv =>
    hands_bind (hands_sourceName hv.1) fun _ hn =>
      hands_pure (fine_piece rfl (by simpa using ⟨ht, hn⟩))

theorem hands_subscriptRule {slice : Branch} (hs : slice.All (Hands σ σ.Fine))
    (hcs : ∀ c ∈ cs, σ.Fine c) : Hands σ σ.Fine (subscriptRule slice cs) := by
  refine hands_bind (hands_child hcs 0) fun target ht => ?_
  refine hands_bind (hands_given slice.tree) fun t _ => ?_
  split
  · next lower upper step hp =>
    have hl : lower.All (Hands σ σ.Fine) := hs.parts _ (by rw [hp]; simp)
    have hu : upper.All (Hands σ σ.Fine) := hs.parts _ (by rw [hp]; simp)
    have hcall {args : List Piece} (h : ∀ p ∈ args, σ.Fine p) :
        σ.Fine (callOf (dot target "slice") args) := fine_callOf (fine_dot (by decide) ht) h
    have rest {low : Piece} (hlow : σ.Fine low) : Hands σ σ.Fine (do
        let high ← if upper.tree.isTruthy then do pure [← upper.again] else pure []
        return callOf (dot target "slice") (low :: high)) := by
      refine hands_ite (hands_bind hu.again fun high hhigh => hands_pure (hcall ?_))
        (hands_pure (hcall ?_))
      · simpa using ⟨hlow, hhigh⟩
      · simpa using hlow
    refine hands_guard (hands_ite (hands_bind hl.again fun _ => rest) (rest ?_))
    exact fine_leaf (by decide) (by decide)
  · exact hands_bind (hands_child hcs 1) fun _ hi => hands_pure (fine_bracket ht hi)

theorem hands_dictRule (hcs : ∀ c ∈ cs, σ.Fine c) : Hands σ σ.Fine (dictRule cs) := by
  refine hands_bind (Q := σ.Fine) (P := fun ps => ∀ p ∈ ps, σ.Fine p) (hands_mapM fun e he => ?_)
    fun ps hps => hands_pure (fine_piece rfl hps)
  obtain ⟨hk, hv⟩ := List.of_mem_zip he
  have hkey : σ.Fine e.1 := hcs _ (List.mem_of_mem_take hk)
  refine hands_bind (hands_need fun _ => hkey.value) fun v hv' => ?_
  refine hands_bind (hands_sourceName hv') fun n hn => hands_pure ?_
  exact fine_assignTo (by decide) hn (hcs _ (List.mem_of_mem_drop hv))

theorem hands_lambdaRule (hcs : ∀ c ∈ cs, σ.Fine c) : Hands σ σ.Fine (lambdaRule cs) := by
  refine hands_bind (hands_child hcs 0) fun params hparams => ?_
  refine hands_functionOf (fun _ => Seq.all_of_declare_ofPiece hparams) fun q hq => ?_
  obtain ⟨c, hc, rfl⟩ := List.mem_map.1 hq
  exact fine_statement (hcs c (List.mem_of_mem_drop hc))

theorem hands_conditions {ws : List Branch} (hw : ∀ w ∈ ws, w.All (Hands σ σ.Fine)) {acc : Piece}
    (hacc : σ.Fine acc) : Hands σ σ.Fine (conditions ws acc) := by
  induction ws generalizing acc with
  | nil => exact hands_pure hacc
  | cons w ws ih =>
    refine hands_bind (hw w (by simp)).again fun c hc => ih (fun v hv => hw v (by simp [hv])) ?_
    split_ifs
    · exact hc
    · exact fine_binary (by decide) hacc hc

theorem fine_indexLoop {i n values body : Piece} (hi : σ.Fine i) (hn : σ.Fine n)
    (hvalues : σ.Fine values) (hbody : σ.Fine body) : σ.Fine (indexLoop i n values body) := by
  have hzero : σ.Fine (assignTo "=" i (leaf .number "0")) :=
    fine_assignTo (by decide) hi (fine_leaf (by decide) (by decide))
  have hlength : σ.Fine (assignTo "=" n (dot values "length")) :=
    fine_assignTo (by decide) hn (fine_dot (by decide) hvalues)
  have hstart := fine_piece (σ := σ) (f := .comma _ _) rfl
    (by simpa using ⟨hzero, hlength⟩)
  have htest : σ.Fine (binary "<" i n) := fine_binary (by decide) hi hn
  have hstep : σ.Fine (Form.unary (text "++") i (.atom (.flag true))).piece :=
    fine_unary (by decide) hi true
  exact fine_piece rfl (by simpa using ⟨hstart, htest, hstep, hbody⟩)

theorem hands_comprehensionRule {generators : Branch} (hg : generators.All (Hands σ σ.Fine)) :
    Hands σ σ.Fine (comprehensionRule generators) := by
  refine hands_bind (hands_sizeOfField _) fun n _ => hands_guard ?_
  split
  · next target source ifs _ hp =>
    have hc := hg.parts _ (by rw [hp]; exact List.mem_singleton_self _)
    have hsource : source.All (Hands σ σ.Fine) := hc.parts _ (by simp [Branch.parts])
    have hifs : ifs.All (Hands σ σ.Fine) := hc.parts _ (by simp [Branch.parts])
    refine hands_bind (hands_given _) fun _ _ => hands_bind (hands_given _) fun _ _ => ?_
    refine hands_bind (hands_given _) fun _ _ => hands_bind (hands_fresh (by decide)) fun i hi => ?_
    refine hands_bind (hands_fresh (by decide)) fun n hn => ?_
    refine hands_bind (hands_fresh (by decide)) fun values hvalues => ?_
    refine hands_bind (hands_fresh (by decide)) fun results hresults => ?_
    refine hands_bind (hands_mapM fun p hp => hands_declaration ?_ fine_absent) fun vars hvars => ?_
    · simp only [List.mem_cons, List.not_mem_nil, or_false] at hp
      rcases hp with rfl | rfl | rfl | rfl
      exacts [hi, hn, hvalues, hresults]
    refine hands_bind hsource.again fun p hp => ?_
    have helement : σ.Fine (statement (Form.bracket values i).piece) :=
      fine_statement (fine_bracket hvalues hi)
    have hpush : σ.Fine (Form.call (dot results "push")
        (Seq.ofPiece (statement (Form.bracket values i).piece))).piece :=
      fine_piece rfl (by
        simpa using ⟨fine_dot (by decide) hresults, Seq.all_ofPiece helement⟩)
    have rest {body : Piece} (hbody : σ.Fine body) : Hands σ σ.Fine (do
        let f ← functionOf (.items []) (Seq.ofPiece (block
          [(Form.group .vars (.items vars)).piece, statement (assignTo "=" values p),
            statement (assignTo "=" results (Form.array (.items [])).piece),
            indexLoop i n values body, (Form.returns results).piece]))
        return callOf f.inParens []) := by
      have hdecl : σ.Fine (Form.group .vars (.items vars)).piece := fine_piece rfl hvars
      have hfill : σ.Fine (statement (assignTo "=" values p)) :=
        fine_statement (fine_assignTo (by decide) hvalues hp)
      have hclear : σ.Fine (statement (assignTo "=" results (Form.array (.items [])).piece)) :=
        fine_statement (fine_assignTo (by decide) hresults (fine_piece rfl (by
          simp)))
      have hreturn : σ.Fine (Form.returns results).piece :=
        fine_piece rfl (by simpa using hresults)
      refine hands_bind (hands_thunk (Seq.all_ofPiece (fine_block ?_))) fun f hf =>
        hands_pure (fine_callOf hf.inParens (by simp))
      simpa using ⟨hdecl, hfill, hclear, fine_indexLoop hi hn hvalues hbody, hreturn⟩
    have hinner : σ.Fine (block [(Form.call (dot results "push")
        (Seq.ofPiece (statement (Form.bracket values i).piece))).piece]) :=
      fine_block (by simpa using hpush)
    refine hands_ite ?_ (rest hinner)
    refine hands_bind (hands_conditions hifs.parts fine_absent) fun test htest => ?_
    refine rest (fine_block ?_)
    have hif : σ.Fine (Form.ifThen test _ .absent).piece :=
      fine_piece rfl (by simpa using ⟨htest, hinner, fine_absent⟩)
    simpa using hif
  · exact hands_throw _

end Expr

/-! Statements -/

section Stmt

variable {cs : List Piece}

theorem hands_expressionRule (hcs : ∀ c ∈ cs, σ.Fine c) : Hands σ σ.Fine (expressionRule cs) :=
  hands_bind (hands_child hcs 0) fun _ hc => hands_pure (fine_statement hc)

theorem fine_headD (hcs : ∀ c ∈ cs, σ.Fine c) : σ.Fine (cs.headD .absent) := by
  cases cs with
  | nil => exact fine_absent
  | cons c cs => exact hcs c (by simp)

theorem hands_returnRule (hcs : ∀ c ∈ cs, σ.Fine c) : Hands σ σ.Fine (returnRule cs) :=
  hands_pure (fine_piece rfl (by simpa using fine_headD hcs))

theorem hands_raiseRule (hcs : ∀ c ∈ cs, σ.Fine c) : Hands σ σ.Fine (raiseRule cs) :=
  hands_bind (hands_child hcs 0) fun _ hc =>
    hands_pure (fine_piece rfl (by simpa using hc))

theorem hands_deleteRule (hcs : ∀ c ∈ cs, σ.Fine c) : Hands σ σ.Fine (deleteRule cs) := by
  refine hands_bind (hands_mapM fun c hc => ?_) fun ds hds => hands_pure (fine_splice hds)
  exact hands_bind (hands_bindByValue (hcs c hc)) fun _ hc =>
    hands_pure (fine_statement (fine_unary (by decide) hc false))

/-- A target is bound if it is an identifier, whatever is done with it then. -/
theorem hands_bindTarget {Q : β → Prop} {t : Piece} (ht : σ.Fine t) {f : Piece → Walker β}
    (hf : ∀ p, σ.Fine p → Hands σ Q (f p)) :
    Hands σ Q (if isIdentifier t then Walk.bind t >>= f else pure t >>= f) :=
  hands_ite (hands_bind (hands_bindByValue ht) hf) (hands_bind (hands_pure ht) hf)

theorem fine_unpack {source : Piece} {items : List Piece} (hs : σ.Fine source)
    (hi : ∀ p ∈ items, σ.Fine p) : ∀ p ∈ unpack source items, σ.Fine p := by
  intro p hp
  obtain ⟨e, he, rfl⟩ := List.mem_map.1 hp
  have hindex : σ.Fine (leaf .number (toString e.2)) :=
    fine_leaf (by decide) (break_notMem_toString e.2)
  exact fine_statement (fine_assignTo (by decide) (hi _ (List.fst_mem_of_mem_zipIdx he))
    (fine_bracket hs hindex))

theorem hands_placeTarget {value t : Piece} {extras : List Piece} (ht : σ.Fine t)
    (he : ∀ p ∈ extras, σ.Fine p) :
    Hands σ (fun e => σ.Fine e.1 ∧ ∀ p ∈ e.2, σ.Fine p) (placeTarget value extras t) := by
  unfold placeTarget
  split
  · next items _ hitems _ =>
    refine hands_bind (hands_fresh (by decide)) fun r hr => hands_pure ⟨hr, fun p hp => ?_⟩
    rcases List.mem_append.1 hp with hp | hp
    · exact he p hp
    · exact fine_unpack hr (fine_arrayParts ht hitems) p hp
  · exact hands_pure ⟨ht, he⟩

theorem hands_assignTargets {value : Piece} {ts : List Piece} {chain : Piece} {extras : List Piece}
    (hv : σ.Fine value) (hts : ∀ t ∈ ts, σ.Fine t) (hchain : σ.Fine chain)
    (he : ∀ p ∈ extras, σ.Fine p) :
    Hands σ (fun e => σ.Fine e.1 ∧ ∀ p ∈ e.2, σ.Fine p) (assignTargets value ts chain extras) := by
  induction ts generalizing chain extras with
  | nil => exact hands_pure ⟨hchain, he⟩
  | cons t ts ih =>
    rw [assignTargets_cons]
    refine hands_bindTarget (hts t (by simp)) fun t ht => ?_
    refine hands_bind (hands_placeTarget ht he) fun e ⟨ht, he⟩ => ?_
    refine ih (fun u hu => hts u (by simp [hu])) (fine_assignTo (by decide) ht ?_) he
    split_ifs
    · exact hv
    · exact hchain

theorem hands_assignRule (hcs : ∀ c ∈ cs, σ.Fine c) : Hands σ σ.Fine (assignRule cs) := by
  unfold assignRule
  split
  · exact hands_throw _
  · next value hvalue =>
    have hts : ∀ t ∈ cs.dropLast.reverse, σ.Fine t := fun t ht =>
      hcs t ((List.dropLast_sublist cs).mem (List.mem_reverse.1 ht))
    have hv := hcs value (List.mem_of_getLast? hvalue)
    refine hands_bind (hands_assignTargets hv hts fine_absent (by simp)) fun e he => ?_
    refine hands_ite (hands_pure (fine_statement he.1)) (hands_pure (fine_splice ?_))
    simpa using ⟨fine_statement he.1, he.2⟩

theorem hands_augmented {f : Piece → Piece → Piece}
    (hf : ∀ {l r}, σ.Fine l → σ.Fine r → σ.Fine (f l r)) {target : Piece} (ht : σ.Fine target)
    (hcs : ∀ c ∈ cs, σ.Fine c) : Hands σ σ.Fine (augmented f target cs) :=
  hands_bind (hands_child hcs 1) fun _ hv => hands_pure (hf ht hv)

theorem hands_augmentRule (op : Tree) (hcs : ∀ c ∈ cs, σ.Fine c) :
    Hands σ σ.Fine (augmentRule op cs) := by
  refine hands_bind (hands_child hcs 0) fun target ht => ?_
  refine hands_bind (hands_operatorOf op) fun b _ => ?_
  split
  · exact hands_bind (hands_augmented fine_powerOf ht hcs) fun _ hv =>
      hands_pure (fine_statement (fine_assignTo (by decide) ht hv))
  · exact hands_bind (hands_augmented fine_floorOf ht hcs) fun _ hv =>
      hands_pure (fine_statement (fine_assignTo (by decide) ht hv))
  · refine hands_bind (hands_child hcs 1) fun op hop => ?_
    refine hands_bind (hands_child hcs 2) fun value hv => hands_bindTarget ht fun t ht => ?_
    split
    · next s =>
      have hs : σ.A (.text (s ++ "=")) :=
        σ.append _ _ (Piece.all_atom_iff.1 hop) (σ.line _ (by decide))
      refine hands_pure (fine_statement (fine_piece rfl fun q hq => ?_))
      simp only [Form.pieces, List.mem_cons, List.not_mem_nil, or_false] at hq
      rcases hq with rfl | rfl | rfl
      exacts [.atom hs, ht, hv]
    · exact hands_throw _

theorem fine_ifThen {test yes no : Piece} (ht : σ.Fine test) (hy : σ.Fine yes) (hn : σ.Fine no) :
    σ.Fine (Form.ifThen test yes no).piece :=
  fine_piece rfl (by simpa using ⟨ht, hy, hn⟩)

theorem hands_ifRule (body orelse : Tree) (hcs : ∀ c ∈ cs, σ.Fine c) :
    Hands σ σ.Fine (ifRule body orelse cs) := by
  refine hands_bind (hands_child hcs 0) fun test ht => ?_
  refine hands_bind (hands_sizeOfField body) fun n _ => ?_
  refine hands_bind (hands_sizeOfField orelse) fun m _ => ?_
  have hyes : σ.Fine (block ((cs.drop 1).take n)) := fine_block fun c hc =>
    hcs c (List.mem_of_mem_drop (List.mem_of_mem_take hc))
  have hrest : ∀ c ∈ cs.drop (n + 1), σ.Fine c := fun c hc => hcs c (List.mem_of_mem_drop hc)
  refine hands_ite (hands_pure (fine_ifThen ht hyes fine_absent)) (hands_ite ?_ ?_)
  · refine hands_bind (hands_child hrest 0) fun first hfirst => ?_
    refine hands_pure (fine_ifThen ht hyes ?_)
    split_ifs
    · exact hfirst
    · exact fine_block hrest
  · exact hands_pure (fine_ifThen ht hyes (fine_block hrest))

theorem hands_whileRule (body orelse : Tree) (hcs : ∀ c ∈ cs, σ.Fine c) :
    Hands σ σ.Fine (whileRule body orelse cs) := by
  refine hands_bind (hands_child hcs 0) fun test ht => ?_
  refine hands_bind (hands_sizeOfField body) fun n _ => ?_
  have hinner : ∀ c ∈ (cs.drop 1).take n, σ.Fine c := fun c hc =>
    hcs c (List.mem_of_mem_drop (List.mem_of_mem_take hc))
  have hwhile {ps : List Piece} (h : ∀ p ∈ ps, σ.Fine p) :
      σ.Fine (Form.whileDo test (block ps)).piece :=
    fine_piece rfl (by simpa using ⟨ht, fine_block h⟩)
  refine hands_bind (hands_given orelse) fun t _ => hands_ite ?_ (hands_pure (hwhile hinner))
  refine hands_bind (hands_fresh (by decide)) fun flag hflag => hands_pure (fine_splice ?_)
  have hset {s : String} (hs : '\n' ∉ s.toList) :
      σ.Fine (statement (assignTo "=" flag (leaf .boolean s))) :=
    fine_statement (fine_assignTo (by decide) hflag (fine_leaf (by decide) hs))
  have hbody := hwhile (List.forall_mem_cons.2 ⟨hset (s := "false") (by decide), hinner⟩)
  have helse : σ.Fine (Form.ifThen flag (block (cs.drop (n + 1))) .absent).piece :=
    fine_ifThen hflag (fine_block fun c hc => hcs c (List.mem_of_mem_drop hc)) fine_absent
  refine List.forall_mem_cons.2 ⟨hset (by decide), List.forall_mem_cons.2 ⟨hbody, ?_⟩⟩
  simpa using helse

theorem hands_forRule (hcs : ∀ c ∈ cs, σ.Fine c) : Hands σ σ.Fine (forRule cs) := by
  refine hands_bind (hands_fresh (by decide)) fun i hi => ?_
  refine hands_bind (hands_fresh (by decide)) fun values hvalues => ?_
  refine hands_bind (hands_child hcs 0) fun item hitem => ?_
  refine hands_bind (hands_child hcs 1) fun source hsource => ?_
  refine hands_bind (hands_child hcs 2) fun body hbody => ?_
  refine hands_bind (hands_declaration hvalues hsource) fun _ _ => ?_
  refine hands_bind (hands_bindByValue hitem) fun item hitem => hands_pure ?_
  have htest : σ.Fine (binary "<" i (dot values "length")) :=
    fine_binary (by decide) hi (fine_dot (by decide) hvalues)
  have hstep : σ.Fine (Form.unary (text "++") i (.atom (.flag true))).piece :=
    fine_unary (by decide) hi true
  have hzero : σ.Fine (assignTo "=" i (leaf .number "0")) :=
    fine_assignTo (by decide) hi (fine_leaf (by decide) (by decide))
  have hfill : σ.Fine (assignTo "=" values source) := fine_assignTo (by decide) hvalues hsource
  have hstart := fine_piece (σ := σ) (f := .comma _ _) rfl
    (by simpa using ⟨hzero, hfill⟩)
  have htake : σ.Fine (statement (assignTo "=" item (Form.bracket values i).piece)) :=
    fine_statement (fine_assignTo (by decide) hitem (fine_bracket hvalues hi))
  have hblock : σ.Fine (block [statement (assignTo "=" item (Form.bracket values i).piece), body]) :=
    fine_block (by simpa using ⟨htake, hbody⟩)
  exact fine_piece rfl (by simpa using ⟨hstart, htest, hstep, hblock⟩)

theorem fine_tryDo {body last : List Piece} (hbody : ∀ c ∈ body, σ.Fine c)
    (hlast : ∀ c ∈ last, σ.Fine c) :
    σ.Fine (Form.tryDo (block (body.filter isStatement)) ((body.find? isCatch).getD .absent)
      (if last.isEmpty then .absent
        else (Form.finallyDo (Seq.ofPiece (block last))).piece)).piece := by
  have hblock : σ.Fine (block (body.filter isStatement)) :=
    fine_block fun c hc => hbody c (List.mem_filter.1 hc).1
  have hhandler : σ.Fine ((body.find? isCatch).getD .absent) := by
    cases h : body.find? isCatch with
    | none => exact fine_absent
    | some c => exact hbody c (List.mem_of_find?_eq_some h)
  have hcleanup : σ.Fine (if last.isEmpty then .absent
      else (Form.finallyDo (Seq.ofPiece (block last))).piece) := by
    split_ifs
    · exact fine_absent
    · exact fine_piece rfl (Seq.all_ofPiece (fine_block hlast))
  refine fine_piece rfl fun q hq => ?_
  simp only [Form.pieces, List.mem_cons, List.not_mem_nil, or_false] at hq
  rcases hq with rfl | rfl | rfl
  exacts [hblock, hhandler, hcleanup]

theorem hands_tryRule (final : Tree) (hcs : ∀ c ∈ cs, σ.Fine c) :
    Hands σ σ.Fine (tryRule final cs) := by
  refine hands_bind (hands_sizeOfField final) fun n _ => ?_
  by_cases hn : n = 0
  · simp only [if_pos hn]
    exact hands_pure (fine_tryDo hcs (by simp))
  · simp only [if_neg hn]
    exact hands_pure (fine_tryDo (fun c hc => hcs c (List.mem_of_mem_take hc))
      fun c hc => hcs c (List.mem_of_mem_drop hc))

theorem hands_handlerRule {name : Tree} (hname : σ.Holds name) (hcs : ∀ c ∈ cs, σ.Fine c) :
    Hands σ σ.Fine (handlerRule name cs) := by
  refine hands_bind (hands_atomField hname) fun v hv => ?_
  refine hands_bind (hands_sourceName hv.1) fun id hid => ?_
  refine hands_bind (P := fun f => σ.Fine f.piece) (hands_need fun f hf => ?_) fun f hf =>
    hands_pure hf
  obtain ⟨id', hid', hf⟩ := ok_of_bind hf
  cases hf
  have hbody : σ.Fine (block (cs.filter isStatement)) :=
    fine_block fun c hc => hcs c (List.mem_filter.1 hc).1
  refine fine_piece rfl fun q hq => ?_
  rcases List.mem_cons.1 hq with rfl | hq
  · exact hid.declare hid'
  · exact Seq.all_ofPiece hbody q hq

theorem hands_entry {es : List (String × Atom)} (hes : ∀ e ∈ es, σ.A e.2) (k : String) :
    Hands σ σ.A (entry es k) := by
  unfold entry
  split
  · next a ha =>
    obtain ⟨before, after, rfl, -⟩ := List.lookup_eq_some_iff.1 ha
    exact hands_pure (hes (k, a) (by simp))
  · exact hands_throw _

theorem hands_importOne {p : Piece} (hp : σ.Fine p) : Hands σ (fun _ => True) (importOne p) := by
  cases hp with
  | @record es hes =>
    refine hands_bind (hands_entry hes _) fun name hname => ?_
    have hlocal : Hands σ (fun n => ∀ k, n = some k → σ.A (.text k)) (localName es name) := by
      refine hands_bind (hands_entry hes _) fun a ha => hands_pure fun k hk => ?_
      cases hk
      split_ifs
      · exact σ.shown a ha
      · exact σ.shown name hname
    split
    · refine hands_bind hlocal fun n hn => hands_modify fun s hs => ?_
      exact ⟨hs.levels, hs.special, hs.maps, fun k hk => hk.elim (hn k) fun h => hs.imported k (.inr h)⟩
    · refine hands_bind hlocal fun n hn => hands_modify fun s hs => ?_
      exact ⟨hs.levels, hs.special, hs.maps, fun k hk => hk.elim (fun h => hs.imported k (.inl h)) (hn k)⟩
    · exact hands_pure trivial
  | _ => exact hands_throw _

theorem hands_importRule (hcs : ∀ c ∈ cs, σ.Fine c) : Hands σ σ.Fine (importRule cs) :=
  hands_bind (hands_forM fun p hp => hands_importOne (hcs p hp)) fun _ _ => hands_pure fine_absent

theorem hands_aliasRule {name asName : Tree} {place : List Tree} (hname : σ.Holds name)
    (has : σ.Holds asName) (hplace : ∀ t ∈ place, σ.Holds t) :
    Hands σ σ.Fine (aliasRule name asName place) := by
  have hentry {t : Tree} (ht : σ.Holds t) (s : String) : ∀ e ∈ entryOf s t, σ.A e.2 := by
    cases t with
    | atom a => simpa [entryOf] using ht a (by simp [Tree.atoms])
    | _ => simp [entryOf]
  unfold aliasRule
  split
  · next l c l' c' =>
    refine hands_pure (.record fun e he => ?_)
    have hspot {a : Atom} (ha : Tree.atom a ∈ [.atom l, .atom c, .atom l', .atom c']) : σ.A a :=
      hplace _ ha a (by simp [Tree.atoms])
    simp only [List.mem_append, List.mem_cons, List.not_mem_nil, or_false] at he
    rcases he with (he | he) | rfl | rfl | rfl | rfl
    · exact hentry hname _ e he
    · exact hentry has _ e he
    all_goals exact hspot (by simp)
  · refine hands_pure (.record fun e he => ?_)
    rcases List.mem_append.1 he with he | he
    · exact hentry has _ e he
    · exact hentry hname _ e he

end Stmt

/-! Functions, classes and programs -/

section Scopes

variable {cs : List Piece}

theorem Supply.Stocked.enter {s : State} (hs : σ.Stocked s) :
    σ.Stocked { s with scope := s.scope.enter } := by
  refine ⟨hs.levels, hs.special, fun m hm b hb => ?_, hs.imported⟩
  rcases List.mem_cons.1 hm with rfl | hm
  · cases hb
  · exact hs.maps m hm b hb

theorem Supply.Stocked.leave {s : State} (hs : σ.Stocked s) :
    σ.Stocked { s with scope := s.scope.leave } := by
  refine ⟨hs.levels, fun b hb => hs.special b (special_leave s.scope ▸ hb), fun m hm b hb => ?_,
    hs.imported⟩
  have hmaps := hs.maps
  unfold Scope.leave at hm
  unfold Scope.maps at hmaps hm
  split at hm
  · rcases List.mem_cons.1 hm with rfl | hm
    · cases hb
    · simp_all
  · next h => exact hmaps m (.tail _ (h ▸ hm)) b hb

theorem hands_enterScope : Hands σ (fun _ => True) enterScope :=
  hands_modify fun _ hs => hs.enter

theorem hands_leaveScope : Hands σ (fun _ => True) leaveScope :=
  hands_modify fun _ hs => hs.leave

theorem hands_functionRule {name : Tree} (hname : σ.Holds name) (decorators : Tree)
    (hcs : ∀ c ∈ cs, σ.Fine c) : Hands σ σ.Fine (functionRule name decorators cs) := by
  rw [functionRule_eq]
  refine hands_bind (hands_scopeVars _) fun vars hvars => ?_
  refine hands_bind (P := fun _ => True) ?_ fun n _ => ?_
  · exact hands_bind (hands_given _) fun _ _ => hands_ite (hands_sizeOfField _) (hands_pure trivial)
  have hbody : ∀ c ∈ (if n = 0 then (cs.drop 1, []) else ((butLast n cs).drop 1, lastOf n cs)).1,
      σ.Fine c := by
    split_ifs
    · exact fun c hc => hcs c (List.mem_of_mem_drop hc)
    · exact fun c hc => hcs c (List.mem_of_mem_take (List.mem_of_mem_drop hc))
  have happlied : ∀ c ∈ (if n = 0 then (cs.drop 1, []) else ((butLast n cs).drop 1, lastOf n cs)).2,
      σ.Fine c := by
    split_ifs
    · simp
    · exact fun c hc => hcs c (List.mem_of_mem_drop hc)
  unfold defineFunction
  generalize (if n = 0 then (cs.drop 1, []) else ((butLast n cs).drop 1, lastOf n cs)) = parts
    at hbody happlied
  refine hands_bind (hands_atomField hname) fun key hkey => ?_
  refine hands_bind (hands_sourceName hkey.1) fun p hp => hands_bind (hands_declare hp) fun id hid => ?_
  refine hands_bind (hands_child hcs 0) fun params hparams => ?_
  refine hands_bind (hands_functionOf (fun _ => Seq.all_of_declare_ofPiece hparams) fun q hq => ?_)
    fun f hf => ?_
  · rcases List.mem_append.1 hq with hq | hq
    · exact hvars q hq
    · exact hbody q hq
  refine hands_bind hands_leaveScope fun _ _ => hands_bind (hands_bindAs hid) fun _ _ => ?_
  have hdef : σ.Fine (statement (Form.varDecl id f).piece) :=
    fine_statement (fine_piece rfl (by simpa using ⟨hid, hf⟩))
  split
  · exact hands_pure hdef
  · refine hands_pure (fine_splice (List.forall_mem_cons.2 ⟨hdef, fun q hq => ?_⟩))
    obtain ⟨d, hd, rfl⟩ := List.mem_map.1 (List.mem_reverse.1 hq)
    exact fine_statement (fine_assignTo (by decide) hid
      (fine_callOf (happlied d hd) (by simpa using hid)))

theorem fine_method {p : Piece} (hp : σ.Fine p) {m : Piece × Piece} (hm : method? p = some m) :
    σ.Fine m.1 ∧ σ.Fine m.2 := by
  unfold method? at hm
  split at hm
  · cases hm
    have hdecl := (Piece.all_node_iff.1 hp).2 _ (.head _)
    have hparts := (Piece.all_node_iff.1 hdecl).2
    exact ⟨hparts _ (.head _), hparts _ (.tail _ (.head _))⟩
  · cases hm

theorem mem_of_mem_dropConstructor {ms : List (Piece × Piece)} {m : Piece × Piece}
    (h : m ∈ dropConstructor ms) : m ∈ ms := by
  induction ms with
  | nil => exact h
  | cons n ms ih =>
    unfold dropConstructor at h
    split_ifs at h
    · exact .tail _ h
    · rcases List.mem_cons.1 h with rfl | h
      · exact .head _
      · exact .tail _ (ih h)

theorem hands_classRule {name : Tree} (hname : σ.Holds name) (hcs : ∀ c ∈ cs, σ.Fine c) :
    Hands σ σ.Fine (classRule name cs) := by
  have hmethods : ∀ m ∈ cs.filterMap method?, σ.Fine m.1 ∧ σ.Fine m.2 := fun m hm => by
    obtain ⟨c, hc, hcm⟩ := List.mem_filterMap.1 hm
    exact fine_method (hcs c hc) hcm
  have rest (e : Piece × List (Piece × Piece)) (hmaker : σ.Fine e.1)
      (hothers : ∀ m ∈ e.2, σ.Fine m.1 ∧ σ.Fine m.2) : Hands σ σ.Fine (do
      enterScope
      let c ← fresh "classref"
      let body := statement (assignTo "=" c e.1) ::
        (e.2.map fun m =>
          statement (assignTo "=" (Form.dot (dot c "prototype") m.1).piece m.2)) ++
        [(Form.returns c).piece]
      let vars ← scopeVars false
      let closure ← functionOf (.items []) (.items (vars ++ body))
      let key ← atomField name
      let id ← sourceName key
      leaveScope
      let id ← bindAs key id
      return statement (assignTo "=" id (callOf closure.inParens []))) := by
    refine hands_bind hands_enterScope fun _ _ => hands_bind (hands_fresh (by decide)) fun c hc => ?_
    refine hands_bind (hands_scopeVars _) fun vars hvars => ?_
    refine hands_bind (hands_thunk fun q hq => ?_) fun closure hclosure => ?_
    · rcases List.mem_append.1 hq with hq | hq
      · exact hvars q hq
      rcases List.mem_append.1 hq with hq | hq
      · rcases List.mem_cons.1 hq with rfl | hq
        · exact fine_statement (fine_assignTo (by decide) hc hmaker)
        · obtain ⟨m, hm, rfl⟩ := List.mem_map.1 hq
          have hdot : σ.Fine (Form.dot (dot c "prototype") m.1).piece :=
            fine_piece rfl (by simpa using ⟨fine_dot (by decide) hc, (hothers m hm).1⟩)
          exact fine_statement (fine_assignTo (by decide) hdot (hothers m hm).2)
      · rw [List.mem_singleton.1 hq]
        exact fine_piece rfl (by simpa using hc)
    refine hands_bind (hands_atomField hname) fun key hkey => ?_
    refine hands_bind (hands_sourceName hkey.1) fun id hid => hands_bind hands_leaveScope fun _ _ => ?_
    refine hands_bind (hands_bindAs hid) fun id hid => hands_pure ?_
    exact fine_statement (fine_assignTo (by decide) hid (fine_callOf hclosure.inParens (by simp)))
  have unset : Hands σ (fun _ => True) (changeScope (·.unset "__init__")) := by
    refine hands_changeScope fun s hs => ?_
    unfold Scope.unset
    split_ifs
    · refine ⟨hs.levels, hs.special, fun m hm b hb => ?_, hs.imported⟩
      rcases List.mem_cons.1 hm with rfl | hm
      · exact hs.maps _ (.head _) b (List.mem_filter.1 hb).1
      · exact hs.maps m (.tail _ hm) b hb
    · exact hs
  unfold classRule
  dsimp only
  split
  · next m hm =>
    refine hands_bind unset fun _ _ => hands_bind (hands_pure (Q := fun e => σ.Fine e.1 ∧
      ∀ m ∈ e.2, σ.Fine m.1 ∧ σ.Fine m.2) ⟨?_, fun m hm => ?_⟩) fun e he => rest e he.1 he.2
    · exact (hmethods m (List.mem_of_find?_eq_some hm)).2
    · exact hmethods m (mem_of_mem_dropConstructor hm)
  · refine hands_bind (hands_thunk (by simp [Seq.All])) fun f hf => ?_
    exact hands_bind (hands_pure (Q := fun e => σ.Fine e.1 ∧ ∀ m ∈ e.2, σ.Fine m.1 ∧ σ.Fine m.2)
      ⟨hf, hmethods⟩) fun e he => rest e he.1 he.2

end Scopes

/-! All rules -/

section All

variable {cs : List Piece}

theorem hands_fieldRule {k : Kind} (hk : k ≠ .module) {fs : List Tree} (hfs : ∀ t ∈ fs, σ.Holds t)
    (hcs : ∀ c ∈ cs, σ.Fine c) : Hands σ σ.Fine (fieldRule k fs cs) := by
  unfold fieldRule
  split
  · exact hands_operatorRule _
  · exact hands_unaryRule _ hcs
  · exact hands_binaryRule _ hcs
  · exact hands_boolRule hcs
  · exact hands_compareRule hcs
  · exact hands_numberRule (hfs _ (by simp))
  · exact hands_stringRule (hfs _ (by simp))
  · exact hands_nameRule (hfs _ (by simp))
  · exact hands_callRule _ hcs
  · exact hands_attributeRule (hfs _ (by simp)) hcs
  · exact hands_child hcs 0
  · exact hands_pure (fine_piece rfl hcs)
  · exact hands_pure (fine_piece rfl hcs)
  · exact hands_dictRule hcs
  · exact hands_lambdaRule hcs
  · exact hands_pure (.items hcs)
  · exact hands_bind (hands_atomField (hfs _ (by simp))) fun _ hv => hands_sourceName hv.1
  · exact hands_expressionRule hcs
  · exact hands_returnRule hcs
  · exact hands_raiseRule hcs
  · exact hands_deleteRule hcs
  · exact hands_assignRule hcs
  · exact hands_augmentRule _ hcs
  · exact hands_pure (fine_piece rfl (by simpa using fine_absent))
  · exact hands_pure (fine_piece rfl (by simpa using fine_absent))
  · exact hands_ifRule _ _ hcs
  · exact hands_whileRule _ _ hcs
  · exact hands_forRule hcs
  · exact hands_tryRule _ hcs
  · exact hands_handlerRule (hfs _ (by simp)) hcs
  · exact hands_importRule hcs
  · exact hands_aliasRule (hfs _ (by simp)) (hfs _ (by simp)) fun t ht => hfs t (by simp [ht])
  · exact hands_functionRule (hfs _ (by simp)) _ hcs
  · exact hands_throw _
  · exact hands_classRule (hfs _ (by simp)) hcs
  · exact absurd rfl hk
  · exact hands_pure fine_absent

theorem hands_rule {k : Kind} (hk : k ≠ .module) {ws : List Branch}
    (hw : ∀ w ∈ ws, w.All (Hands σ σ.Fine)) (hfs : ∀ w ∈ ws, σ.Holds w.tree)
    (hcs : ∀ c ∈ cs, σ.Fine c) : Hands σ σ.Fine (rule k ws cs) := by
  unfold rule
  split
  · exact hands_subscriptRule (hw _ (by simp)) hcs
  · exact hands_comprehensionRule (hw _ (by simp))
  · refine hands_fieldRule hk (fun t ht => ?_) hcs
    obtain ⟨w, hw, rfl⟩ := List.mem_map.1 ht
    exact hfs w hw

end All

end Transpile.Walk
