import Transpile.Proofs.Progress.Expressions

/-! The walk over a supported statement gives at least one piece, and pieces that can be rendered.
Rules count statements and not pieces, so a block may lose pieces to what comes after it, but none
of the rules runs out of them. -/

namespace Transpile.Walk

open Script Source

/-- What a statement adds to the list it is put into. -/
structure Stated (p : Piece) : Prop where
  nonempty : spliced p ≠ []
  printable : ∀ q ∈ spliced p, Printable q

theorem stated_node {f : Form} {m : Marks} (hf : ∀ s, f ≠ .group .splice s)
    (hp : Printable (.node f m)) : Stated (.node f m) := by
  have hspliced : spliced (.node f m) = [.node f m] := IsForm.spliced ⟨f, m, rfl, hf⟩
  refine ⟨by simp [hspliced], fun q hq => ?_⟩
  rw [hspliced, List.mem_singleton] at hq
  exact hq ▸ hp

theorem stated_statement {p : Piece} (hp : Printable p) : Stated (statement p) :=
  stated_node (by simp) (printable_statement hp)

theorem stated_splice {f : Form} {m : Marks} {ps : List Piece}
    (h : ∀ p ∈ .node f m :: ps, Printable p) : Stated (splice (.node f m :: ps)) := by
  have hspliced : spliced (splice (.node f m :: ps)) =
      .node f m :: ps.filter fun p => !p.isAbsent := rfl
  refine ⟨by simp [hspliced], fun q hq => h q ?_⟩
  rw [hspliced] at hq
  rcases List.mem_cons.1 hq with rfl | hq
  · exact List.mem_cons_self
  · exact List.mem_cons_of_mem _ (List.mem_filter.1 hq).1

/-- The results of the statements of a block: no fewer than these, and all can be rendered. -/
structure IsBlock (ts : List Tree) (cs : List Piece) : Prop where
  length : ts.length ≤ cs.length
  printable : ∀ c ∈ cs, Printable c

theorem IsBlock.append {ts us : List Tree} {cs ds : List Piece} (hc : IsBlock ts cs)
    (hd : IsBlock us ds) : ∀ c ∈ cs ++ ds, Printable c :=
  fun c hm => (List.mem_append.1 hm).elim (hc.printable c) (hd.printable c)

theorem isBlock_flatMap {ts : List Tree} {ps : List Piece}
    (h : List.Forall₂ (fun _ => Stated) ts ps) : IsBlock ts (ps.flatMap spliced) := by
  induction h with
  | nil => exact ⟨Nat.le_refl _, by simp⟩
  | cons hp _ ih =>
    obtain ⟨hlen, hall⟩ := ih
    have hpos := List.length_pos_iff.2 hp.nonempty
    rw [List.flatMap_cons]
    refine ⟨?_, fun c hc => (List.mem_append.1 hc).elim (hp.printable c) (hall c)⟩
    rw [List.length_append, List.length_cons]
    omega

section

variable {o : Options} {I : State → Prop} {ops : Stack Kind}

theorem yields_block {ts : List Tree}
    (h : ∀ t ∈ ts, t.isNode = true ∧ Gives o Orderly ops (visit t) Stated) :
    Yields o Orderly ops (.list ts) (IsBlock ts) := by
  have hlist : Yields o Orderly ops (.list (ts.map id)) fun cs =>
      ∃ ps, List.Forall₂ (fun _ => Stated) ts ps ∧ cs = ps.flatMap spliced := yields_list h
  rw [List.map_id] at hlist
  refine Gives.mono hlist ?_
  rintro _ ⟨ps, hps, rfl⟩
  exact isBlock_flatMap hps

/-- One field with an expression. -/
theorem yields_expr (hI : Roomy o I) {t : Tree} (h : IsExpr t) :
    Yields o I ops t fun cs => ∃ p, Expressed p ∧ cs = [p] :=
  yields_one h.isNode (fun _ hp => hp.form.spliced) (gives_expr hI h ops)

theorem yields_optionalExpr (hI : Roomy o I) {v : Option Tree} (h : ∀ t ∈ v, IsExpr t) :
    Yields o I ops (optional v) fun cs => cs.length ≤ 1 ∧ ∀ c ∈ cs, Expressed c :=
  yields_optional (fun _ hp => hp.form) fun t ht => ⟨(h t ht).isNode, gives_expr hI (h t ht) ops⟩

theorem gives_named (hI : Stable I) {t : Tree} (h : IsNamed t) :
    t.isNode = true ∧ Gives o I ops (visit t) IsIdent := by
  obtain ⟨hn, hc⟩ := h
  refine ⟨rfl, Gives.mono (gives_name hI hn hc) ?_⟩
  rintro _ rfl
  exact isIdent_word _

theorem yields_named (hI : Stable I) {ts : List Tree} (h : ∀ t ∈ ts, IsNamed t) :
    Yields o I ops (.list ts) fun cs => cs.length = ts.length ∧ ∀ c ∈ cs, IsIdent c :=
  yields_trees (fun _ hp => hp.isForm) fun t ht => gives_named hI (h t ht)

/-! Simple statements -/

theorem gives_returnRule {cs : List Piece} (h : ∀ c ∈ cs, Printable c) :
    Gives o I ops (returnRule cs) Stated := by
  refine gives_pure (stated_node (by simp) (printable_returns ?_))
  cases cs with
  | nil => exact printable_absent
  | cons c cs => exact h c (by simp)

theorem gives_raiseRule {p : Piece} (hp : Printable p) (cs : List Piece) :
    Gives o I ops (raiseRule (p :: cs)) Stated :=
  gives_bind_eq (gives_child rfl) (gives_pure (stated_node (by simp) (printable_throws hp)))

theorem gives_deleteRule {cs : List Piece} (hn : cs ≠ [])
    (h : ∀ c ∈ cs, Gives o I ops (Walk.bind c) IsIdent) :
    Gives o I ops (deleteRule cs) Stated := by
  have hone : ∀ c ∈ cs, Gives o I ops (do
      let c ← Walk.bind c
      return statement (Form.unary (text "delete") c (.atom (.flag false))).piece)
      fun d => ∃ p, Printable p ∧ d = statement p := fun c hc =>
    gives_bind (h c hc) fun q hq => gives_pure ⟨_, printable_unary hq.printable, rfl⟩
  refine gives_bind (gives_mapM hone) fun ds ⟨hds, hall⟩ => gives_pure ?_
  cases ds with
  | nil => exact absurd (List.length_eq_zero_iff.1 hds.symm) hn
  | cons d ds =>
    obtain ⟨p, hp, rfl⟩ := hall d (by simp)
    refine stated_splice fun q hq => ?_
    obtain ⟨p, hp, rfl⟩ := hall q hq
    exact printable_statement hp

/-! Assignments -/

theorem IsPlace.expr {t : Tree} (h : IsPlace t) : IsExpr t := h.1

theorem IsTarget.expr {t : Tree} (h : IsTarget t) : IsExpr t := by
  cases h with
  | place h => exact h.expr
  | sequence hk ht hc => exact .sequence hk (fun u hu => (ht u hu).expr) hc

/-- A target that can be assigned to: it is bound if it is a name. -/
structure Assignable (o : Options) (I : State → Prop) (ops : Stack Kind) (p : Piece) : Prop where
  expressed : Expressed p
  binds : isIdentifier p = true → Gives o I ops (Walk.bind p) IsIdent

theorem Expressed.assignable {p : Piece} (h : Expressed p) : Assignable o Orderly ops p :=
  ⟨h, fun hi => gives_bindName (h.ident hi)⟩

theorem gives_bindTarget {p : Piece} (hp : Assignable o I ops p) {α : Type} {f : Piece → Walker α}
    {Q : α → Prop} (hf : ∀ q, Expressed q → Gives o I ops (f q) Q) :
    Gives o I ops (if isIdentifier p then Walk.bind p >>= f else pure p >>= f) Q :=
  gives_ite (fun hi => gives_bind (hp.binds hi) fun q hq => hf q hq.expressed)
    fun _ => hf p hp.expressed

theorem printable_unpack {source : Piece} (hs : Printable source) {items : List Piece}
    (h : ∀ p ∈ items, Printable p) : ∀ q ∈ unpack source items, Printable q := by
  intro q hq
  obtain ⟨⟨p, i⟩, hm, rfl⟩ := List.mem_map.1 hq
  refine printable_statement (printable_assignTo _ (h p (List.fst_mem_of_mem_zipIdx hm)) ?_)
  exact printable_bracket hs (printable_leaf (by simp) _)

theorem gives_assignTargets (hfresh : Gives o I ops (fresh "_ref") IsIdent) {value : Piece}
    (hv : Expressed value) {ts : List Piece} (ht : ∀ t ∈ ts, Assignable o I ops t) {chain : Piece}
    (hc : Printable chain) {extras : List Piece} (he : ∀ e ∈ extras, Printable e) :
    Gives o I ops (assignTargets value ts chain extras) fun r =>
      Printable r.1 ∧ ∀ e ∈ r.2, Printable e := by
  induction ts generalizing chain extras with
  | nil => exact gives_pure ⟨hc, he⟩
  | cons t ts ih =>
    have hsource : Printable (if chain.isAbsent then value else chain) := by
      split_ifs
      · exact hv.printable
      · exact hc
    unfold assignTargets
    generalize (if chain.isAbsent then value else chain) = source at hsource ⊢
    have hnext {t' : Piece} {es : List Piece} (ht' : Printable t') (hes : ∀ e ∈ es, Printable e) :=
      ih (fun u hu => ht u (by simp [hu])) (printable_assignTo "=" ht' hsource) hes
    refine gives_bindTarget (ht t (by simp)) fun q hq => ?_
    dsimp only
    split
    · next items _ hitems _ =>
      refine gives_bind hfresh fun r hr => hnext hr.printable fun e hm => ?_
      rcases List.mem_append.1 hm with hm | hm
      · exact he e hm
      · exact printable_unpack hr.printable (hq.array items hitems) e hm
    · exact hnext hq.printable he

theorem gives_assignRule (hfresh : Gives o I ops (fresh "_ref") IsIdent) {cs : List Piece} {p : Piece}
    (hcs : ∀ c ∈ cs, Assignable o I ops c) (hp : Expressed p) :
    Gives o I ops (assignRule (cs ++ [p])) Stated := by
  unfold assignRule
  rw [List.getLast?_concat, List.dropLast_concat]
  refine gives_bind (gives_assignTargets hfresh hp (fun t hm => hcs t (by simpa using hm))
    printable_absent (by simp)) fun r hr => ?_
  obtain ⟨chain, extras⟩ := r
  obtain ⟨hchain, hextras⟩ := hr
  refine gives_ite (fun _ => gives_pure (stated_statement hchain)) fun _ => gives_pure ?_
  refine stated_splice fun q hq => ?_
  rcases List.mem_cons.1 hq with rfl | hq
  · exact printable_statement hchain
  · exact hextras q hq

theorem gives_augmentRule {op : Op} (hop : op ∈ augmentOps) {p q : Piece}
    (hassign : Assignable o I ops p) (hq : Expressed q) :
    Gives o I ops (augmentRule (.node (.op op) []) (p :: ((operatorText op).map text).toList ++ [q]))
      Stated := by
  have hp := hassign.expressed
  have hpow := (expressed_powerOf hp.printable hq.printable).printable
  have hfloor := (expressed_floorOf hp.printable hq.printable).printable
  have hstated (op : String) {l r : Piece} (hl : Printable l) (hr : Printable r) :
      Gives o I ops (pure (statement (assignTo op l r))) Stated :=
    gives_pure (stated_statement (printable_assignTo op hl hr))
  refine gives_bind_eq (gives_child rfl) (gives_bind_eq (gives_operatorOf op []) ?_)
  obtain hop | rfl | rfl : op ∈ [.add, .sub, .mult, .div, .mod] ∨ op = .pow ∨ op = .floorDiv := by
    simpa [augmentOps, or_assoc] using hop
  · simp only [List.mem_cons, List.not_mem_nil, or_false] at hop
    rcases hop with rfl | rfl | rfl | rfl | rfl
    all_goals
      exact gives_bind_eq (gives_child rfl) (gives_bind_eq (gives_child rfl)
        (gives_bindTarget hassign fun p' hp' => hstated _ hp'.printable hq.printable))
  · exact gives_bind_eq (gives_bind_eq (gives_child rfl) (gives_pure rfl))
      (hstated "=" hp.printable hpow)
  · exact gives_bind_eq (gives_bind_eq (gives_child rfl) (gives_pure rfl))
      (hstated "=" hp.printable hfloor)

/-! Statements without statements in them -/

def isPlainKind : Kind → Bool
  | .exprStmt | .assign | .augAssign | .returnStmt | .raiseStmt | .deleteStmt | .breakStmt
  | .continueStmt => true
  | _ => false

/-- The field of a plain statement that holds what it binds. -/
def boundField : Kind → List Tree → Tree
  | .assign, t :: _ | .augAssign, t :: _ | .deleteStmt, t :: _ => t
  | _, _ => .missing

theorem yields_boundField (hI : Roomy o I) {k : Kind} {fs : List Tree} (h : IsStmt (.node k fs))
    (hk : isPlainKind k = true) :
    Yields o I ops (boundField k fs) fun cs => ∀ c ∈ cs, Expressed c := by
  cases h with
  | assign ht hv =>
    refine Gives.mono (yields_trees (fun _ hp => hp.form) fun t hm => ?_) fun _ hcs => hcs.2
    exact ⟨(ht t hm).expr.isNode, gives_expr hI (ht t hm).expr ops⟩
  | augAssign ht hop hv =>
    refine Gives.mono (yields_expr hI ht.expr) ?_
    rintro _ ⟨p, hp, rfl⟩
    exact List.forall_mem_singleton.2 hp
  | delete hn ht =>
    exact Gives.mono (yields_named hI.toStable ht) fun _ hcs c hc => (hcs.2 c hc).expressed
  | expr | returns | leavesLoop | nextRound | raise =>
    exact Gives.mono yields_missing fun _ hcs => by simp [hcs]
  | _ => cases hk

/-- A plain statement is walked to pieces that can be rendered if its targets can be assigned to. -/
theorem gives_plain (hI : Roomy o I) {k : Kind} {fs : List Tree} (h : IsStmt (.node k fs))
    (hk : isPlainKind k = true)
    (hbound : Yields o I ops (boundField k fs) fun cs => ∀ c ∈ cs, Assignable o I ops c) :
    Gives o I ops (visit (.node k fs)) Stated := by
  cases h with
  | expr hx =>
    refine Gives.mono (gives_exprStmt hI.toStable hx.isNode (fun _ hp => hp.form)
      (gives_expr hI hx ops)) ?_
    rintro _ ⟨p, hp, rfl⟩
    exact stated_statement hp.printable
  | assign ht hv =>
    refine gives_node hI.toStable rfl rfl (gives_fields hbound
      (gives_fields (yields_expr hI hv) gives_no_fields)) ?_
    rintro _ ⟨cs, _, rfl, hcs, _, _, rfl, ⟨p, hp, rfl⟩, rfl⟩
    exact gives_assignRule (hI.gives_fresh _ _) hcs hp
  | @augAssign t v op ht hop hv =>
    refine gives_node hI.toStable rfl rfl (gives_fields (Gives.and (yields_expr hI ht.expr) hbound)
      (gives_fields (yields_operator hI.toStable op)
      (gives_fields (yields_expr hI hv) gives_no_fields))) ?_
    rintro _ ⟨_, _, rfl, ⟨⟨p, -, rfl⟩, hp⟩, _, _, rfl, rfl, _, _, rfl, ⟨q, hq, rfl⟩, rfl⟩
    exact gives_augmentRule hop (hp p (by simp)) hq
  | returns hv =>
    refine gives_node hI.toStable rfl rfl (gives_fields (yields_optionalExpr hI hv) gives_no_fields) ?_
    rintro _ ⟨cs, _, rfl, ⟨-, hcs⟩, rfl⟩
    rw [List.append_nil]
    exact gives_returnRule fun c hc => (hcs c hc).printable
  | leavesLoop =>
    exact gives_node hI.toStable rfl rfl gives_no_fields fun _ _ =>
      gives_pure (stated_node (by simp) printable_breakTo)
  | nextRound =>
    exact gives_node hI.toStable rfl rfl gives_no_fields fun _ _ =>
      gives_pure (stated_node (by simp) printable_continueTo)
  | raise hx hc =>
    refine gives_node hI.toStable rfl rfl (gives_fields (yields_expr hI hx) (gives_fields
      (yields_optionalExpr hI hc) gives_no_fields)) ?_
    rintro _ ⟨_, _, rfl, ⟨p, hp, rfl⟩, -⟩
    exact gives_raiseRule hp.printable _
  | delete hn ht =>
    refine gives_node hI.toStable rfl rfl (gives_fields
      (Gives.and (yields_named hI.toStable ht) hbound) gives_no_fields) ?_
    rintro _ ⟨cs, _, rfl, ⟨⟨hlen, hidents⟩, hcs⟩, rfl⟩
    rw [List.append_nil]
    refine gives_deleteRule ?_ fun c hc => (hcs c hc).binds ?_
    · rintro rfl
      exact hn (List.length_eq_zero_iff.1 hlen.symm)
    · obtain ⟨n, m, rfl⟩ := hidents c hc
      rfl
  | _ => cases hk

/-! Control flow -/

/-- The pieces of an else part of one statement are not all taken by the body. -/
theorem gives_ifRule {p : Piece} (hp : Printable p) {body orelse : List Tree} {cs : List Piece}
    (hall : ∀ c ∈ cs, Printable c) (helse : orelse.length = 1 → body.length < cs.length) :
    Gives o I ops (ifRule (.list body) (.list orelse) ([p] ++ cs)) Stated := by
  have hfinish {yes no : Piece} (hyes : Printable yes) (hno : Printable no) :
      Gives o I ops (pure (Form.ifThen p yes no).piece) Stated :=
    gives_pure (stated_node (by simp) (printable_ifThen hp hyes hno))
  refine gives_bind_eq (gives_child rfl) (gives_bind_eq (gives_sizeOfField body)
    (gives_bind_eq (gives_sizeOfField orelse) ?_))
  have hyes : Printable (block ((([p] ++ cs).drop 1).take body.length)) :=
    printable_blockOf fun c hc => hall c (List.mem_of_mem_take hc)
  have hrest : ∀ c ∈ ([p] ++ cs).drop (body.length + 1), Printable c :=
    fun c hc => hall c (List.mem_of_mem_drop hc)
  refine gives_ite (fun _ => hfinish hyes printable_absent) fun _ => gives_ite (fun hone => ?_)
    fun _ => hfinish hyes (printable_blockOf hrest)
  have hlen : 0 < (([p] ++ cs).drop (body.length + 1)).length := by
    have hbody := helse hone
    simp only [List.length_drop, List.length_append, List.length_singleton]
    omega
  refine gives_bind_eq (gives_child (List.getElem?_eq_getElem hlen)) (hfinish hyes ?_)
  split_ifs
  · exact hrest _ (List.getElem_mem hlen)
  · exact printable_blockOf hrest

theorem gives_if {test : Tree} {body orelse : List Tree} (ht : IsExpr test)
    (hb : ∀ s ∈ body, s.isNode = true ∧ Gives o Orderly ops (visit s) Stated)
    (he : ∀ s ∈ orelse, s.isNode = true ∧ Gives o Orderly ops (visit s) Stated) :
    Gives o Orderly ops (visit (.node .ifStmt [test, .list body, .list orelse])) Stated := by
  refine gives_node orderly_stable rfl rfl (gives_fields (yields_expr orderly_roomy ht) (gives_fields
    (yields_block hb) (gives_fields (yields_block he) gives_no_fields))) ?_
  rintro _ ⟨_, _, rfl, ⟨p, hp, rfl⟩, bs, _, rfl, hbs, es, _, rfl, hes, rfl⟩
  rw [List.append_nil]
  refine gives_ifRule hp.printable (hbs.append hes) fun hone => ?_
  have hbody := hbs.length
  have helse := hes.length
  rw [List.length_append]
  omega

theorem gives_whileRule (hfresh : Gives o I ops (fresh "ref") IsIdent) {p : Piece} (hp : Printable p)
    (body orelse : List Tree) {cs : List Piece} (hall : ∀ c ∈ cs, Printable c) :
    Gives o I ops (whileRule (.list body) (.list orelse) ([p] ++ cs)) Stated := by
  have hinner : ∀ c ∈ (([p] ++ cs).drop 1).take body.length, Printable c :=
    fun c hc => hall c (List.mem_of_mem_take hc)
  have hrest : ∀ c ∈ ([p] ++ cs).drop (body.length + 1), Printable c :=
    fun c hc => hall c (List.mem_of_mem_drop hc)
  refine gives_bind_eq (gives_child rfl) (gives_bind_eq (gives_sizeOfField body)
    (gives_bind_eq (gives_given nofun) (gives_ite (fun _ => ?_) fun _ => ?_)))
  · refine gives_bind hfresh fun flag hflag => gives_pure ?_
    have hset (b : String) : Printable (statement (assignTo "=" flag (leaf .boolean b))) :=
      printable_statement (printable_assignTo _ hflag.printable (printable_leaf (by simp) b))
    have hloop := printable_blockOf (List.forall_mem_cons.2 ⟨hset "false", hinner⟩)
    refine stated_splice ?_
    simp only [List.forall_mem_cons, List.not_mem_nil, false_implies, implies_true, and_true]
    exact ⟨hset "true", printable_whileDo hp hloop,
      printable_ifThen hflag.printable (printable_blockOf hrest) printable_absent⟩
  · exact gives_pure (stated_node (by simp)
      (printable_whileDo hp (printable_blockOf hinner)))

theorem gives_while {test : Tree} {body orelse : List Tree} (ht : IsExpr test)
    (hb : ∀ s ∈ body, s.isNode = true ∧ Gives o Orderly ops (visit s) Stated)
    (he : ∀ s ∈ orelse, s.isNode = true ∧ Gives o Orderly ops (visit s) Stated) :
    Gives o Orderly ops (visit (.node .whileStmt [test, .list body, .list orelse])) Stated := by
  refine gives_node orderly_stable rfl rfl (gives_fields (yields_expr orderly_roomy ht) (gives_fields
    (yields_block hb) (gives_fields (yields_block he) gives_no_fields))) ?_
  rintro _ ⟨_, _, rfl, ⟨p, hp, rfl⟩, bs, _, rfl, hbs, es, _, rfl, hes, rfl⟩
  rw [List.append_nil]
  exact gives_whileRule (gives_fresh _) hp.printable body orelse (hbs.append hes)

theorem gives_forRule (hI : Stable I) (hfresh : Gives o I ops (fresh "ref") IsIdent) {p q : Piece}
    (hbind : Gives o I ops (Walk.bind p) IsIdent) (hq : Printable q) {cs : List Piece}
    (hn : cs ≠ []) (hcs : ∀ c ∈ cs, Printable c) :
    Gives o I ops (forRule ([p] ++ ([q] ++ cs))) Stated := by
  obtain ⟨c, cs, rfl⟩ := List.exists_cons_of_ne_nil hn
  refine gives_bind hfresh fun i hident => gives_bind hfresh fun values hvalues => ?_
  refine gives_bind_eq (gives_child rfl) (gives_bind_eq (gives_child rfl)
    (gives_bind_eq (gives_child rfl) ?_))
  refine gives_bind (gives_declaration hI hvalues q) fun _ _ => gives_bind hbind ?_
  intro p hp
  have hzero : Printable (leaf .number "0") := printable_leaf (by simp) "0"
  have hlength : Printable (dot values "length") := (expressed_dot hvalues.printable _).printable
  have htake : Printable (statement (assignTo "=" p (Form.bracket values i).piece)) :=
    printable_statement (printable_assignTo _ hp.printable
      (printable_bracket hvalues.printable hident.printable))
  refine gives_pure (stated_node (by simp) (printable_forLoop ?_ (printable_binary hident.printable
    hlength) (printable_unary hident.printable) (printable_blockOf ?_)))
  · exact printable_comma (printable_assignTo _ hident.printable hzero)
      (printable_assignTo _ hvalues.printable hq)
  · simpa using ⟨htake, hcs c (by simp)⟩

theorem gives_for {item source : Tree} {body orelse : List Tree} (hi : IsNamed item)
    (hs : IsExpr source) (hn : body ≠ [])
    (hb : ∀ s ∈ body, s.isNode = true ∧ Gives o Orderly ops (visit s) Stated)
    (he : ∀ s ∈ orelse, s.isNode = true ∧ Gives o Orderly ops (visit s) Stated) :
    Gives o Orderly ops (visit (.node .forStmt [item, source, .list body, .list orelse])) Stated := by
  have hitem : item.isNode = true ∧ Gives o Orderly ops (visit item) IsIdent :=
    gives_named orderly_stable hi
  refine gives_node orderly_stable rfl rfl (gives_fields (yields_one hitem.1
    (fun _ hp => hp.isForm.spliced) hitem.2) (gives_fields (yields_expr orderly_roomy hs) (gives_fields
    (yields_block hb) (gives_fields (yields_block he) gives_no_fields)))) ?_
  rintro _ ⟨_, _, rfl, ⟨p, hp, rfl⟩, _, _, rfl, ⟨q, hq, rfl⟩, bs, _, rfl, hbs, es, _, rfl, hes, rfl⟩
  rw [List.append_nil]
  refine gives_forRule orderly_stable (gives_fresh _) (gives_bindName hp) hq.printable ?_
    (hbs.append hes)
  have hbody := List.length_pos_iff.2 hn
  have hlen := hbs.length
  exact List.append_ne_nil_of_left_ne_nil (List.length_pos_iff.1 (by omega)) es

theorem gives_handlerRule (name : String) {cs : List Piece} (h : ∀ c ∈ cs, Printable c) :
    Gives o I ops (handlerRule (.text name) cs) Stated := by
  refine gives_bind_eq (gives_atomField _) (gives_bind_eq (gives_sourceName name) ?_)
  obtain ⟨id, hdeclare, hid⟩ := (isIdent_word (nameIn o name)).declare
  have hform (body : Seq) : Form.handler (word (nameIn o name)) body = .ok (.catchDo id body) := by
    unfold Form.handler
    rw [hdeclare]
    rfl
  rw [hform]
  refine gives_bind_eq gives_need (gives_pure (stated_node (by simp)
    (printable_catchDo hid.printable fun c hc => ?_)))
  exact h c (List.mem_filter.1 hc).1

theorem gives_handler {h : Handler} (ht : ∀ t ∈ h.type, IsExpr t)
    (hb : ∀ s ∈ h.body, s.isNode = true ∧ Gives o Orderly ops (visit s) Stated) :
    Gives o Orderly ops (visit h.tree) Stated := by
  refine gives_node orderly_stable rfl rfl (gives_fields (yields_optionalExpr orderly_roomy ht)
    (gives_fields (yields_atom _) (gives_fields (yields_block hb) gives_no_fields))) ?_
  rintro cs ⟨ts, _, rfl, ⟨-, hts⟩, _, _, rfl, rfl, bs, _, rfl, ⟨-, hbs⟩, rfl⟩
  refine gives_handlerRule h.name fun c hc => ?_
  simp only [List.mem_append, List.not_mem_nil, or_false, false_or] at hc
  exact hc.elim (fun hm => (hts c hm).printable) (hbs c)

theorem gives_tryRule (final : List Tree) {cs : List Piece} (h : ∀ c ∈ cs, Printable c) :
    Gives o I ops (tryRule (.list final) cs) Stated := by
  refine gives_bind_eq (gives_sizeOfField final) ?_
  have hsplit : (∀ c ∈ (if final.length = 0 then ([], cs)
        else (lastOf final.length cs, butLast final.length cs)).1, Printable c) ∧
      ∀ c ∈ (if final.length = 0 then ([], cs)
        else (lastOf final.length cs, butLast final.length cs)).2, Printable c := by
    split_ifs
    · exact ⟨by simp, h⟩
    · exact ⟨fun c hc => h c (List.mem_of_mem_drop hc), fun c hc => h c (List.mem_of_mem_take hc)⟩
  generalize (if final.length = 0 then ([], cs)
    else (lastOf final.length cs, butLast final.length cs)) = parts at hsplit ⊢
  obtain ⟨last, rest⟩ := parts
  obtain ⟨hlast, hrest⟩ := hsplit
  refine gives_pure (stated_node (by simp) (printable_tryDo (printable_blockOf fun c hc => ?_) ?_ ?_))
  · exact hrest c (List.mem_filter.1 hc).1
  · cases hcatch : rest.find? isCatch with
    | none => exact printable_absent
    | some c => exact hrest c (List.mem_of_find?_eq_some hcatch)
  · split_ifs
    · exact printable_absent
    · exact printable_finallyDo hlast

theorem gives_try {body orelse final : List Tree} {hs : List Handler}
    (hb : ∀ s ∈ body, s.isNode = true ∧ Gives o Orderly ops (visit s) Stated)
    (hh : ∀ h ∈ hs, Gives o Orderly ops (visit h.tree) Stated)
    (he : ∀ s ∈ orelse, s.isNode = true ∧ Gives o Orderly ops (visit s) Stated)
    (hf : ∀ s ∈ final, s.isNode = true ∧ Gives o Orderly ops (visit s) Stated) :
    Gives o Orderly ops (visit (.node .tryStmt [.list body, .list (hs.map Handler.tree),
      .list orelse, .list final])) Stated := by
  have hhandlers : ∀ t ∈ hs.map Handler.tree,
      t.isNode = true ∧ Gives o Orderly ops (visit t) Stated :=
    List.forall_mem_map.2 fun h hm => ⟨rfl, hh h hm⟩
  refine gives_node orderly_stable rfl rfl (gives_fields (yields_block hb) (gives_fields
    (yields_block hhandlers) (gives_fields (yields_block he) (gives_fields (yields_block hf)
    gives_no_fields)))) ?_
  rintro _ ⟨bs, _, rfl, ⟨-, hbs⟩, cs, _, rfl, ⟨-, hcs⟩, es, _, rfl, ⟨-, hes⟩, fs, _, rfl, ⟨-, hfs⟩, rfl⟩
  refine gives_tryRule final fun c hc => ?_
  simp only [List.mem_append, List.not_mem_nil, or_false] at hc
  rcases hc with hc | hc | hc | hc
  · exact hbs c hc
  · exact hcs c hc
  · exact hes c hc
  · exact hfs c hc

/-- A definition as it can be printed: by itself, and the function in it by itself. -/
structure Defined (p : Piece) : Prop where
  stated : Stated p
  methods : ∀ q ∈ spliced p, ∀ m, method? q = some m → Printable m.1 ∧ Printable m.2

/-- The scope that the definition opened is left before its name is bound. -/
theorem gives_functionRule {n : String} {qs : List Piece} (hqs : ∀ q ∈ qs, IsIdent q)
    {bs : List Piece} (hbs : ∀ c ∈ bs, Printable c) :
    Gives o Orderly ops (functionRule (.text n) (.list []) (.items qs :: bs)) Defined := by
  refine gives_bind (gives_scopeVars false) fun vars hvars => gives_bind_eq (gives_given nofun) ?_
  refine gives_ite (fun h => by cases h) fun _ => gives_bind_eq (gives_pure rfl) ?_
  refine gives_bind_eq (gives_atomField _) (gives_bind_eq (gives_sourceName n) ?_)
  refine gives_bind (gives_declare orderly_stable (isIdent_word _)) fun id hid => ?_
  refine gives_bind_eq (gives_child rfl) (gives_bind (gives_functionOf hqs _) ?_)
  rintro _ ⟨rs, hrs, rfl⟩
  refine gives_bind gives_leaveScope fun _ _ => gives_bind (gives_bindAs _ hid) fun _ _ => ?_
  have hbody : ∀ c ∈ vars ++ bs, Printable c :=
    fun c hc => (List.mem_append.1 hc).elim (hvars c) (hbs c)
  have hf := (expressed_function hrs (items_printable hbody) {}).printable
  refine gives_pure ⟨stated_statement (printable_varDecl hid.printable hf), fun q hq m hm => ?_⟩
  obtain rfl := List.mem_singleton.1 hq
  cases hm
  exact ⟨hid.printable, hf⟩

theorem gives_function {n : String} {ps returns : Tree} {body : List Tree} (hp : IsParams ps)
    (hb : ∀ s ∈ body, s.isNode = true ∧ Gives o Orderly ops (visit s) Stated)
    (hr : Inert returns) :
    Gives o Orderly ops (visit (.node .functionDef [.text n, ps, .list body, .list [], returns]))
      Stated := by
  refine gives_scope orderly_invariant rfl (gives_fields (yields_atom _) (gives_fields
    (yields_params orderly_stable hp) (gives_fields (yields_block hb) (gives_fields (yields_inert .empty)
    (gives_fields (yields_inert hr) gives_no_fields))))) ?_
  rintro _ ⟨_, _, rfl, rfl, _, _, rfl, ⟨qs, hqs, rfl⟩, bs, _, rfl, ⟨-, hbs⟩, _, _, rfl, rfl, _, _, rfl,
    rfl, rfl⟩
  exact Gives.mono (gives_functionRule hqs (by simpa using hbs)) fun _ h => h.stated

theorem IsStmt.isNode {t : Tree} (h : IsStmt t) : t.isNode = true := by
  cases h <;> rfl

/-- Every supported statement is walked to pieces that can be rendered. -/
theorem gives_stmt {t : Tree} (h : IsStmt t) : Gives o Orderly ops (visit t) Stated := by
  have hplain {k : Kind} {fs : List Tree} (h : IsStmt (.node k fs)) (hk : isPlainKind k = true) :
      Gives o Orderly ops (visit (.node k fs)) Stated :=
    gives_plain orderly_roomy h hk (Gives.mono (yields_boundField orderly_roomy h hk)
      fun _ hcs c hc => (hcs c hc).assignable)
  induction h with
  | expr hx => exact hplain (.expr hx) rfl
  | assign ht hv => exact hplain (.assign ht hv) rfl
  | augAssign ht hop hv => exact hplain (.augAssign ht hop hv) rfl
  | returns hv => exact hplain (.returns hv) rfl
  | leavesLoop => exact hplain .leavesLoop rfl
  | nextRound => exact hplain .nextRound rfl
  | raise hx hc => exact hplain (.raise hx hc) rfl
  | delete hn ht => exact hplain (.delete hn ht) rfl
  | ifs ht hb he ihb ihe =>
    exact gives_if ht (fun s hs => ⟨(hb s hs).isNode, ihb s hs⟩)
      fun s hs => ⟨(he s hs).isNode, ihe s hs⟩
  | whiles ht hb he ihb ihe =>
    exact gives_while ht (fun s hs => ⟨(hb s hs).isNode, ihb s hs⟩)
      fun s hs => ⟨(he s hs).isNode, ihe s hs⟩
  | fors hi hs hn hb he ihb ihe =>
    exact gives_for hi hs hn (fun s hm => ⟨(hb s hm).isNode, ihb s hm⟩)
      fun s hm => ⟨(he s hm).isNode, ihe s hm⟩
  | tries hb ht hh he hf ihb ihh ihe ihf =>
    exact gives_try (fun s hs => ⟨(hb s hs).isNode, ihb s hs⟩)
      (fun h hm => gives_handler (ht h hm) fun s hs => ⟨(hh h hm s hs).isNode, ihh h hm s hs⟩)
      (fun s hs => ⟨(he s hs).isNode, ihe s hs⟩) fun s hs => ⟨(hf s hs).isNode, ihf s hs⟩
  | function hp hb hr ihb =>
    exact gives_function hp (fun s hs => ⟨(hb s hs).isNode, ihb s hs⟩) hr

/-! Programs -/

/-- A program of supported statements. -/
inductive IsProgram : Tree → Prop where
  | module {body : List Tree} (h : ∀ s ∈ body, IsStmt s) : IsProgram (.node .module [.list body])

theorem gives_program {t : Tree} (h : IsProgram t) : Gives o Orderly ops (visit t) Printable := by
  obtain ⟨h⟩ := h
  refine gives_scope orderly_invariant rfl (gives_fields (yields_block fun s hs =>
    ⟨(h s hs).isNode, gives_stmt (h s hs)⟩) gives_no_fields) ?_
  rintro _ ⟨cs, _, rfl, ⟨-, hcs⟩, rfl⟩
  rw [List.append_nil]
  have hplain {name : Option String} (hname : name = none) (value : Piece) :
      Gives o Orderly ops (specialForm name value cs) (· = cs) := by
    rw [hname]
    exact gives_pure rfl
  refine gives_bind gives_get fun s hs => gives_bind_eq (hplain hs.globalName _) ?_
  refine gives_bind gives_get fun s hs => gives_bind_eq (hplain hs.newName _) ?_
  refine gives_bind (gives_scopeVars true) fun vars hvars => gives_bind gives_leaveScope fun _ _ => ?_
  have hbody : (Seq.items (vars ++ cs)).Printable :=
    items_printable fun c hc => (List.mem_append.1 hc).elim (hvars c) (hcs c)
  refine gives_bind gives_read fun _ _ => gives_ite (fun _ => ?_) fun _ => ?_
  · refine gives_bind (gives_functionOf (by simp) _) ?_
    rintro _ ⟨qs, hqs, rfl⟩
    have hf := (expressed_function hqs hbody { parens := true }).printable
    have hcall := expressed_callOf (expressed_dot hf "call").printable
      (List.forall_mem_singleton.2 (printable_this (m := {})))
    exact gives_pure (printable_program (items_printable
      (List.forall_mem_singleton.2 (printable_statement hcall.printable))))
  · exact gives_pure (printable_program hbody)

end

/-- Every supported program is translated, and the result is rendered as text at every level. -/
theorem supported_program_renders {t : Tree} (h : IsProgram t) (o : Options) :
    ∃ p s', run (visit t) o {} = (.ok p, s') ∧
      ∀ width level, ∃ text, p.renderAt width level = (.ok (.text text), level) := by
  have hstart : Holding Orderly {} {} := ⟨⟨by decide, fun _ _ => rfl⟩, orderly_start, rfl⟩
  obtain ⟨p, s', hr, -, hp⟩ := gives_program h {} hstart
  refine ⟨p, s', hr, fun width level => ?_⟩
  obtain ⟨q, hq, text, rfl⟩ := hp _ level
  exact ⟨text, hq⟩

/-- A function over `xs`: a loop with an else part that unpacks an array and one that deletes, and a
loop over the names in `xs` with a handler, a cleanup and a comprehension over a slice. -/
def sampleProgram : Tree :=
  let name (n : String) : Tree := .node .name [.text n, .missing]
  let num (n : String) : Tree := .node .num [.atom (.number n)]
  let pair : Tree := .node .tuple [.list [name "a", name "b"], .missing]
  let unpacking := .node .assign [.list [pair], .node .list [.list [num "1", name "xs"], .missing]]
  let loop := .node .whileStmt [name "xs", .list [unpacking],
    .list [.node .deleteStmt [.list [name "c"]]]]
  let rest := .node .subscript [name "xs", .node .slice [num "1", .none, .none], .missing]
  let positive := .node .compare [name "y", .list [.node (.op .gt) []], .list [num "0"]]
  let collected := .node .listComp [name "y",
    .list [.node .comprehension [name "y", rest, .list [positive], .missing]]]
  let step := .node .augAssign [.node .attr [name "x", .text "n", .missing], .node (.op .pow) [], num "2"]
  let handler := Handler.tree ⟨some (name "E"), "e", [.node .raiseStmt [name "e", .none]]⟩
  let tries := .node .tryStmt [.list [step], .list [handler], .list [],
    .list [.node .returnStmt [collected]]]
  let walk := .node .functionDef [.text "walk",
    .node .arguments [.list [], .list [.node .arg [.text "xs", .none]]],
    .list [loop, .node .forStmt [name "x", name "xs", .list [tries], .list []]], .list [], .none]
  .node .module [.list [walk]]

theorem sampleProgram_renders : IsProgram sampleProgram ∧
    ∃ p s', run (visit sampleProgram) {} {} = (.ok p, s') ∧
      ∀ width level, ∃ text, p.renderAt width level = (.ok (.text text), level) := by
  have name (n : String) : IsExpr (.node .name [.text n, .missing]) := .key (.name .missing)
  have num (n : String) : IsExpr (.node .num [.atom (.number n)]) := .key .number
  have one {P : Tree → Prop} {t : Tree} (h : P t) : ∀ u ∈ [t], P u := List.forall_mem_singleton.2 h
  have two {P : Tree → Prop} {t u : Tree} (ht : P t) (hu : P u) : ∀ v ∈ [t, u], P v :=
    List.forall_mem_cons.2 ⟨ht, one hu⟩
  have given {t : Tree} (h : IsExpr t) : ∀ u ∈ some t, IsExpr u := by
    rintro _ ⟨⟩
    exact h
  have place (n : String) : IsPlace (.node .name [.text n, .missing]) := ⟨name n, .head _⟩
  have c : IsNamed (.node .name [.text "c", .missing]) := .name (by decide) .missing
  have x : IsNamed (.node .name [.text "x", .missing]) := .name (by decide) .missing
  have unpacking := IsStmt.assign (one (.sequence (.inr rfl) (two (place "a") (place "b")) .missing))
    (.sequence (.inl rfl) (two (num "1") (name "xs")) .missing)
  have loop := IsStmt.whiles (name "xs") (one unpacking) (one (.delete (by simp) (one c)))
  have rest := @IsExpr.slice _ _ (some _) none (name "xs") (given (num "1")) nofun .missing
  have positive := @IsExpr.compare .gt _ _ (by decide) (name "y") (num "0")
  have collected := IsExpr.listComp (name "y") (name "y") rest (one positive) .missing
  have step := @IsStmt.augAssign (.node .attr [.node .name [.text "x", .missing], .text "n", .missing])
    _ .pow ⟨.attr (name "x") .missing, .tail _ (.head _)⟩ (by decide) (num "2")
  have tries := @IsStmt.tries _ [] _ [⟨some _, "e", _⟩] (one step)
    (List.forall_mem_singleton.2 (given (name "E")))
    (List.forall_mem_singleton.2 (one (@IsStmt.raise _ none (name "e") nofun))) nofun
    (one (@IsStmt.returns (some _) (given collected)))
  have hprogram : IsProgram sampleProgram := by
    refine .module (one (.function (.arguments (.params (by simp)) (.params (one (.arg (.atom _))))
      (by simp)) (two loop ?_) (.atom _)))
    exact .fors x (name "xs") (by simp) (one tries) nofun
  exact ⟨hprogram, supported_program_renders hprogram {}⟩

end Transpile.Walk
