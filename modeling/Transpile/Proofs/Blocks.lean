import Transpile.Proofs.Shapes

/-! The blocks of conditionals, loops and `try`. A rule is given the results of all fields in one
list and finds the parts of a statement in it by counting source statements, by position or by their
class. Each main statement says exactly when what it finds is what the part gave. -/

namespace Transpile.Walk

open Script Source

section

variable {o : Options} {s s' : State}

/-! Conditionals and loops -/

/-- A conditional or a loop with the statements of its body and of its other arm. -/
inductive HasArms : Piece → List Piece → List Piece → Prop where
  | ifOnly (test : Piece) (ps : List Piece) :
      HasArms (Form.ifThen test (block ps) .absent).piece ps []
  | ifElse (test : Piece) (ps qs : List Piece) :
      HasArms (Form.ifThen test (block ps) (block qs)).piece ps qs
  | elseIf (test : Piece) (ps : List Piece) {q : Piece} (hq : isIf q = true) :
      HasArms (Form.ifThen test (block ps) q).piece ps [q]
  | loop (test : Piece) (ps : List Piece) : HasArms (Form.whileDo test (block ps)).piece ps []
  | loopElse (test flag : Piece) (ps qs : List Piece) :
      HasArms (splice [statement (assignTo "=" flag (leaf .boolean "true")),
        (Form.whileDo test
          (block (statement (assignTo "=" flag (leaf .boolean "false")) :: ps))).piece,
        (Form.ifThen flag (block qs) .absent).piece]) ps qs

/-- What a rule makes of the results after the test, cut after the first `n` of them. Arms that the
piece has are those two parts, and it has them unless there is no place for the second. -/
structure Cut (n : Nat) (orelse : List Tree) (rest : List Piece) (p : Piece) : Prop where
  arms : ∀ {ps qs : List Piece}, HasArms p ps qs →
    rest.take n = ps ∧ qs.length ≤ (rest.drop n).length
  kept : (orelse = [] → rest.drop n = []) →
    (∀ q qs, orelse.length = 1 → rest.drop n = q :: qs → isIf q = true → qs = []) →
    HasArms p (rest.take n) (rest.drop n)

@[simp] theorem block_inj {ps qs : List Piece} : block ps = block qs ↔ ps = qs := by
  simp [block, Form.piece]

theorem block_ne_absent (ps : List Piece) : block ps ≠ .absent := nofun

theorem hasArms_ifThen_iff {test yes no : Piece} {ps qs : List Piece} :
    HasArms (Form.ifThen test yes no).piece ps qs ↔ yes = block ps ∧
      (no = .absent ∧ qs = [] ∨ no = block qs ∨ isIf no = true ∧ qs = [no]) := by
  constructor
  · generalize hp : (Form.ifThen test yes no).piece = p
    intro h
    cases h with
    | ifOnly | ifElse => cases hp; simp
    | elseIf test ps hq => cases hp; simp [hq]
    | loop | loopElse => cases hp
  · rintro ⟨rfl, ⟨rfl, rfl⟩ | rfl | ⟨hq, rfl⟩⟩
    · exact .ifOnly test ps
    · exact .ifElse test ps qs
    · exact .elseIf test ps hq

theorem hasArms_whileDo_iff {test body : Piece} {ps qs : List Piece} :
    HasArms (Form.whileDo test body).piece ps qs ↔ body = block ps ∧ qs = [] := by
  constructor
  · generalize hp : (Form.whileDo test body).piece = p
    intro h
    cases h with
    | loop => cases hp; simp
    | ifOnly | ifElse | elseIf | loopElse => cases hp
  · rintro ⟨rfl, rfl⟩
    exact .loop test ps

theorem cut_ifThen {test no : Piece} {n : Nat} {orelse : List Tree} {rest : List Piece}
    (hno : orelse = [] ∧ no = .absent ∨ orelse ≠ [] ∧ no = block (rest.drop n) ∨
      orelse.length = 1 ∧ isIf no = true ∧ ∃ more, rest.drop n = no :: more) :
    Cut n orelse rest (Form.ifThen test (block (rest.take n)) no).piece where
  arms := by
    intro ps qs h
    obtain ⟨hyes, hqs⟩ := hasArms_ifThen_iff.1 h
    refine ⟨block_inj.1 hyes, ?_⟩
    rcases hqs with ⟨-, rfl⟩ | rfl | ⟨hif, rfl⟩
    · simp
    · rcases hno with ⟨-, hb⟩ | ⟨-, hb⟩ | ⟨-, hif, -⟩
      · exact absurd hb (block_ne_absent qs)
      · exact Nat.le_of_eq (congrArg List.length (block_inj.1 hb))
      · cases hif
    · rcases hno with ⟨-, rfl⟩ | ⟨-, rfl⟩ | ⟨-, -, more, hrest⟩
      · cases hif
      · cases hif
      · simp [hrest]
  kept := by
    intro hnone hone
    refine hasArms_ifThen_iff.2 ⟨rfl, ?_⟩
    rcases hno with ⟨h, rfl⟩ | ⟨-, rfl⟩ | ⟨h1, hif, more, hrest⟩
    · exact .inl ⟨rfl, hnone h⟩
    · exact .inr (.inl rfl)
    · rw [hrest, hone no more h1 hrest hif]
      exact .inr (.inr ⟨hif, rfl⟩)

theorem results_child_zero (cs : List Piece) :
    Results o (fun c => ∃ rest, cs = c :: rest) (child cs 0) := by
  cases cs with
  | nil => exact results_throw _
  | cons c rest => exact results_pure ⟨rest, rfl⟩

theorem cut_ifRule (body orelse : List Tree) (cs : List Piece) :
    Results o (fun p => ∃ test rest, cs = test :: rest ∧ Cut body.length orelse rest p)
      (ifRule (.list body) (.list orelse) cs) := by
  refine results_bind_of (results_child_zero cs) fun test ⟨rest, hcs⟩ => ?_
  subst hcs
  have made {no : Piece} (hno : orelse = [] ∧ no = .absent ∨
      orelse ≠ [] ∧ no = block (rest.drop body.length) ∨
      orelse.length = 1 ∧ isIf no = true ∧ ∃ more, rest.drop body.length = no :: more) :
      Results o (fun p => ∃ test' rest', test :: rest = test' :: rest' ∧
          Cut body.length orelse rest' p)
        (pure (Form.ifThen test (block (rest.take body.length)) no).piece) :=
    results_pure ⟨test, rest, rfl, cut_ifThen hno⟩
  change Results o _ (if orelse.length = 0 then _ else if orelse.length = 1 then _ else _)
  split_ifs with h0 h1
  · exact made (.inl ⟨List.length_eq_zero_iff.1 h0, rfl⟩)
  · refine results_bind_of (results_child_zero _) fun first ⟨more, hmore⟩ => ?_
    by_cases hif : isIf first = true
    · refine made (.inr (.inr ⟨h1, ?_⟩))
      simpa [hif] using ⟨more, hmore⟩
    · refine made (.inr (.inl ⟨fun h => h0 (h ▸ rfl), ?_⟩))
      simp [hif]
  · exact made (.inr (.inl ⟨fun h => h0 (h ▸ rfl), rfl⟩))

theorem cut_whileRule (body orelse : List Tree) (cs : List Piece) :
    Results o (fun p => ∃ test rest, cs = test :: rest ∧ Cut body.length orelse rest p)
      (whileRule (.list body) (.list orelse) cs) := by
  refine results_bind_of (results_child_zero cs) fun test ⟨rest, hcs⟩ => ?_
  subst hcs
  change Results o _ (if Tree.isTruthy (.list orelse) = true then _ else _)
  split_ifs with htrue
  · refine results_bind fun flag => results_pure ⟨test, rest, rfl, ?_, ?_⟩
    · intro ps qs h
      cases h
      exact ⟨rfl, Nat.le_refl _⟩
    · intro _ _
      exact .loopElse test flag _ _
  · refine results_pure ⟨test, rest, rfl, ?_, ?_⟩
    · intro ps qs h
      obtain ⟨hps, rfl⟩ := hasArms_whileDo_iff.1 h
      exact ⟨block_inj.1 hps, Nat.zero_le _⟩
    · intro hnone _
      have hempty : orelse = [] := by simpa [Tree.isTruthy] using htrue
      rw [hnone hempty]
      exact .loop test _

theorem take_append_eq_iff {xs ys : List Piece} {n : Nat} :
    (xs ++ ys).take n = xs ↔ xs.length = n ∨ xs.length < n ∧ ys = [] := by
  constructor
  · intro h
    have hlen : min n (xs.length + ys.length) = xs.length := by
      rw [← List.length_append, ← List.length_take, h]
    rcases Nat.lt_or_ge xs.length n with hlt | hge
    · refine .inr ⟨hlt, List.length_eq_zero_iff.1 ?_⟩
      omega
    · left
      omega
  · rintro (rfl | ⟨hlt, rfl⟩)
    · simp
    · simp [List.take_of_length_le (Nat.le_of_lt hlt)]

theorem drop_append_of_le {xs ys : List Piece} {n : Nat}
    (h : xs.length = n ∨ xs.length < n ∧ ys = []) : (xs ++ ys).drop n = ys := by
  rcases h with rfl | ⟨hlt, rfl⟩
  · simp
  · simp [Nat.le_of_lt hlt]

/-- The cut falls between the arms if the body gave as many pieces as it has statements, or fewer
and there are no others to take. -/
theorem Cut.hasArms_iff {n : Nat} {orelse : List Tree} {rest ts bs es : List Piece} {test p : Piece}
    (h : Cut n orelse rest p) (hcs : ts ++ (bs ++ es) = test :: rest) (hone : ts.length ≤ 1)
    (hnone : orelse = [] → es = [])
    (hif : ∀ q qs, orelse.length = 1 → es = q :: qs → isIf q = true → qs = []) :
    HasArms p bs es ↔ ts ≠ [] ∧ (bs.length = n ∨ bs.length < n ∧ es = []) := by
  have hrest (hts : ts ≠ []) : rest = bs ++ es := by
    match ts, hts, hone with
    | [_], _, _ => exact (List.cons.inj hcs).2.symm
  constructor
  · intro harms
    obtain ⟨htake, hle⟩ := h.arms harms
    -- the cut drops one piece for the test, so without one there is too little for both arms
    have hts : ts ≠ [] := by
      rintro rfl
      have hlen := congrArg List.length hcs
      have htaken := congrArg List.length htake
      simp only [List.nil_append, List.length_append, List.length_cons, List.length_take,
        List.length_drop] at hlen htaken hle
      omega
    rw [hrest hts] at htake
    exact ⟨hts, take_append_eq_iff.1 htake⟩
  · rintro ⟨hts, hcount⟩
    have hkept := h.kept
    rw [hrest hts, take_append_eq_iff.2 hcount, drop_append_of_le hcount] at hkept
    exact hkept hnone hif

theorem isIf_of_isStatement {p : Piece} (h : isStatement p = true) : isIf p = false := by
  unfold isStatement at h
  split at h
  · rfl
  · cases h

theorem isAbsent_of_isStatement {p : Piece} (h : isStatement p = true) : p.isAbsent = false := by
  unfold isStatement at h
  split at h
  · rfl
  · cases h

theorem Lined.single_of_isIf {p q : Piece} {qs : List Piece} (h : Lined p)
    (hq : spliced p = q :: qs) (hif : isIf q = true) : qs = [] := by
  cases h with
  | one h =>
    rcases spliced_of_isPlain h with h0 | h1
    · rw [h0] at hq
      cases hq
    · rw [h1] at hq
      cases hq
      rfl
  | none => cases hq
  | several hp _ =>
    rw [spliced_splice, List.filter_cons_of_pos (by simp [isAbsent_of_isStatement hp])] at hq
    cases hq
    rw [isIf_of_isStatement hp] at hif
    cases hif

/-- One statement whose first piece is a conditional gives no other piece. -/
theorem single_of_isIf {u : Tree} {rs : List Record} (h : Recorded o (.list [u]) rs) {q : Piece}
    {qs : List Piece} (hq : nodesOf rs = q :: qs) (hif : isIf q = true) : qs = [] := by
  have hlen : rs.length ≤ 1 := by
    rw [← (recorded_list h).length_eq]
    exact List.length_filter_le _ [u]
  rcases rs with _ | ⟨r, _ | ⟨_, _⟩⟩
  · cases hq
  · rw [nodesOf_cons, nodesOf_nil, List.append_nil] at hq
    rcases recorded_lined h r (by simp) with hl | hc
    · exact hl.single_of_isIf hq hif
    · rw [spliced_of_isCatch hc] at hq
      cases hq
      rfl
  · simp at hlen

theorem recorded_no_list {rs : List Record} (h : Recorded o (.list []) rs) : rs = [] :=
  List.forall₂_nil_left_iff.1 (recorded_list h)

/-- A simple node that was walked: its rule has made the result from what the fields added. -/
theorem exists_recorded {k : Kind} {fs : List Tree} {p : Piece} (hk : isSimple k = true)
    (hs : Ready s) (h : run (visit (.node k fs)) o s = (.ok p, s')) :
    ∃ rss, run (record k fs) o s = (.ok (.mk (.node k fs) p rss), s') ∧
      List.Forall₂ (Recorded o) fs rss ∧
      ∃ s1 s2, run (fieldRule k fs (nodesOf rss.flatten)) o s1 = (.ok p, s2) := by
  obtain ⟨r, hr, rfl⟩ := exists_record h
  obtain ⟨p, rss, hrec, hfields, s1, s2, hrule⟩ := recorded_node (recorded_of_run hs hr)
  obtain rfl : r = .mk (.node k fs) p rss := List.singleton_inj.1 hrec
  rw [rule_walkAll hk] at hrule
  exact ⟨rss, hr, hfields, s1, s2, hrule⟩

/-- Both arms are kept if the test gave a piece and the body one for each of its statements, or fewer
while the other arm gave none. -/
theorem arms_kept_iff {k tk : Kind} {tfs body orelse : List Tree} {p : Piece}
    (hk : k = .ifStmt ∨ k = .whileStmt) (htest : isExpressionKind tk = true) (hs : Ready s)
    (h : run (visit (.node k [.node tk tfs, .list body, .list orelse])) o s = (.ok p, s')) :
    ∃ ts bs es,
      run (record k [.node tk tfs, .list body, .list orelse]) o s =
        (.ok (.mk (.node k [.node tk tfs, .list body, .list orelse]) p [ts, bs, es]), s') ∧
      (HasArms p (nodesOf bs) (nodesOf es) ↔ nodesOf ts ≠ [] ∧
        ((nodesOf bs).length = body.length ∨
          (nodesOf bs).length < body.length ∧ nodesOf es = [])) := by
  have hsimple : isSimple k = true := by rcases hk with rfl | rfl <;> rfl
  obtain ⟨rss, hrec, hfields, s1, s2, hrule⟩ := exists_recorded hsimple hs h
  simp only [List.forall₂_cons_left_iff, List.forall₂_nil_left_iff] at hfields
  obtain ⟨ts, _, ht, ⟨bs, _, hb, ⟨es, _, he, rfl, rfl⟩, rfl⟩, rfl⟩ := hfields
  refine ⟨ts, bs, es, hrec, ?_⟩
  have hcut : ∃ test rest, nodesOf [ts, bs, es].flatten = test :: rest ∧
      Cut body.length orelse rest p := by
    rcases hk with rfl | rfl
    · exact cut_ifRule body orelse _ s1 p s2 hrule
    · exact cut_whileRule body orelse _ s1 p s2 hrule
  obtain ⟨test, rest, hcs, hcut⟩ := hcut
  refine hcut.hasArms_iff (by simpa using hcs) (length_nodesOf_expression htest ht) ?_ ?_
  · rintro rfl
    rw [recorded_no_list he, nodesOf_nil]
  · intro q qs hlen hqs hif
    obtain ⟨u, rfl⟩ := List.length_eq_one_iff.1 hlen
    exact single_of_isIf he hqs hif

/-- Two statements of which the first gives nothing, and two more in the other arm. -/
def quietArm : List Tree :=
  [nameNode "a", .list [.node .passStmt [], nameStatement "x"],
    .list [nameStatement "y", nameStatement "z"]]

theorem quietArm_moves : ∃ p s' ts bs es,
    run (record .ifStmt quietArm) {} {} = (.ok (.mk (.node .ifStmt quietArm) p [ts, bs, es]), s') ∧
      (nodesOf bs).length = 1 ∧ (nodesOf es).length = 2 ∧
      ¬ HasArms p (nodesOf bs) (nodesOf es) := by
  obtain ⟨p, s', hrun, hlen⟩ := exists_observed .ifStmt quietArm
    (fun r => r.fields.map fun rs => (nodesOf rs).length) (b := [1, 1, 2]) (by decide +kernel)
  obtain ⟨ts, bs, es, hrec, hiff⟩ := arms_kept_iff (.inl rfl) rfl ready_start hrun
  have hcounts := hlen _ hrec
  simp only [Record.fields_mk, List.map_cons, List.map_nil, List.cons.injEq] at hcounts
  obtain ⟨-, hbs, hes, -⟩ := hcounts
  refine ⟨p, s', ts, bs, es, hrec, hbs, hes, fun harms => ?_⟩
  rcases (hiff.1 harms).2 with h | ⟨-, h⟩
  · rw [hbs] at h
    cases h
  · rw [h] at hes
    cases hes

/-! Loops over elements -/

/-- Two forms that differ in their marks only, as the places of one name do. -/
def SameForm (p q : Piece) : Prop := ∃ f m m', p = .node f m ∧ q = .node f m'

/-- The loop over the elements of an array under the names of an index and of the array. -/
def elementLoop (i values source : Piece) (body : List Piece) : Piece :=
  (Form.forLoop
    (Form.comma (assignTo "=" i (leaf .number "0")) (assignTo "=" values source)).piece
    (binary "<" i (dot values "length"))
    (Form.unary (text "++") i (.atom (.flag true))).piece
    (block body)).piece

/-- A loop that takes the element and then does `ps`. -/
def HasBody (p item : Piece) (ps : List Piece) : Prop :=
  ∃ i values source item', SameForm item item' ∧ p = elementLoop i values source
    (statement (assignTo "=" item' (Form.bracket values i).piece) :: ps)

theorem sameForm_bind (f : Form) (m : Marks) :
    Results o (SameForm (.node f m)) (Walk.bind (.node f m)) := by
  refine results_bind fun key => results_bind fun seen => results_ite ?_ ?_
  · exact results_pure ⟨f, m, m, rfl, rfl⟩
  · have site : Results o (SameForm (.node f m)) (atSite (.node f m)) :=
      results_bind fun s => results_bind fun _ => results_pure ⟨f, m, _, rfl, rfl⟩
    exact results_bind_of site fun q hq => results_bind fun _ => results_pure hq

theorem results_child_get (cs : List Piece) (i : Nat) :
    Results o (fun c => cs[i]? = some c) (child cs i) := by
  unfold child
  split
  · next h => exact results_pure h
  · exact results_throw _

/-- Of all that the fields have given, a loop has room for the first three pieces. -/
theorem loop_forRule {f : Form} {m : Marks} {cs : List Piece} (hcs : cs[0]? = some (.node f m)) :
    Results o (fun p => ∃ b, cs[2]? = some b ∧ HasBody p (.node f m) [b]) (forRule cs) := by
  refine results_bind fun i => results_bind fun values => ?_
  refine results_bind_of (results_child_get cs 0) fun item hitem => ?_
  obtain rfl : .node f m = item := Option.some.inj (hcs.symm.trans hitem)
  refine results_bind fun source => results_bind_of (results_child_get cs 2) fun b hb => ?_
  refine results_bind fun _ => results_bind_of (sameForm_bind f m) fun item' hsame => ?_
  exact results_pure ⟨b, hb, i, values, source, item', hsame, rfl⟩

theorem HasBody.unique {p item : Piece} {ps qs : List Piece} (h : HasBody p item ps)
    (h' : HasBody p item qs) : ps = qs := by
  obtain ⟨i, values, source, item', -, rfl⟩ := h
  obtain ⟨i', values', source', item'', -, hp⟩ := h'
  cases hp
  rfl

theorem node_nameRule (id : Tree) : Results o IsForm (nameRule id) := by
  have leaf (k : Leaf) (v : Piece) : IsForm (Form.leaf k v).piece := isForm_piece fun _ h => by cases h
  refine results_bind fun v => ?_
  split
  · exact results_pure (leaf _ _)
  · exact results_pure (leaf _ _)
  · exact results_pure (leaf _ _)
  · refine results_bind fun o => results_ite ?_ (results_pure (leaf _ _))
    split
    · exact results_pure (leaf _ _)
    · exact results_throw _

/-- A loop keeps its body if the body gave one piece, and no other piece stands in its place. -/
theorem loop_body_kept_iff {id ctx iter : Tree} {body orelse : List Tree} {p : Piece} (hs : Ready s)
    (h : run (visit (.node .forStmt [.node .name [id, ctx], iter, .list body, .list orelse])) o s =
      (.ok p, s')) :
    ∃ item it bs es,
      run (record .forStmt [.node .name [id, ctx], iter, .list body, .list orelse]) o s =
        (.ok (.mk (.node .forStmt [.node .name [id, ctx], iter, .list body, .list orelse]) p
          [[item], it, bs, es]), s') ∧
      (HasBody p item.result (nodesOf bs) ↔
        ∃ b, nodesOf bs = [b] ∧ (nodesOf it ++ nodesOf bs ++ nodesOf es)[1]? = some b) := by
  obtain ⟨rss, hrec, hfields, s1, s2, hrule⟩ := exists_recorded rfl hs h
  simp only [List.forall₂_cons_left_iff, List.forall₂_nil_left_iff] at hfields
  obtain ⟨ts, _, ht, ⟨it, _, -, ⟨bs, _, -, ⟨es, _, -, rfl, rfl⟩, rfl⟩, rfl⟩, rfl⟩ := hfields
  obtain ⟨item, _, rfl, -, s3, s4, hname⟩ := recorded_node ht
  refine ⟨_, it, bs, es, hrec, ?_⟩
  have hform : IsForm item := by
    rw [rule_walkAll rfl] at hname
    exact node_nameRule id s3 item s4 hname
  simp only [List.flatten_cons, List.flatten_nil, nodesOf_append, nodesOf_cons,
    Record.result_mk, hform.spliced, List.append_nil, List.singleton_append] at hrule
  obtain ⟨f, m, rfl, -⟩ := hform
  obtain ⟨b, hb, hbody⟩ := loop_forRule rfl s1 p s2 hrule
  replace hb : (nodesOf it ++ nodesOf bs ++ nodesOf es)[1]? = some b := by simpa using hb
  constructor
  · intro hkept
    exact ⟨b, hkept.unique hbody, hb⟩
  · rintro ⟨b', hbs, hb'⟩
    obtain rfl : b = b' := Option.some.inj (hb.symm.trans hb')
    rw [hbs]
    exact hbody

/-- A loop over two statements. -/
def pairLoop : List Tree :=
  [nameNode "x", nameNode "y", .list [nameStatement "a", nameStatement "b"], .list []]

theorem pairLoop_loses_statement : ∃ p s' item it bs es,
    run (record .forStmt pairLoop) {} {} =
        (.ok (.mk (.node .forStmt pairLoop) p [[item], it, bs, es]), s') ∧
      (nodesOf bs).length = 2 ∧ ¬ HasBody p item.result (nodesOf bs) := by
  obtain ⟨p, s', hrun, hlen⟩ := exists_observed .forStmt pairLoop
    (fun r => r.fields.map fun rs => (nodesOf rs).length) (b := [1, 1, 2, 0]) (by decide +kernel)
  obtain ⟨item, it, bs, es, hrec, hiff⟩ := loop_body_kept_iff ready_start hrun
  have hcounts := hlen _ hrec
  simp only [Record.fields_mk, List.map_cons, List.map_nil, List.cons.injEq] at hcounts
  obtain ⟨-, -, hbs, -, -⟩ := hcounts
  refine ⟨p, s', item, it, bs, es, hrec, hbs, fun hkept => ?_⟩
  obtain ⟨b, hb, -⟩ := hiff.1 hkept
  rw [hb] at hbs
  cases hbs

/-! Handlers -/

/-- A `try` whose parts contain the given statements in order: its body, its handler and, if there
are any to contain, its last part. -/
def TryKeeps (p : Piece) (bs : List Piece) (hs : Option (List Piece)) (fs : List Piece) : Prop :=
  ∃ ps handler cleanup, p = (Form.tryDo (block ps) handler cleanup).piece ∧ bs.Sublist ps ∧
    (∀ cs ∈ hs, ∃ name qs,
      handler = (Form.catchDo name (Seq.ofPiece (block qs))).piece ∧ cs.Sublist qs) ∧
    (fs ≠ [] → ∃ qs, cleanup = (Form.finallyDo (Seq.ofPiece (block qs))).piece ∧ fs.Sublist qs)

/-- What the body of the first handler gave. -/
def firstBody : List Record → Option (List Piece)
  | .mk _ _ [_, _, body] :: _ => some (nodesOf body)
  | _ => none

theorem lastOf_append {front last : List Piece} :
    lastOf last.length (front ++ last) = last := by
  simp [lastOf]

theorem butLast_append {front last : List Piece} :
    butLast last.length (front ++ last) = front := by
  simp [butLast]

/-- Only expression statements and a handler are kept of what stands before the last part. -/
theorem results_tryRule {front last : List Piece} {final : List Tree}
    (hlen : last.length = final.length) :
    Results o (· = (Form.tryDo (block (front.filter isStatement))
        ((front.find? isCatch).getD .absent)
        (if last.isEmpty then .absent else (Form.finallyDo (Seq.ofPiece (block last))).piece)).piece)
      (tryRule (.list final) (front ++ last)) := by
  have hparts : (if final.length = 0 then ([], front ++ last)
      else (lastOf final.length (front ++ last), butLast final.length (front ++ last))) =
      (last, front) := by
    by_cases h0 : final.length = 0
    · obtain rfl : last = [] := List.length_eq_zero_iff.1 (hlen.trans h0)
      simp [h0]
    · rw [if_neg h0, ← hlen, lastOf_append, butLast_append]
  have hsize : sizeOfField (.list final) = pure final.length := rfl
  unfold tryRule
  rw [hsize, pure_bind, hparts]
  exact results_pure rfl

/-- No statement is a handler. -/
theorem find?_isCatch_statements {ts : List Tree} {rs : List Record} (h : Recorded o (.list ts) rs)
    (hts : ∀ t ∈ ts, ∃ k fs, t = .node k fs ∧ isStatementKind k = true) :
    (nodesOf rs).find? isCatch = none := by
  refine List.find?_eq_none.2 fun q hq => ?_
  obtain ⟨r, hr, hq⟩ := List.mem_flatMap.1 hq
  obtain ⟨t, ht, hrec⟩ := forall₂_right (recorded_list h) hr
  obtain ⟨k, fs, rfl, hk⟩ := hts t (List.mem_filter.1 ht).1
  obtain ⟨p, rss, hrs, -, s1, s2, hrule⟩ := recorded_node hrec
  cases hrs
  have hlined : Lined p :=
    lined_rule (by rintro rfl; cases hk) (by rintro rfl; cases hk) _ _ s1 p s2 hrule
  have hplain := hlined.plain hq
  intro hcatch
  unfold isCatch at hcatch
  split at hcatch
  · cases hplain
  · cases hcatch

/-- The first handler is the one that is found, with the expression statements of its own. -/
theorem find?_isCatch_handlers {ts : List Tree} {rs : List Record} (h : Recorded o (.list ts) rs)
    (hts : ∀ t ∈ ts, ∃ type name body, t = .node .exceptHandler [type, name, .list body]) :
    rs = [] ∨ ∃ cs pre name, firstBody rs = some cs ∧
      (nodesOf rs).find? isCatch = some (Form.catchDo name
        (Seq.ofPiece (block ((pre ++ cs).filter isStatement)))).piece := by
  cases rs with
  | nil => exact .inl rfl
  | cons r rs =>
    obtain ⟨t, ht, hrec⟩ := forall₂_right (recorded_list h) (List.mem_cons_self)
    obtain ⟨type, name, body, rfl⟩ := hts t (List.mem_filter.1 ht).1
    obtain ⟨p, rss, hr, hfields, s1, s2, hrule⟩ := recorded_node hrec
    cases hr
    simp only [List.forall₂_cons_left_iff, List.forall₂_nil_left_iff] at hfields
    obtain ⟨typed, _, -, ⟨named, _, -, ⟨bs, _, -, rfl, rfl⟩, rfl⟩, rfl⟩ := hfields
    rw [rule_walkAll rfl] at hrule
    obtain ⟨id, rfl⟩ := catch_handlerRule name _ s1 p s2 hrule
    refine .inr ⟨nodesOf bs, nodesOf typed ++ nodesOf named, id, rfl, ?_⟩
    rw [nodesOf_cons, spliced_of_isCatch rfl]
    simp [isCatch, Form.piece]

theorem sublist_filter_iff (ps qs rs : List Piece) :
    qs.Sublist ((ps ++ (qs ++ rs)).filter isStatement) ↔ ∀ q ∈ qs, isStatement q = true := by
  constructor
  · intro h q hq
    exact (List.mem_filter.1 (h.subset hq)).2
  · intro h
    rw [List.filter_append, List.filter_append, List.filter_eq_self.2 h]
    exact (List.sublist_append_left qs _).trans (List.sublist_append_right _ _)

theorem length_nodesOf {rs : List Record} (h : ∀ r ∈ rs, (spliced r.result).length = 1) :
    (nodesOf rs).length = rs.length := by
  induction rs with
  | nil => rfl
  | cons r rs ih =>
    rw [nodesOf_cons, List.length_append, h r (by simp), ih fun u hu => h u (by simp [hu]),
      List.length_cons, Nat.add_comm]

theorem tryKeeps_iff {ps bs fs : List Piece} {hs : Option (List Piece)} {handler cleanup : Piece} :
    TryKeeps (Form.tryDo (block ps) handler cleanup).piece bs hs fs ↔ bs.Sublist ps ∧
      (∀ cs ∈ hs, ∃ name qs,
        handler = (Form.catchDo name (Seq.ofPiece (block qs))).piece ∧ cs.Sublist qs) ∧
      (fs ≠ [] → ∃ qs, cleanup = (Form.finallyDo (Seq.ofPiece (block qs))).piece ∧
        fs.Sublist qs) := by
  constructor
  · rintro ⟨ps', handler', cleanup', hp, h⟩
    cases hp
    exact h
  · intro h
    exact ⟨ps, handler, cleanup, rfl, h⟩

/-- The handler that is found has the statements of the first one if all are expression statements. -/
theorem handler_kept_iff {ts : List Tree} {rs : List Record} {handler : Piece}
    (h : Recorded o (.list ts) rs)
    (hts : ∀ t ∈ ts, ∃ type name body, t = .node .exceptHandler [type, name, .list body])
    (hfind : ∀ c, (nodesOf rs).find? isCatch = some c → handler = c) :
    (∀ cs ∈ firstBody rs, ∃ name qs,
        handler = (Form.catchDo name (Seq.ofPiece (block qs))).piece ∧ cs.Sublist qs) ↔
      ∀ cs ∈ firstBody rs, ∀ q ∈ cs, isStatement q = true := by
  rcases find?_isCatch_handlers h hts with rfl | ⟨cs, pre, name, hfirst, hcatch⟩
  · simp [firstBody]
  · have hsub : cs.Sublist ((pre ++ cs).filter isStatement) ↔ ∀ q ∈ cs, isStatement q = true := by
      simpa using sublist_filter_iff pre cs []
    rw [hfirst, hfind _ hcatch]
    simp only [Option.mem_some_iff, forall_eq']
    rw [← hsub]
    constructor
    · rintro ⟨name', qs, hc, hqs⟩
      cases hc
      exact hqs
    · intro hqs
      exact ⟨name, _, rfl, hqs⟩

/-- A `try` keeps its statements if those of the body and of the first handler are expression
statements; the others are left out. -/
theorem try_kept_iff {body handlers orelse final : List Tree} {p : Piece}
    (hbody : ∀ t ∈ body, ∃ k fs, t = .node k fs ∧ isStatementKind k = true)
    (hhandlers : ∀ t ∈ handlers, ∃ type name body, t = .node .exceptHandler [type, name, .list body])
    (hfinal : ∀ t ∈ final, t.isNode = true) (hs : Ready s)
    (h : run (visit (.node .tryStmt [.list body, .list handlers, .list orelse, .list final])) o s =
      (.ok p, s')) :
    ∃ bs hs es fs,
      run (record .tryStmt [.list body, .list handlers, .list orelse, .list final]) o s =
        (.ok (.mk (.node .tryStmt [.list body, .list handlers, .list orelse, .list final]) p
          [bs, hs, es, fs]), s') ∧
      ((∀ r ∈ fs, (spliced r.result).length = 1) →
        (TryKeeps p (nodesOf bs) (firstBody hs) (nodesOf fs) ↔
          (∀ q ∈ nodesOf bs, isStatement q = true) ∧
            ∀ cs ∈ firstBody hs, ∀ q ∈ cs, isStatement q = true)) := by
  obtain ⟨rss, hrec, hfields, s1, s2, hrule⟩ := exists_recorded rfl hs h
  simp only [List.forall₂_cons_left_iff, List.forall₂_nil_left_iff] at hfields
  obtain ⟨bs, _, hb, ⟨hs, _, hh, ⟨es, _, -, ⟨fs, _, hf, rfl, rfl⟩, rfl⟩, rfl⟩, rfl⟩ := hfields
  refine ⟨bs, hs, es, fs, hrec, fun hone => ?_⟩
  have hlen : (nodesOf fs).length = final.length := by
    rw [length_nodesOf hone, ← (recorded_list hf).length_eq, List.filter_eq_self.2 hfinal]
  have hcs : nodesOf [bs, hs, es, fs].flatten =
      (nodesOf bs ++ (nodesOf hs ++ nodesOf es)) ++ nodesOf fs := by simp
  rw [hcs] at hrule
  obtain rfl := results_tryRule hlen s1 p s2 hrule
  rw [tryKeeps_iff, handler_kept_iff hh hhandlers fun c hc => ?_]
  · constructor
    · rintro ⟨hbs, hcs, -⟩
      exact ⟨(sublist_filter_iff [] _ _).1 hbs, hcs⟩
    · rintro ⟨hbs, hcs⟩
      refine ⟨(sublist_filter_iff [] _ _).2 hbs, hcs, fun hne => ?_⟩
      exact ⟨nodesOf fs, if_neg (by simpa using hne), List.Sublist.refl _⟩
  · rw [List.find?_append, find?_isCatch_statements hb hbody, List.find?_append, hc]
    rfl

/-- A `try` around one statement that is no expression. -/
def guardedRaise : List Tree :=
  [.list [.node .raiseStmt [nameNode "x", .none]],
    .list [.node .exceptHandler [nameNode "E", .text "e", .list [nameStatement "y"]]],
    .list [], .list []]

theorem guardedRaise_loses_statement : ∃ p s' bs hs es fs,
    run (record .tryStmt guardedRaise) {} {} =
        (.ok (.mk (.node .tryStmt guardedRaise) p [bs, hs, es, fs]), s') ∧
      (∀ r ∈ bs ++ fs, (spliced r.result).length = 1) ∧
      ¬ TryKeeps p (nodesOf bs) (firstBody hs) (nodesOf fs) := by
  obtain ⟨p, s', hrun, hseen⟩ := exists_observed .tryStmt guardedRaise
    (fun r => r.fields.map fun rs => rs.map fun r => (spliced r.result).map isStatement)
    (b := [[[false]], [[false]], [], []]) (by decide +kernel)
  obtain ⟨bs, hs, es, fs, hrec, hiff⟩ := try_kept_iff (by simp [isStatementKind]) (by simp)
    (by simp) ready_start hrun
  have hall := hseen _ hrec
  simp only [Record.fields_mk, List.map_cons, List.map_nil, List.cons.injEq, List.map_eq_nil_iff,
    List.map_eq_cons_iff] at hall
  obtain ⟨⟨b, _, rfl, ⟨q, _, hq, hstatement, rfl⟩, rfl⟩, -, -, rfl, -⟩ := hall
  have hone : ∀ r ∈ [b] ++ [], (spliced r.result).length = 1 := by simp [hq]
  refine ⟨p, s', [b], hs, es, [], hrec, hone, fun hkept => ?_⟩
  have hkeeps := ((hiff (by simp)).1 hkept).1 q (by simp [hq])
  rw [hstatement] at hkeeps
  cases hkeeps

end

end Transpile.Walk
