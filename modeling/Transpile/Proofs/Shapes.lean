import Transpile.Proofs.Expressions
import Transpile.Proofs.Record

/-! The forms that rules make. A node adds nothing to a list of results, or one piece, or several of
which the first is an expression statement; none of these joins a list again, and none declares
names. Only handlers become handlers. -/

namespace Transpile.Walk

open Script Source

section

variable {α β : Type} {o : Options}

/-- Every successful run gives a result with the property. -/
def Results (o : Options) (Q : α → Prop) (w : Walker α) : Prop :=
  ∀ s a s', run w o s = (.ok a, s') → Q a

theorem Results.imp {P Q : α → Prop} {w : Walker α} (h : Results o P w) (hPQ : ∀ a, P a → Q a) :
    Results o Q w :=
  fun s a s' hr => hPQ a (h s a s' hr)

theorem results_pure {Q : α → Prop} {a : α} (h : Q a) : Results o Q (pure a) := by
  intro s b s' hr
  cases hr
  exact h

theorem results_throw {Q : α → Prop} (c : Cause) : Results o Q (throw c) := by
  intro s a s' hr
  cases hr

theorem results_bind_of {P : α → Prop} {Q : β → Prop} {w : Walker α} {f : α → Walker β}
    (hw : Results o P w) (hf : ∀ a, P a → Results o Q (f a)) : Results o Q (w >>= f) := by
  intro s b s' hr
  obtain ⟨a, s1, h1, h2⟩ := run_bind_ok hr
  exact hf a (hw s a s1 h1) s1 b s' h2

theorem results_bind {Q : β → Prop} {w : Walker α} {f : α → Walker β}
    (hf : ∀ a, Results o Q (f a)) : Results o Q (w >>= f) :=
  results_bind_of (P := fun _ => True) (fun _ _ _ _ => trivial) fun a _ => hf a

theorem results_ite {Q : α → Prop} {c : Prop} [Decidable c] {w w' : Walker α}
    (h : Results o Q w) (h' : Results o Q w') : Results o Q (if c then w else w') := by
  split_ifs
  · exact h
  · exact h'

/-- A check that fails or does nothing, before what gives the result. -/
theorem results_guard {Q : α → Prop} {c : Prop} [Decidable c] {e : Cause} {f : Unit → Walker α}
    (hf : Results o Q (f ())) : Results o Q (if c then throw e >>= f else f ()) :=
  results_ite (fun s a s' h => by cases h) hf

theorem results_child {Q : Piece → Prop} {cs : List Piece} (h : ∀ c ∈ cs, Q c) (i : Nat) :
    Results o Q (child cs i) := by
  unfold child
  split
  · next p hp => exact results_pure (h p (List.mem_of_getElem? hp))
  · exact results_throw _

end

/-- A piece that does not join a list, declares nothing and handles nothing. -/
def isPlain : Piece → Bool
  | .node (.group .splice _) _ | .node (.group .vars _) _ | .node (.catchDo ..) _ => false
  | _ => true

/-- A plain piece that is no expression statement: what expressions give. -/
def isValue (p : Piece) : Bool := isPlain p && !isStatement p

/-- What a node may give, handlers aside. -/
inductive Lined : Piece → Prop where
  | one {p : Piece} (h : isPlain p = true) : Lined p
  | none : Lined (splice [])
  | several {p : Piece} {ps : List Piece} (hp : isStatement p = true)
      (hps : ∀ q ∈ ps, isPlain q = true) : Lined (splice (p :: ps))

/-- One expression statement, or several that join a list. -/
inductive Statements : Piece → Prop where
  | one {p : Piece} (h : isStatement p = true) : Statements p
  | several {ps : List Piece} (h : ∀ p ∈ ps, isStatement p = true) : Statements (splice ps)

/-- A loop. With an else part it stands between a flag's first value and what reads the flag. -/
inductive Looped : Piece → Prop where
  | alone (test body : Piece) : Looped (Form.whileDo test body).piece
  | flagged {start : Piece} (h : isStatement start = true) (test body flag rest : Piece) :
    Looped (splice [start, (Form.whileDo test body).piece, (Form.ifThen flag rest .absent).piece])

theorem spliced_of_isPlain {p : Piece} (h : isPlain p = true) : spliced p = [] ∨ spliced p = [p] := by
  unfold spliced
  split
  · cases h
  · exact .inl rfl
  · exact .inr rfl

theorem isPlain_of_isStatement {p : Piece} (h : isStatement p = true) : isPlain p = true := by
  unfold isStatement at h
  split at h
  · rfl
  · cases h

theorem spliced_splice (ps : List Piece) : spliced (splice ps) = ps.filter fun p => !p.isAbsent := rfl

theorem Lined.plain {p q : Piece} (h : Lined p) (hq : q ∈ spliced p) : isPlain q = true := by
  cases h with
  | one h =>
    rcases spliced_of_isPlain h with h0 | h1
    · rw [h0] at hq
      cases hq
    · rw [h1] at hq
      rwa [List.mem_singleton.1 hq]
  | none => cases hq
  | several hp hps =>
    rw [spliced_splice] at hq
    rcases List.mem_cons.1 (List.mem_filter.1 hq).1 with rfl | hq
    · exact isPlain_of_isStatement hp
    · exact hps q hq

section

variable {o : Options}

/-- A result of the form that is made in the end. -/
theorem plain_pure {p : Piece} (h : isPlain p = true) : Results o (isPlain · = true) (pure p) :=
  results_pure h

theorem value_pure {p : Piece} (h : isValue p = true) : Results o (isValue · = true) (pure p) :=
  results_pure h

theorem plain_of_value {w : Walker Piece} (h : Results o (isValue · = true) w) :
    Results o (isPlain · = true) w :=
  h.imp fun _ hp => (Bool.and_eq_true_iff.1 hp).1

theorem plain_of_statement {w : Walker Piece} (h : Results o (isStatement · = true) w) :
    Results o (isPlain · = true) w :=
  h.imp fun _ => isPlain_of_isStatement

theorem value_sourceName (p : Piece) : Results o (isValue · = true) (sourceName p) := by
  refine results_bind fun o => results_ite ?_ (value_pure rfl)
  split
  · exact value_pure rfl
  · exact results_throw _

theorem value_grouped (op l r : Piece) :
    Results o (isValue · = true) (grouped (Form.binary op l r).piece) :=
  results_bind fun _ => results_ite (value_pure rfl) (value_pure rfl)

theorem results_functionOf (params body : Seq) :
    Results o (fun p => ∃ ps, p = (Form.function .expr .absent ps body).piece)
      (functionOf params body) := by
  intro s p s' hr
  obtain ⟨f, _, hneed, hr⟩ := run_bind_ok hr
  cases hr
  obtain ⟨hform, -⟩ := run_need hneed
  unfold Form.functionOf at hform
  cases hp : params.declare with
  | error c =>
    rw [hp] at hform
    cases hform
  | ok ps =>
    rw [hp] at hform
    cases hform
    exact ⟨ps, rfl⟩

theorem value_functionOf (params body : Seq) :
    Results o (isValue · = true) (functionOf params body) := by
  intro s p s' hr
  obtain ⟨ps, rfl⟩ := results_functionOf params body s p s' hr
  rfl

theorem value_operatorRule (op : Op) : Results o (isValue · = true) (operatorRule op) := by
  unfold operatorRule
  split <;> exact value_pure rfl

theorem value_binaryRule (op : Tree) (cs : List Piece) :
    Results o (isValue · = true) (binaryRule op cs) := by
  refine results_bind fun b => ?_
  split
  · exact results_bind fun _ => results_bind fun _ => value_pure rfl
  · exact results_bind fun _ => results_bind fun _ => value_pure rfl
  · split
    · exact results_bind fun _ => results_bind fun _ => value_pure rfl
    · exact results_bind fun _ => results_bind fun _ => results_bind fun _ => value_grouped _ _ _

theorem value_nameRule (id : Tree) : Results o (isValue · = true) (nameRule id) := by
  refine results_bind fun v => ?_
  split
  · exact value_pure rfl
  · exact value_pure rfl
  · exact value_pure rfl
  · exact value_sourceName _

theorem value_callRule (func : Tree) (cs : List Piece) :
    Results o (isValue · = true) (callRule func cs) := by
  refine results_bind fun t => ?_
  split <;> exact results_bind fun _ => value_pure rfl

theorem value_subscriptRule (slice : Branch) (cs : List Piece) :
    Results o (isValue · = true) (subscriptRule slice cs) := by
  refine results_bind fun target => results_bind fun t => ?_
  split
  · next lower upper step _ =>
    have rest (low : Piece) : Results o (isValue · = true) (do
        let high ← if upper.tree.isTruthy then do pure [← upper.again] else pure []
        return callOf (dot target "slice") (low :: high)) :=
      results_ite (results_bind fun _ => value_pure rfl) (value_pure rfl)
    exact results_guard (results_ite (results_bind rest) (rest _))
  · exact results_bind fun _ => value_pure rfl

theorem value_comprehensionRule (generators : Branch) :
    Results o (isValue · = true) (comprehensionRule generators) := by
  refine results_bind fun n => results_guard ?_
  split
  · refine results_bind fun _ => results_bind fun _ => results_bind fun _ => ?_
    refine results_bind fun i => results_bind fun n => results_bind fun v => results_bind fun r => ?_
    have rest (all : Piece) : Results o (isValue · = true) (do
        let f ← functionOf (.items []) (Seq.ofPiece all)
        return callOf f.inParens []) := results_bind fun _ => value_pure rfl
    exact results_bind fun vars => results_bind fun p => results_ite
      (results_bind fun _ => rest _) (rest _)
  · exact results_throw _

theorem statement_augmentRule (op : Tree) (cs : List Piece) :
    Results o (isStatement · = true) (augmentRule op cs) := by
  refine results_bind fun target => results_bind fun b => ?_
  split
  · exact results_bind fun _ => results_pure rfl
  · exact results_bind fun _ => results_pure rfl
  · refine results_bind fun op => results_bind fun value => ?_
    refine results_ite (results_bind fun t => ?_) ?_
    all_goals
      split
      · exact results_pure rfl
      · exact results_throw _

theorem made_ifRule (body orelse : Tree) (cs : List Piece) :
    Results o (fun p => ∃ test yes no, p = (Form.ifThen test yes no).piece)
      (ifRule body orelse cs) := by
  have made (test yes no : Piece) : Results o (fun p => ∃ test yes no,
      p = (Form.ifThen test yes no).piece) (pure (Form.ifThen test yes no).piece) :=
    results_pure ⟨test, yes, no, rfl⟩
  refine results_bind fun test => results_bind fun n => results_bind fun m => ?_
  exact results_ite (made _ _ _) (results_ite (results_bind fun _ => made _ _ _) (made _ _ _))

theorem made_forRule (cs : List Piece) :
    Results o (fun p => ∃ start test step body, p = (Form.forLoop start test step body).piece)
      (forRule cs) := by
  refine results_bind fun i => results_bind fun values => results_bind fun item => ?_
  refine results_bind fun source => results_bind fun body => results_bind fun _ => ?_
  exact results_bind fun item => results_pure ⟨_, _, _, _, rfl⟩

theorem plain_aliasRule (name asName : Tree) (place : List Tree) :
    Results o (isPlain · = true) (aliasRule name asName place) := by
  unfold aliasRule
  split <;> exact plain_pure rfl

theorem statement_classRule (name : Tree) (cs : List Piece) :
    Results o (isStatement · = true) (classRule name cs) := by
  unfold classRule
  dsimp only
  split
  all_goals
    refine results_bind fun _ => results_bind fun e => results_bind fun _ => results_bind fun c => ?_
    refine results_bind fun vars => results_bind fun f => results_bind fun key => ?_
    exact results_bind fun id => results_bind fun _ => results_bind fun _ => results_pure rfl

theorem plain_programRule (cs : List Piece) : Results o (isPlain · = true) (programRule cs) := by
  refine results_bind fun s => results_bind fun body => results_bind fun s' => ?_
  refine results_bind fun body => results_bind fun vars => results_bind fun _ => ?_
  exact results_bind fun o => results_ite (results_bind fun _ => plain_pure rfl) (plain_pure rfl)

/-- The classes whose result may be several pieces, a handler, or a piece that was there before. -/
def isManifold : Kind → Bool
  | .deleteStmt | .assign | .whileStmt | .functionDef | .exceptHandler | .index => true
  | _ => false

theorem plain_fieldRule {k : Kind} (hk : isManifold k = false) (fs : List Tree) (cs : List Piece) :
    Results o (isPlain · = true) (fieldRule k fs cs) := by
  unfold fieldRule
  split
  · exact plain_of_value (value_operatorRule _)
  · exact results_bind fun _ => results_bind fun _ => plain_pure rfl
  · exact plain_of_value (value_binaryRule _ _)
  · exact results_bind fun _ => results_bind fun _ => results_bind fun _ =>
      plain_of_value (value_grouped _ _ _)
  · exact results_bind fun _ => results_bind fun _ => results_bind fun _ => plain_pure rfl
  · refine results_bind fun v => ?_
    split
    · exact results_throw _
    · exact plain_pure rfl
  · exact results_bind fun _ => plain_pure rfl
  · exact plain_of_value (value_nameRule _)
  · exact plain_of_value (value_callRule _ _)
  · exact results_bind fun _ => results_bind fun _ => results_bind fun _ => plain_pure rfl
  · cases hk
  · exact plain_pure rfl
  · exact plain_pure rfl
  · exact results_bind fun _ => plain_pure rfl
  · exact results_bind fun _ => plain_of_value (value_functionOf _ _)
  · exact plain_pure rfl
  · exact results_bind fun _ => plain_of_value (value_sourceName _)
  · exact results_bind fun _ => plain_pure rfl
  · exact plain_pure rfl
  · exact results_bind fun _ => plain_pure rfl
  · cases hk
  · cases hk
  · exact plain_of_statement (statement_augmentRule _ _)
  · exact plain_pure rfl
  · exact plain_pure rfl
  · exact (made_ifRule _ _ _).imp fun _ ⟨_, _, _, hp⟩ => hp ▸ rfl
  · cases hk
  · exact (made_forRule _).imp fun _ ⟨_, _, _, _, hp⟩ => hp ▸ rfl
  · exact results_bind fun _ => plain_pure rfl
  · cases hk
  · exact results_bind fun _ => plain_pure rfl
  · exact plain_aliasRule _ _ _
  · cases hk
  · cases hk
  · exact plain_of_statement (statement_classRule _ _)
  · exact plain_programRule _
  · exact plain_pure rfl

theorem plain_rule {k : Kind} (hk : isManifold k = false) (ws : List Branch) (cs : List Piece) :
    Results o (isPlain · = true) (rule k ws cs) := by
  unfold rule
  split
  · exact plain_of_value (value_subscriptRule _ _)
  · exact plain_of_value (value_comprehensionRule _)
  · exact plain_fieldRule hk _ _

/-! The other classes -/

theorem results_mapM {α β : Type} {f : α → Walker β} {Q : α → β → Prop}
    (hf : ∀ a, Results o (Q a) (f a)) (as : List α) :
    Results o (List.Forall₂ Q as) (as.mapM f) := by
  induction as with
  | nil => exact results_pure .nil
  | cons a as ih =>
    rw [List.mapM_cons]
    exact results_bind_of (hf a) fun b hb => results_bind_of ih fun bs hbs =>
      results_pure (.cons hb hbs)

theorem Statements.lined {p : Piece} (h : Statements p) : Lined p := by
  cases h with
  | one h => exact .one (isPlain_of_isStatement h)
  | @several ps h =>
    cases ps with
    | nil => exact .none
    | cons p ps => exact .several (h p (by simp)) fun q hq => isPlain_of_isStatement (h q (by simp [hq]))

theorem Looped.lined {p : Piece} (h : Looped p) : Lined p := by
  cases h with
  | alone test body => exact .one rfl
  | flagged hstart test body flag rest =>
    refine .several hstart fun q hq => ?_
    rcases List.mem_cons.1 hq with rfl | hq
    · rfl
    · rw [List.mem_singleton.1 hq]
      rfl

theorem statements_deleteRule (cs : List Piece) : Results o Statements (deleteRule cs) := by
  have each (c : Piece) : Results o (isStatement · = true) (do
      let c ← Walk.bind c
      return statement (Form.unary (text "delete") c (.atom (.flag false))).piece) :=
    results_bind fun _ => results_pure rfl
  refine results_bind_of (results_mapM each cs) fun ds hds => results_pure (.several fun d hd => ?_)
  obtain ⟨_, -, h⟩ := forall₂_right hds hd
  exact h

theorem isStatement_unpack (source : Piece) (items : List Piece) :
    ∀ p ∈ unpack source items, isStatement p = true := by
  intro p hp
  obtain ⟨e, -, rfl⟩ := List.mem_map.1 hp
  rfl

theorem statements_placeTarget (value : Piece) {extras : List Piece}
    (h : ∀ p ∈ extras, isStatement p = true) (t : Piece) :
    Results o (fun e => ∀ p ∈ e.2, isStatement p = true) (placeTarget value extras t) := by
  unfold placeTarget
  split
  · refine results_bind fun r => results_pure fun p hp => ?_
    rcases List.mem_append.1 hp with hp | hp
    · exact h p hp
    · exact isStatement_unpack _ _ p hp
  · exact results_pure h

theorem statements_assignTargets (value : Piece) (ts : List Piece) (chain : Piece)
    {extras : List Piece} (h : ∀ p ∈ extras, isStatement p = true) :
    Results o (fun e => ∀ p ∈ e.2, isStatement p = true) (assignTargets value ts chain extras) := by
  induction ts generalizing chain extras with
  | nil => exact results_pure h
  | cons t ts ih =>
    rw [assignTargets_cons]
    have rest (t : Piece) := results_bind_of (statements_placeTarget (o := o) value h t)
      fun e he => ih (assignTo "=" e.1 (if chain.isAbsent then value else chain)) he
    exact results_ite (results_bind rest) (results_bind rest)

theorem statements_assignRule (cs : List Piece) : Results o Statements (assignRule cs) := by
  unfold assignRule
  split
  · exact results_throw _
  · refine results_bind_of (statements_assignTargets _ _ _ (by simp)) fun e he => ?_
    refine results_ite (results_pure (.one rfl)) (results_pure (.several fun p hp => ?_))
    rcases List.mem_cons.1 hp with rfl | hp
    · rfl
    · exact he p hp

theorem looped_whileRule (body orelse : Tree) (cs : List Piece) :
    Results o Looped (whileRule body orelse cs) := by
  refine results_bind fun test => results_bind fun n => results_bind fun t => ?_
  exact results_ite (results_bind fun flag => results_pure (.flagged rfl _ _ _ _))
    (results_pure (.alone _ _))

theorem statements_functionRule (name decorators : Tree) (cs : List Piece) :
    Results o Statements (functionRule name decorators cs) := by
  rw [functionRule_eq]
  refine results_bind fun vars => results_bind fun n => ?_
  refine results_bind fun key => results_bind fun p => results_bind fun id => ?_
  refine results_bind fun params => results_bind fun f => results_bind fun _ => ?_
  refine results_bind fun _ => ?_
  dsimp only
  split
  · exact results_pure (.one rfl)
  · refine results_pure (.several fun p hp => ?_)
    rcases List.mem_cons.1 hp with rfl | hp
    · rfl
    · obtain ⟨d, -, rfl⟩ := List.mem_map.1 (List.mem_reverse.1 hp)
      rfl

/-- A handler has the expression statements among what its fields gave. -/
theorem catch_handlerRule (name : Tree) (cs : List Piece) :
    Results o (fun p => ∃ id, p = (Form.catchDo id
      (Seq.ofPiece (block (cs.filter isStatement)))).piece) (handlerRule name cs) := by
  refine results_bind fun key => results_bind fun id => ?_
  refine results_bind_of (P := fun f => ∃ id, f = Form.catchDo id
    (Seq.ofPiece (block (cs.filter isStatement)))) ?_ fun f ⟨id, hf⟩ => results_pure ⟨id, hf ▸ rfl⟩
  intro s f s' hr
  obtain ⟨hform, -⟩ := run_need hr
  unfold Form.handler at hform
  cases hid : id.declare with
  | error c =>
    rw [hid] at hform
    cases hform
  | ok id' =>
    rw [hid] at hform
    cases hform
    exact ⟨id', rfl⟩

theorem settled_handler (ws : List Branch) (cs : List Piece) :
    Results o (fun p => Lined p ∨ isCatch p = true) (rule .exceptHandler ws cs) := by
  match ws with
  | [_, name, _] =>
    intro s p s' hr
    obtain ⟨id, rfl⟩ := catch_handlerRule name.tree cs s p s' hr
    exact .inr rfl
  | [] | [_] | [_, _] | _ :: _ :: _ :: _ :: _ => exact results_pure (.inl (.one rfl))

/-- All but handlers and indices, which pass on what they are given. -/
theorem lined_rule {k : Kind} (hh : k ≠ .exceptHandler) (hi : k ≠ .index) (ws : List Branch)
    (cs : List Piece) : Results o Lined (rule k ws cs) := by
  by_cases hk : isManifold k = false
  · exact (plain_rule hk ws cs).imp fun _ => .one
  cases k <;> first | exact absurd rfl hk | skip
  case deleteStmt => exact (statements_deleteRule cs).imp fun _ => Statements.lined
  case assign => exact (statements_assignRule cs).imp fun _ => Statements.lined
  case exceptHandler => exact absurd rfl hh
  case index => exact absurd rfl hi
  case whileStmt =>
    match ws with
    | [_, body, orelse] => exact (looped_whileRule body.tree orelse.tree cs).imp fun _ => Looped.lined
    | [] | [_] | [_, _] | _ :: _ :: _ :: _ :: _ => exact results_pure (.one rfl)
  case functionDef =>
    match ws with
    | [name, _, _, decorators, _] =>
      exact (statements_functionRule name.tree decorators.tree cs).imp fun _ => Statements.lined
    | [] | [_] | [_, _] | [_, _, _] | [_, _, _, _] | _ :: _ :: _ :: _ :: _ :: _ :: _ =>
      exact results_throw _

/-! Records -/

theorem spliced_of_isCatch {p : Piece} (h : isCatch p = true) : spliced p = [p] := by
  unfold isCatch at h
  split at h
  · rfl
  · cases h

theorem recorded_lined {t : Tree} {rs : List Record} (h : Recorded o t rs) :
    ∀ r ∈ rs, Lined r.result ∨ isCatch r.result = true := by
  induction t using tree_induction generalizing rs with
  | missing =>
    obtain ⟨s, s', -, h⟩ := h
    cases h
    simp
  | atom a =>
    obtain ⟨s, s', -, h⟩ := h
    cases h
    simp
  | list ts ih =>
    intro r hr
    obtain ⟨t, ht, h⟩ := forall₂_right (recorded_list h) hr
    exact ih t (List.mem_filter.1 ht).1 h r (by simp)
  | node k fs ih =>
    obtain ⟨p, rss, rfl, hfields, s, s', hrule⟩ := recorded_node h
    intro r hr
    obtain rfl := List.mem_singleton.1 hr
    change Lined p ∨ isCatch p = true
    by_cases hh : k = .exceptHandler
    · subst hh
      exact settled_handler _ _ s p s' hrule
    by_cases hi : k = .index
    · subst hi
      -- an index gives the first of the pieces that its fields added
      have hall (c : Piece) (hc : c ∈ nodesOf rss.flatten) : Lined c ∨ isCatch c = true := by
        obtain ⟨r, hr, hc⟩ := List.mem_flatMap.1 hc
        obtain ⟨rs, hrs, hr⟩ := List.mem_flatten.1 hr
        obtain ⟨t, ht, h⟩ := forall₂_right hfields hrs
        rcases ih t ht h r hr with hl | hl
        · exact .inl (.one (hl.plain hc))
        · rw [spliced_of_isCatch hl] at hc
          exact .inr (List.mem_singleton.1 hc ▸ hl)
      exact results_child hall 0 s p s' hrule
    exact .inl (lined_rule hh hi _ _ s p s' hrule)

/-- The classes of expressions. -/
def isExpressionKind : Kind → Bool
  | .boolOp | .namedExpr | .binOp | .unaryOp | .lambda | .ifExp | .dict | .set | .listComp | .setComp
  | .dictComp | .generatorExp | .awaitExpr | .yieldExpr | .yieldFrom | .compare | .call
  | .formattedValue | .joinedStr | .constant | .attr | .subscript | .starred | .name | .list | .tuple
  | .num | .str | .bytes | .nameConstant | .ellipsis => true
  | _ => false

/-- The classes of statements. -/
def isStatementKind : Kind → Bool
  | .functionDef | .asyncFunctionDef | .classDef | .returnStmt | .deleteStmt | .assign | .augAssign
  | .annAssign | .forStmt | .asyncFor | .whileStmt | .ifStmt | .withStmt | .asyncWith | .matchStmt
  | .raiseStmt | .tryStmt | .tryStar | .assertStmt | .importStmt | .importFrom | .globalStmt
  | .nonlocalStmt | .exprStmt | .passStmt | .breakStmt | .continueStmt => true
  | _ => false

theorem length_nodesOf_expression {k : Kind} (hk : isExpressionKind k = true) {fs : List Tree}
    {rs : List Record} (h : Recorded o (.node k fs) rs) : (nodesOf rs).length ≤ 1 := by
  obtain ⟨p, rss, rfl, -, s, s', hrule⟩ := recorded_node h
  have hm : isManifold k = false := by cases k <;> first | rfl | cases hk
  have hp : isPlain p = true := plain_rule hm _ _ s p s' hrule
  rcases spliced_of_isPlain hp with h0 | h1
  · simp [h0]
  · simp [h1]

end

end Transpile.Walk
