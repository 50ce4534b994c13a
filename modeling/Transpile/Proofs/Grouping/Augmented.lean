import Transpile.Proofs.Grouping.ReadBack
import Transpile.Proofs.Progress.Names

/-! Assignments that join the target to a value by an operator. Main statement: the assignment that is
written for one gives its target what the operator means between the two exactly if the operator is not
one of bits and, for a quotient that is rounded down, the value is no operator between two operands. -/

namespace Transpile.Reading

namespace BinaryOp

/-- The operators that make another assignment of `=`. -/
def assigning : List BinaryOp :=
  [bitOr, bitXor, bitAnd, shiftLeft, shiftRight, add, sub, mult, div, mod]

def ofAssignSign? (a : String) : Option BinaryOp := assigning.find? fun op => op.sign ++ "=" = a

end BinaryOp

/-- What the sign makes of the name and of the expression right of it. -/
def assigned (x a : String) (e : Expr) : Option Expr :=
  if a = "=" then some e else (BinaryOp.ofAssignSign? a).map fun op => .binary op (.name x) e

namespace BinaryOp

theorem ofAssignSign?_sign {op : BinaryOp} (h : op ∈ assigning) :
    ofAssignSign? (op.sign ++ "=") = some op := by
  have hall : ∀ op ∈ assigning, ofAssignSign? (op.sign ++ "=") = some op := by decide
  exact hall op h

theorem assigned_sign {op : BinaryOp} (h : op ∈ assigning) (x : String) (e : Expr) :
    assigned x (op.sign ++ "=") e = some (.binary op (.name x) e) := by
  have hall : ∀ op ∈ assigning, op.sign ++ "=" ≠ "=" := by decide
  rw [assigned, if_neg (hall op h), ofAssignSign?_sign h]
  rfl

theorem assignSign_mem {op : BinaryOp} (h : op ∈ assigning) : op.sign ++ "=" ∈ signs := by
  have hall : ∀ op ∈ assigning, op.sign ++ "=" ∈ signs := by decide
  exact hall op h

end BinaryOp

/-- An assignment as a statement: the name that it changes, and the value that it gives it. -/
def readAssignment (s : String) : Option (String × Expr) := do
  match ← lex s with
  | .word x :: .sign a :: ts =>
    if x ∈ reserved ∨ ts.getLast? ≠ some (.sign ";") then none
    else return (x, ← assigned x a (← read ts.dropLast))
  | _ => none

example : (readAssignment "x -= a - b;").isSome = true := by decide +kernel

theorem readAssignment_iff {s x a : String} {ts : List Token} {v : Expr}
    (hlex : lex s = some (.word x :: .sign a :: (ts ++ [.sign ";"]))) (hx : x ∉ reserved) :
    readAssignment s = some (x, v) ↔ ∃ e, Derives 0 ts e ∧ assigned x a e = some v := by
  have hread : readAssignment s = (read ts).bind fun e => (assigned x a e).map fun v => (x, v) := by
    simp only [readAssignment, hlex, Option.bind_eq_bind, Option.bind_some, hx, false_or, ne_eq,
      List.getLast?_append, List.getLast?_singleton, Option.some_or, not_true_eq_false, if_false,
      List.dropLast_concat, Option.pure_def]
    refine Option.bind_congr fun e _ => ?_
    cases assigned x a e <;> rfl
  simp [hread, Option.bind_eq_some_iff, ← read_iff]

theorem lex_assignment {p : Prop} {x a t : String} {ts : List Token} (hx : Token.isName x = true)
    (ha : a ∈ signs) (ht : Lexes p t.toList ts) (hp : p) :
    lex (x ++ " " ++ a ++ " " ++ t ++ ";") = some (.word x :: .sign a :: (ts ++ [.sign ";"])) := by
  have hall := (lexes_spaced (lexes_word hx) ha ht [';'] (stops_cons (by decide) [])).1 ⟨trivial, hp⟩
  have hend : lexFrom none [';'] = some [.sign ";"] := by decide +kernel
  simpa [lex, hend] using hall

end Transpile.Reading

namespace Transpile.Grouping

open Source (Tree Op Kind)
open Script Walk Reading

/-- The operators between two operands of the source, all but the product of matrices. -/
inductive Update where
  | power
  | floorDiv
  | between (op : BinaryOp) (known : family op = .arithmetic ∨ family op = .bits)

namespace Update

def op : Update → Op
  | power => .pow
  | floorDiv => .floorDiv
  | between op _ => source op

/-- The operator between its operands. -/
def term (l r : Term) : Update → Term
  | power => .power l r
  | floorDiv => .floorDiv l r
  | between op _ => .binary op l r

def isBits : Update → Bool
  | between op _ => family op = .bits
  | _ => false

/-- The source tree of the assignment. -/
def tree (use ctx : Tree) (x : Name) (u : Update) (v : Term) : Tree :=
  .node .augAssign [.node .name [.text x.text, use], .node (.op u.op) [], v.tree ctx]

/-- The sign between the target and the value of what is written. -/
def sign : Update → String
  | between op _ => op.sign ++ "="
  | _ => "="

def value (x : Name) (v : Term) : Update → String
  | power => callText (mathText "pow") [x.text, v.text false]
  | floorDiv => callText (mathText "floor") [infixText x.text .div (v.text false)]
  | between _ _ => v.text false

def valueTokens (x : Name) (v : Term) : Update → List Token
  | power => callTokens (mathTokens "pow") [[.word x.text], v.tokens false]
  | floorDiv => callTokens (mathTokens "floor") [infixTokens [.word x.text] .div (v.tokens false)]
  | between _ _ => v.tokens false

end Update

/-! Reading -/

namespace Update

variable (x : Name) {v : Term} (u : Update)

/-- Lexed as if the name and the value were arguments that stand alone. -/
theorem lexes_value (hclean : v.isClean false = true) :
    Lexes True (u.value x v).toList (u.valueTokens x v) := by
  have hx : Lexes True x.text.toList [.word x.text] := lexes_word x.isName
  have hv : Lexes True (v.text false).toList (v.tokens false) :=
    (lexes_text v false).congr (iff_true_intro hclean)
  cases u with
  | power =>
    have hargs : ∀ a ∈ [(x.text, [Token.word x.text]), (v.text false, v.tokens false)],
        Lexes True a.1.toList a.2 := by simpa using ⟨hx, hv⟩
    have hm : Token.isName "pow" = true := by decide
    have hcall := lexes_math hm (lexes_args hargs)
    rw [value, toList_callText]
    exact hcall.congr (by simp)
  | floorDiv =>
    have hinfix := lexes_between hx .div hv
    have hargs : ∀ _ ∈ [()], Lexes (True ∧ True) (infixText x.text .div (v.text false)).toList
        (infixTokens [.word x.text] .div (v.tokens false)) := fun _ _ => hinfix
    have hm : Token.isName "floor" = true := by decide
    have hcall := lexes_math hm (lexes_args hargs)
    rw [value, toList_callText]
    exact hcall.congr (by simp)
  | between op known => exact hv

end Update

/-- An operator between two operands. -/
def Term.isInfix : Term → Bool
  | .binary .. => true
  | _ => false

/-- Right of a division a value is not put in parentheses, so it has to bind more tightly. -/
theorem fits_right_iff {v : Term} (hv : v.isArithmetic = true) :
    v.fits false (BinaryOp.div.level + 1) = true ↔ v.isInfix = false := by
  have hfits : v.fits false 0 = true := Term.fits_of_isArithmetic hv (.inr rfl)
  cases v with
  | unary s x => cases hv
  | binary op l r =>
    have hlevel := op.level_le
    have hdiv : ¬ BinaryOp.div.level + 1 ≤ op.level := by
      change ¬ 10 + 1 ≤ op.level
      omega
    simp [Term.fits, Term.isInfix, hdiv]
  | _ => exact iff_of_true hfits rfl

/-- Between its operands the operator needs no parentheses that it does not get. -/
theorem Update.reads_back (x : Name) (u : Update) {v : Term} (hv : v.isArithmetic = true) :
    (u.term (.name x) v).fits false 0 = true ∧ (u.term (.name x) v).isClean false = true := by
  have hfits (n : Nat) : v.fits true n = true := Term.fits_of_isArithmetic hv (.inl rfl)
  have hclean : v.isClean true = true := Term.isClean_of_isArithmetic hv true
  cases u with
  | between op known =>
    have hopens : opens op = true := by cases op <;> first | rfl | simp [family] at known
    simp [Update.term, Term.fits, Term.isClean, hopens, hfits, hclean]
  | _ => simp [Update.term, Term.fits, Term.isClean, hfits, hclean]

theorem mem_assigning {op : BinaryOp} (known : family op = .arithmetic ∨ family op = .bits) :
    op ∈ BinaryOp.assigning := by
  cases op <;> first | decide | simp [family] at known

/-- What is written for the value gives the target the meaning of the operator, unless the value is
taken apart by a division. -/
theorem readAssignment_value_iff (x : Name) (u : Update) {v : Term} (hv : v.isArithmetic = true) :
    readAssignment (x.text ++ " " ++ u.sign ++ " " ++ u.value x v ++ ";") =
        some (x.text, (u.term (.name x) v).script) ↔
      (u = .floorDiv → v.isInfix = false) := by
  have hsign : u.sign ∈ signs := by
    cases u with
    | between op known => exact BinaryOp.assignSign_mem (mem_assigning known)
    | _ => decide
  have hclean := Term.isClean_of_isArithmetic hv false
  have hx : Derives 0 [.word x.text] (.name x.text) := .name x.free
  have hvalue : Derives 0 (v.tokens false) v.script :=
    (derives_tokens_iff v false (Nat.zero_le _)).2 (Term.fits_of_isArithmetic hv (.inr rfl))
  rw [readAssignment_iff (lex_assignment x.isName hsign (u.lexes_value x hclean) trivial) x.free]
  cases u with
  | power =>
    have hcall := (derives_call_iff (callee_math "pow") (Nat.zero_le _) [.name x, v]
      fun a _ => weight_tokens a false).2 (by simpa using ⟨hx, hvalue⟩)
    exact iff_of_true ⟨_, hcall, rfl⟩ nofun
  | floorDiv =>
    have hdiv := weight_between .div (weight_tokens (.name x) false) (weight_tokens v false)
    have hcall : Derives 0 (Update.floorDiv.valueTokens x v)
        (Update.floorDiv.term (.name x) v).script ↔ v.isInfix = false := by
      refine (derives_call_iff (callee_math "floor") (Nat.zero_le _) [()] fun _ _ => hdiv).trans ?_
      rw [List.forall_mem_singleton, derives_between_iff (balanced_tokens (.name x) false)
        (weight_tokens (.name x) false), derives_tokens_iff v false (by decide), fits_right_iff hv]
      exact ⟨fun h => h.2.2, fun h => ⟨by decide, .name x.free, h⟩⟩
    rw [← hcall]
    exact ⟨fun ⟨e, he, hsome⟩ _ => Option.some.inj hsome ▸ he, fun h => ⟨_, h rfl, rfl⟩⟩
  | between op known =>
    exact iff_of_true ⟨_, hvalue, BinaryOp.assigned_sign (mem_assigning known) _ _⟩ nofun

/-! The walk -/

section

variable {o : Options} {ops : Stack Kind} {use ctx : Tree}

/-- The fields of the assignment: the target, the operator's text if it has one, and the value. -/
theorem gives_update_fields (ho : o.camelCase = false) (huse : IsUse use) (hctx : IsUse ctx)
    (hops : ops.isEmpty = true) (x : Name) (u : Update) (v : Term) :
    Gives o Unguarded ops (gather resultsOf (walkAll [.node .name [.text x.text, use],
      .node (.op u.op) [], v.tree ctx])) fun cs => ∃ r, Written (v.text false) r ∧
        cs = word x.text :: ((operatorText u.op).map Walk.text).toList ++ [r] := by
  have hI := unguarded_stable
  have hname : Gives o Unguarded ops (visit (.node .name [.text x.text, use])) (· = word x.text) := by
    refine (gives_name hI x.plain huse).mono fun p hp => hp.trans ?_
    rw [nameIn, ho]
    rfl
  have hv := walks_term hI ho hctx v ops
  rw [hops] at hv
  refine (gives_fields (yields_one rfl (fun p (hp : p = _) => by rw [hp]; rfl) hname) (gives_fields
    (yields_operator hI u.op) (gives_fields (yields_one (isNode_tree ctx v)
    (fun p hp => hp.1.spliced) hv) gives_no_fields))).mono ?_
  rintro _ ⟨_, _, rfl, ⟨l, rfl, rfl⟩, _, _, rfl, rfl, _, _, rfl, ⟨r, hr, rfl⟩, rfl⟩
  exact ⟨r, hr, by simp⟩

/-- Other operators than the two functions are taken from the second result. -/
theorem augmentRule_eq (op : BinaryOp) (cs : List Piece) :
    augmentRule (.node (.op (source op)) []) cs = (do
      let target ← child cs 0
      let o ← child cs 1
      let value ← child cs 2
      let target ← if isIdentifier target then Walk.bind target else pure target
      match o with
      | .text s => return statement (assignTo (s ++ "=") target value)
      | _ => throw .wrongType) := by
  cases op <;> rfl

theorem gives_update (ho : o.camelCase = false) (huse : IsUse use) (hctx : IsUse ctx)
    (hops : ops.isEmpty = true) (x : Name) {u : Update} (hbits : u.isBits = false) (v : Term) :
    Gives o Unguarded ops (visit (u.tree use ctx x v)) fun p => ∀ unit level, Prints unit level p
      (x.text ++ " " ++ u.sign ++ " " ++ u.value x v ++ ";") := by
  refine gives_node unguarded_stable rfl rfl (gives_update_fields ho huse hctx hops x u v) ?_
  rintro _ ⟨r, hr, rfl⟩
  change Gives o Unguarded ops (augmentRule _ _) _
  have hx := written_word x.text
  cases u with
  | power =>
    have hcall := written_call (written_math "pow") (.cons hx (.cons hr .nil))
    refine gives_bind_eq (gives_child rfl) (gives_bind_eq (gives_operatorOf _ _) ?_)
    exact gives_bind_eq (gives_bind_eq (gives_child rfl) (gives_pure rfl)) (gives_pure fun unit level =>
      prints_statement (prints_assign (hx.2 _ _) (hcall.2 _ _) (by decide) {}))
  | floorDiv =>
    have hcall := written_call (written_math "floor") (.cons (written_binary hx hr .div false) .nil)
    refine gives_bind_eq (gives_child rfl) (gives_bind_eq (gives_operatorOf _ _) ?_)
    exact gives_bind_eq (gives_bind_eq (gives_child rfl) (gives_pure rfl)) (gives_pure fun unit level =>
      prints_statement (prints_assign (hx.2 _ _) (hcall.2 _ _) (by decide) {}))
  | between op known =>
    have harith : family op = .arithmetic :=
      known.resolve_right (by simpa [Update.isBits] using hbits)
    have hsign : operatorText (source op) = some op.sign := by
      cases op <;> first | rfl | simp [family] at harith
    have hcolon : op.sign ++ "=" ≠ ":" := by cases op <;> decide
    rw [Update.op, augmentRule_eq, hsign]
    refine gives_bind_eq (gives_child rfl) (gives_bind_eq (gives_child rfl)
      (gives_bind_eq (gives_child rfl) (gives_bind (gives_bind_eq gives_need (gives_bindForm _ _ _)) ?_)))
    rintro _ ⟨m, rfl⟩
    exact gives_pure fun unit level =>
      prints_statement (prints_assign (prints_ident _ _) (hr.2 _ _) hcolon {})

theorem refuses_update (ho : o.camelCase = false) (huse : IsUse use) (hctx : IsUse ctx)
    (hops : ops.isEmpty = true) (x : Name) {u : Update} (hbits : u.isBits = true) (v : Term) :
    Refuses o Unguarded ops (visit (u.tree use ctx x v)) := by
  refine refuses_node unguarded_stable rfl rfl (gives_update_fields ho huse hctx hops x u v) ?_
  rintro _ ⟨r, hr, rfl⟩
  change Refuses o Unguarded ops (augmentRule _ _)
  cases u with
  | between op known =>
    -- The operator is not among the results, so the value stands in its place and none in the third.
    have hsign : operatorText (source op) = none := by
      cases op <;> first | rfl | simp [Update.isBits, family] at hbits
    rw [Update.op, augmentRule_eq, hsign]
    exact refuses_bind (gives_child rfl) fun _ _ => refuses_bind (gives_child rfl) fun _ _ =>
      refuses_child rfl _
  | _ => cases hbits

end

/-- The operator between the name and the value is always written, and reads back as an operator
tree. An assignment with the same operator is written and gives the name the same tree exactly if the
operator is not one of bits, and the value is no operator between two operands where the quotient by it
is rounded down. -/
theorem augmented_reads_back_iff {o : Options} (ho : o.camelCase = false) {use ctx : Tree}
    (huse : IsUse use) (hctx : IsUse ctx) {s : State} (hs : Ready s) (hfree : Unguarded s)
    (hops : s.operators.isEmpty = true) (x : Name) (u : Update) {v : Term}
    (hv : v.isArithmetic = true) :
    ∃ p s1 plain e, run (visit ((u.term (.name x) v).statement ctx)) o s = (.ok p, s1) ∧
      (∀ width level, p.renderAt width level = (.ok (.text plain), level)) ∧
      readStatement plain = some e ∧
      ((∃ q s2 text, run (visit (u.tree use ctx x v)) o s = (.ok q, s2) ∧
          (∀ width level, q.renderAt width level = (.ok (.text text), level)) ∧
          readAssignment text = some (x.text, e)) ↔
        u.isBits = false ∧ (u = .floorDiv → v.isInfix = false)) := by
  obtain ⟨p, s1, hrun, hp⟩ := renders_statement ho hctx hs hops (u.term (.name x) v)
  refine ⟨p, s1, _, _, hrun, hp, (readStatement_text_iff _).2 (u.reads_back x hv), ?_⟩
  constructor
  · rintro ⟨q, s2, text, hq, htext, hread⟩
    have hbits : u.isBits = false := by
      by_contra hbits
      exact refuses_update ho huse hctx hops x (by simpa using hbits) v s ⟨hs, hfree, rfl⟩ q s2 hq
    obtain ⟨q', s2', hq', -, hprint⟩ := gives_update ho huse hctx hops x hbits v s ⟨hs, hfree, rfl⟩
    rw [hq] at hq'
    cases hq'
    have hsame := (hprint _ 0).symm.trans (htext 0 0)
    cases hsame
    exact ⟨hbits, (readAssignment_value_iff x u hv).1 hread⟩
  · rintro ⟨hbits, hvalue⟩
    obtain ⟨q, s2, hq, -, hprint⟩ := gives_update ho huse hctx hops x hbits v s ⟨hs, hfree, rfl⟩
    exact ⟨q, s2, _, hq, fun width level => hprint _ level, (readAssignment_value_iff x u hv).2 hvalue⟩

/-- `a //= a + b` -/
theorem floorDivSum_not_read_back :
    IsUse (.node (.use .store) []) ∧ IsUse (.node (.use .load) []) ∧ Ready {} ∧ Unguarded {} ∧
    ({} : State).operators.isEmpty = true ∧
    (Term.binary .add (.name nameA) (.name nameB)).isArithmetic = true ∧
    ∃ p s1 plain e, run (visit ((Update.floorDiv.term (.name nameA)
        (.binary .add (.name nameA) (.name nameB))).statement (.node (.use .load) []))) {} {} =
          (.ok p, s1) ∧
      (∀ width level, p.renderAt width level = (.ok (.text plain), level)) ∧
      readStatement plain = some e ∧
      ¬ ∃ q s2 text, run (visit (Update.floorDiv.tree (.node (.use .store) []) (.node (.use .load) [])
          nameA (.binary .add (.name nameA) (.name nameB)))) {} {} = (.ok q, s2) ∧
        (∀ width level, q.renderAt width level = (.ok (.text text), level)) ∧
        readAssignment text = some ("a", e) := by
  obtain ⟨p, s1, plain, e, hrun, hp, hread, hiff⟩ := augmented_reads_back_iff (o := {}) rfl
    (.use .store) (.use .load) ready_start rfl rfl nameA .floorDiv
    (show (Term.binary .add (.name nameA) (.name nameB)).isArithmetic = true from rfl)
  refine ⟨.use .store, .use .load, ready_start, rfl, rfl, rfl, p, s1, plain, e, hrun, hp, hread, ?_⟩
  rintro ⟨q, s2, text, h⟩
  have hvalue := (hiff.1 ⟨q, s2, text, h⟩).2 rfl
  cases hvalue

end Transpile.Grouping
