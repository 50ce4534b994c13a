import Transpile.Proofs.Grouping.Term

/-! Operators between more than two operands. A tree of binary operators is written word by word: the
operands and the operators between them, from left to right. Main statement: of names that are joined by
logic or by comparisons, all are written with all their operators exactly if there are two of them. -/

namespace Transpile.Script

mutual

/-- What is written for the operands and operators of a tree of binary operators, in order. -/
def Piece.words : Piece → List String
  | .node f m => f.words m
  | p => ["GEN: " ++ p.quoted]

def Form.words (f : Form) (m : Marks) : List String :=
  match f with
  | .binary op l r => l.words ++ op.shown :: r.words
  | .leaf .null _ => ["null"]
  | .leaf _ v => [v.shown]
  | f => [f.quoted m]

end

theorem words_inParens (p : Piece) : p.inParens.words = p.words := by
  cases p with
  | node f m =>
    cases f with
    | leaf k v => cases k <;> rfl
    | _ => rfl
  | _ => rfl

end Transpile.Script

namespace Transpile.Walk

open Source (Tree Op Kind)
open Script Grouping

inductive Logic where
  | and | or
  deriving DecidableEq, Repr

inductive Order where
  | is | eq | notEq | lt | ltE | gt | gtE
  deriving DecidableEq, Repr

def Logic.op : Logic → Op
  | and => .and
  | or => .or

def Logic.sign : Logic → String
  | and => "&&"
  | or => "||"

def Order.op : Order → Op
  | is => .is
  | eq => .eq
  | notEq => .notEq
  | lt => .lt
  | ltE => .ltE
  | gt => .gt
  | gtE => .gtE

def Order.sign : Order → String
  | is | eq => "==="
  | notEq => "!=="
  | lt => "<"
  | ltE => "<="
  | gt => ">"
  | gtE => ">="

theorem Logic.operatorText_op (op : Logic) : operatorText op.op = some op.sign := by
  cases op <;> rfl

theorem Order.operatorText_op (op : Order) : operatorText op.op = some op.sign := by
  cases op <;> rfl

/-- Names with operators between them: two or more under one operator of logic, or one or more
comparisons in a row. -/
inductive Chain where
  | logic (op : Logic) (x y : String) (zs : List String)
  | order (x : String) (op : Order) (y : String) (rest : List (Order × String))

namespace Chain

def operands : Chain → List String
  | logic _ x y zs => x :: y :: zs
  | order x _ y rest => x :: y :: rest.map Prod.snd

/-- The operator between each two operands. -/
def signs : Chain → List String
  | logic op _ _ zs => List.replicate (zs.length + 1) op.sign
  | order _ op _ rest => op.sign :: rest.map fun e => e.1.sign

def isLogic : Chain → Bool
  | logic .. => true
  | order .. => false

/-- The source tree, with the given field for the use of names. -/
def tree (ctx : Tree) : Chain → Tree
  | logic op x y zs =>
    .node .boolOp [.node (.op op.op) [],
      .list ((x :: y :: zs).map fun n => .node .name [.text n, ctx])]
  | order x op y rest =>
    .node .compare [.node .name [.text x, ctx],
      .list ((op :: rest.map Prod.fst).map fun op => .node (.op op.op) []),
      .list ((y :: rest.map Prod.snd).map fun n => .node .name [.text n, ctx])]

end Chain

/-- What a name is written as. -/
def nameText (o : Options) : String → String
  | "None" => "null"
  | "True" => "true"
  | "False" => "false"
  | n => nameIn o n

/-- Operands with the operators between them. -/
def between : List String → List String → List String
  | x :: xs, op :: ops => x :: op :: between xs ops
  | xs, _ => xs

theorem length_between {xs ops : List String} (h : xs.length = ops.length + 1) :
    (between xs ops).length = xs.length + ops.length := by
  induction ops generalizing xs with
  | nil => cases xs <;> rfl
  | cons op ops ih =>
    cases xs with
    | nil => cases h
    | cons x xs =>
      rw [between, List.length_cons, List.length_cons, ih (by simpa using h)]
      simp only [List.length_cons]
      omega

theorem Chain.length_operands (c : Chain) : c.operands.length = c.signs.length + 1 := by
  cases c <;> simp [operands, signs]

theorem words_binary (op : String) (l r : Piece) :
    (binary op l r).words = l.words ++ op :: r.words := rfl

theorem words_wrapped (inner : Bool) (p : Piece) : (wrapped inner p).words = p.words := by
  cases inner
  · rfl
  · exact words_inParens p

theorem prints_wrapped {unit : String} {level : Nat} {l r : Piece} {a b : String}
    (hl : Prints unit level l a) (hr : Prints unit level r b) (op : String) (inner : Bool) :
    Prints unit level (wrapped inner (binary op l r))
      (parens inner (" ".intercalate [a, op, b])) := by
  cases inner
  · exact prints_binary hl hr op {}
  · exact prints_binary hl hr op { parens := true }

/-- A form that is one word. -/
def IsWord (w : String) (p : Piece) : Prop := Written w p ∧ p.words = [w]

section

variable {o : Options} {I : State → Prop} {ops : Stack Kind} (hI : Stable I)
include hI

theorem gives_nameText {ctx : Tree} (hctx : IsUse ctx) (n : String) :
    Gives o I ops (visit (.node .name [.text n, ctx])) (IsWord (nameText o n)) := by
  refine gives_node hI rfl rfl (gives_fields (yields_atom _) (gives_fields (yields_use hI hctx)
    gives_no_fields)) fun cs _ => ?_
  have constant (k : Leaf) (w v : String) (hw : ∀ unit level, Prints unit level (leaf k v) w)
      (hwords : (leaf k v).words = [w]) : Gives o I ops (pure (leaf k v)) (IsWord w) :=
    gives_pure ⟨⟨isForm_piece (by simp), hw⟩, hwords⟩
  change Gives o I ops (nameRule (.text n)) _
  unfold nameRule
  refine gives_bind_eq (gives_atomField _) ?_
  split
  · next h =>
    cases h
    exact constant .null "null" "None" (fun _ _ => rfl) rfl
  · next h =>
    cases h
    exact constant .boolean "true" "true" (fun _ _ => rfl) rfl
  · next h =>
    cases h
    exact constant .boolean "false" "false" (fun _ _ => rfl) rfl
  · next h1 h2 h3 =>
    have htext : nameText o n = nameIn o n := by
      unfold nameText
      split
      · exact absurd rfl h1
      · exact absurd rfl h2
      · exact absurd rfl h3
      · rfl
    rw [htext]
    refine (gives_sourceName n).mono ?_
    rintro _ rfl
    exact ⟨written_word _, rfl⟩

/-- The operands and the operators of a comparison are in separate lists, so the second operand is
taken from where a second operator is, if there is one. -/
theorem gives_order {α : Type} {f : α → Tree} {x : Tree} (hx : x.isNode = true) {P : Piece → Prop}
    (hP : ∀ p, P p → IsForm p) (hleft : Gives o I ops (visit x) P) (op : Order) (rest : List Order)
    {ys : List α} {Q : α → Piece → Prop} (hQ : ∀ y p, Q y p → IsForm p)
    (hright : ∀ y ∈ ys, (f y).isNode = true ∧ Gives o I ops (visit (f y)) (Q y)) (hys : ys ≠ []) :
    Gives o I ops (visit (.node .compare [x, .list ((op :: rest).map fun op => .node (.op op.op) []),
      .list (ys.map f)])) fun p => ∃ l rs r, P l ∧ List.Forall₂ Q ys rs ∧
        (rest.map (fun op => text op.sign) ++ rs)[0]? = some r ∧ p = binary op.sign l r := by
  have hops : Yields o I ops (.list ((op :: rest).map fun op => .node (.op op.op) []))
      (List.Forall₂ (fun op p => p = text op.sign) (op :: rest)) := by
    refine yields_each (fun op p hp => hp ▸ rfl) fun op _ => ⟨rfl, ?_⟩
    refine (gives_operator hI op.op).mono fun p hp => hp.trans ?_
    rw [op.operatorText_op]
    rfl
  refine gives_node hI rfl rfl (gives_fields (yields_one hx (fun p hp => (hP p hp).spliced) hleft)
    (gives_fields hops (gives_fields (yields_each (fun y p hp => (hQ y p hp).spliced) hright)
    gives_no_fields))) ?_
  rintro _ ⟨_, _, rfl, ⟨l, hl, rfl⟩, texts, _, rfl, htexts, rs, _, rfl, hrs, rfl⟩
  obtain rfl := eq_map_of_forall₂ htexts
  obtain ⟨r, hr⟩ : ∃ r, (rest.map (fun op => text op.sign) ++ rs)[0]? = some r := by
    refine ⟨_, List.getElem?_eq_getElem ?_⟩
    have := List.length_pos_iff.2 hys
    rw [hrs.length_eq] at this
    simp only [List.length_append]
    omega
  refine gives_bind_eq (gives_child rfl) (gives_bind_eq (gives_child rfl)
    (gives_bind_eq (gives_child (p := r) ?_) (gives_pure ⟨l, rs, r, hl, hrs, hr, rfl⟩)))
  simpa using hr

/-- One word is written for all that is right of the first operator. -/
theorem gives_chain {ctx : Tree} (hctx : IsUse ctx) (c : Chain) :
    Gives o I ops (visit (c.tree ctx)) fun p => ∃ x op y zs rest w,
      c.operands = x :: y :: zs ∧ c.signs = op :: rest ∧ p.words = [nameText o x, op, w] ∧
        (rest = [] → w = nameText o y) ∧ ∀ unit level, Prints unit level p
          (parens (c.isLogic && !ops.isEmpty) (" ".intercalate [nameText o x, op, w])) := by
  have hword (ops : Stack Kind) (n : String) : (Source.Tree.node .name [.text n, ctx]).isNode = true ∧
      Gives o I ops (visit (.node .name [.text n, ctx])) (IsWord (nameText o n)) :=
    ⟨rfl, gives_nameText hI hctx n⟩
  cases c with
  | logic op x y zs =>
    have htwo : 2 ≤ (x :: y :: zs).length := by simp
    refine (gives_bool hI op.operatorText_op htwo (fun n p hp => hp.1.1) fun n _ => hword _ n).mono ?_
    rintro _ ⟨l, r, rs, _ | ⟨hl, _ | ⟨hr, _⟩⟩, rfl⟩
    refine ⟨x, op.sign, y, zs, _, nameText o y, rfl, rfl, ?_, fun _ => rfl, fun unit level => ?_⟩
    · rw [words_wrapped, words_binary, hl.2, hr.2]
      rfl
    · exact prints_wrapped (hl.1.2 _ _) (hr.1.2 _ _) _ _
  | order x op y rest =>
    refine (gives_order hI rfl (fun p hp => hp.1.1) (hword _ x).2 op (rest.map Prod.fst)
      (fun n p hp => hp.1.1) (fun n _ => hword _ n) (List.cons_ne_nil _ _)).mono ?_
    rintro _ ⟨l, rs, r, hl, hall, hr, rfl⟩
    obtain ⟨w, hrw, hw, hprint⟩ : ∃ w, r.words = [w] ∧ (rest = [] → w = nameText o y) ∧
        ∀ unit level, Prints unit level r w := by
      cases rest with
      | nil =>
        rcases hall with _ | ⟨hy, _⟩
        cases hr
        exact ⟨_, hy.2, fun _ => rfl, hy.1.2⟩
      | cons e rest =>
        cases hr
        exact ⟨_, rfl, nofun, fun _ _ => rfl⟩
    refine ⟨x, op.sign, y, _, _, w, rfl, rfl, ?_, fun h => hw (List.map_eq_nil_iff.1 h), ?_⟩
    · rw [words_binary, hl.2, hrw]
      rfl
    · exact fun unit level => prints_wrapped (hl.1.2 _ _) (hprint _ _) op.sign false

end

/-- Names that are joined by logic or by comparisons are always written, as words with blanks between
them, and in parentheses if it is logic inside an operator. All the names and all the operators between
them are written, in order, exactly if there is one operator. -/
theorem operands_kept_iff (c : Chain) {ctx : Tree} (hctx : IsUse ctx) {o : Options} {s : State}
    (hs : Ready s) : ∃ p s', run (visit (c.tree ctx)) o s = (.ok p, s') ∧
      (∀ width level, p.renderAt width level = (.ok (.text
        (parens (c.isLogic && !s.operators.isEmpty) (" ".intercalate p.words))), level)) ∧
      ((between (c.operands.map (nameText o)) c.signs).Sublist p.words ↔ c.signs.length = 1) := by
  obtain ⟨p, s', hrun, -, x, op, y, zs, rest, w, hxs, hops, hp, hw, hprint⟩ :=
    gives_chain stable_true (o := o) hctx c s ⟨hs, trivial, rfl⟩
  refine ⟨p, s', hrun, fun width level => ?_, fun h => ?_, fun h => ?_⟩
  · rw [hp]
    exact hprint _ level
  · have hlen := h.length_le
    have hcount := c.length_operands
    rw [length_between (by simpa using hcount), List.length_map, hp, hcount, List.length_cons,
      List.length_cons, List.length_singleton] at hlen
    have : 0 < c.signs.length := by simp [hops]
    omega
  · have hcount := c.length_operands
    rw [h, hxs] at hcount
    rw [hops] at h
    obtain rfl := List.eq_nil_of_length_eq_zero (Nat.succ.inj h)
    obtain rfl := List.eq_nil_of_length_eq_zero (Nat.succ.inj (Nat.succ.inj hcount))
    rw [hp, hxs, hops, hw rfl]
    exact List.Sublist.refl _

theorem thirdOperand_not_kept : IsUse (.node (.use .load) []) ∧ Ready {} ∧
    ∃ p s', run (visit ((Chain.logic .and "a" "b" ["c"]).tree (.node (.use .load) []))) {} {} =
      (.ok p, s') ∧ ¬["a", "&&", "b", "&&", "c"].Sublist p.words := by
  obtain ⟨p, s', hrun, -, hkept⟩ := operands_kept_iff (.logic .and "a" "b" ["c"]) (.use .load)
    (o := {}) ready_start
  exact ⟨.use .load, ready_start, p, s', hrun, fun h => absurd (hkept.1 h) (by decide)⟩

end Transpile.Walk
