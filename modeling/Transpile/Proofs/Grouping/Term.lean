import Transpile.Proofs.Expressions
import Transpile.Proofs.Printing
import Transpile.Proofs.Reading.Grammar

/-! Terms of operators: names, numbers, calls of names, and operators that both languages know. A
term has a source tree, the text that is written for it, and the script expression that it means.
Main statement: the walk over the tree gives a form that is rendered as the text. -/

namespace Transpile.Grouping

open Source (Tree Op Kind)
open Script Walk Reading

/-- A name that has no meaning of its own on either side. -/
structure Name where
  text : String
  isName : Token.isName text = true
  free : text ∉ reserved
  plain : text ∉ ["None", "True", "False"]

/-- Signs before an operand. -/
inductive Sign where
  | minus | plus | not | invert
  deriving DecidableEq, Repr

def Sign.op : Sign → UnaryOp
  | minus => .minus
  | plus => .plus
  | not => .not
  | invert => .invert

def Sign.source : Sign → Op
  | minus => .uSub
  | plus => .uAdd
  | not => .not
  | invert => .invert

inductive Family where
  | arithmetic | logic | bits | order
  deriving DecidableEq, Repr

def family : BinaryOp → Family
  | .add | .sub | .mult | .div | .mod => .arithmetic
  | .and | .or => .logic
  | .bitOr | .bitXor | .bitAnd | .shiftLeft | .shiftRight => .bits
  | .same | .differ | .less | .atMost | .greater | .atLeast => .order

def source : BinaryOp → Op
  | .or => .or
  | .and => .and
  | .bitOr => .bitOr
  | .bitXor => .bitXor
  | .bitAnd => .bitAnd
  | .same => .eq
  | .differ => .notEq
  | .less => .lt
  | .atMost => .ltE
  | .greater => .gt
  | .atLeast => .gtE
  | .shiftLeft => .lShift
  | .shiftRight => .rShift
  | .add => .add
  | .sub => .sub
  | .mult => .mult
  | .div => .div
  | .mod => .mod

inductive Term where
  | name (n : Name)
  | number (n : Nat)
  | call (f : Name) (args : List Term)
  | unary (s : Sign) (x : Term)
  | power (l r : Term)
  | floorDiv (l r : Term)
  | binary (op : BinaryOp) (l r : Term)

def binaryTree (op : BinaryOp) (l r : Tree) : Tree :=
  let o := .node (.op (source op)) []
  match family op with
  | .arithmetic | .bits => .node .binOp [l, o, r]
  | .logic => .node .boolOp [o, .list [l, r]]
  | .order => .node .compare [l, .list [o], .list [r]]

/-- Operators that are put in parentheses inside the operands of others. -/
def wraps (op : BinaryOp) : Bool := family op = .arithmetic || family op = .logic

/-- Operators inside whose operands others are put in parentheses. -/
def opens (op : BinaryOp) : Bool := family op ≠ .order

def parens (inner : Bool) (s : String) : String := if inner then "(" ++ s ++ ")" else s

def callText (f : String) (args : List String) : String := f ++ "(" ++ ", ".intercalate args ++ ")"

def infixText (a : String) (op : BinaryOp) (b : String) : String := a ++ " " ++ op.sign ++ " " ++ b

def mathText (m : String) : String := "Math" ++ "." ++ m

/-- A function of the global object for mathematics. -/
def math (m : String) : Expr := .member (.name "Math") m

namespace Term

mutual

/-- The source tree, with the given field for the use of names. -/
def tree (ctx : Tree) : Term → Tree
  | .name n => .node .name [.text n.text, ctx]
  | .number n => .node .num [.atom (.number (toString n))]
  | .call f args => .node .call [.node .name [.text f.text, ctx], .list (treeAll ctx args), .list []]
  | .unary s x => .node .unaryOp [.node (.op s.source) [], x.tree ctx]
  | .power l r => .node .binOp [l.tree ctx, .node (.op .pow) [], r.tree ctx]
  | .floorDiv l r => .node .binOp [l.tree ctx, .node (.op .floorDiv) [], r.tree ctx]
  | .binary op l r => binaryTree op (l.tree ctx) (r.tree ctx)

def treeAll (ctx : Tree) : List Term → List Tree
  | [] => []
  | t :: ts => t.tree ctx :: treeAll ctx ts

end

mutual

/-- The text that is written for the term, inside the operands of an operator or not. -/
def text (inner : Bool) : Term → String
  | .name n => n.text
  | .number n => toString n
  | .call f args => callText f.text (textAll inner args)
  | .unary s x => s.op.sign ++ x.text inner
  | .power l r => callText (mathText "pow") [l.text true, r.text true]
  | .floorDiv l r => callText (mathText "floor") [infixText (l.text true) .div (r.text true)]
  | .binary op l r =>
    parens (wraps op && inner) (infixText (l.text (opens op || inner)) op (r.text (opens op || inner)))

def textAll (inner : Bool) : List Term → List String
  | [] => []
  | t :: ts => t.text inner :: textAll inner ts

end

mutual

/-- The script expression that the term means. -/
def script : Term → Expr
  | .name n => .name n.text
  | .number n => .number (toString n)
  | .call f args => .call (.name f.text) (scriptAll args)
  | .unary s x => .unary s.op x.script
  | .power l r => .call (math "pow") [l.script, r.script]
  | .floorDiv l r => .call (math "floor") [.binary .div l.script r.script]
  | .binary op l r => .binary op l.script r.script

def scriptAll : List Term → List Expr
  | [] => []
  | t :: ts => t.script :: scriptAll ts

end

theorem treeAll_eq (ctx : Tree) (ts : List Term) : treeAll ctx ts = ts.map (tree ctx) := by
  induction ts with
  | nil => rfl
  | cons t ts ih => rw [treeAll, ih]; rfl

theorem textAll_eq (inner : Bool) (ts : List Term) : textAll inner ts = ts.map (text inner) := by
  induction ts with
  | nil => rfl
  | cons t ts ih => rw [textAll, ih]; rfl

theorem scriptAll_eq (ts : List Term) : scriptAll ts = ts.map script := by
  induction ts with
  | nil => rfl
  | cons t ts ih => rw [scriptAll, ih]; rfl

theorem induction {P : Term → Prop} (name : ∀ n, P (.name n)) (number : ∀ n, P (.number n))
    (call : ∀ f args, (∀ a ∈ args, P a) → P (.call f args)) (unary : ∀ s x, P x → P (.unary s x))
    (power : ∀ l r, P l → P r → P (.power l r)) (floorDiv : ∀ l r, P l → P r → P (.floorDiv l r))
    (binary : ∀ op l r, P l → P r → P (.binary op l r)) (t : Term) : P t :=
  @Term.rec P (fun ts => ∀ t ∈ ts, P t) name number call unary power floorDiv binary (by simp)
    (fun t ts ht hts => by simpa using ⟨ht, hts⟩) t

end Term

/-! The walk and the text -/

/-- A form that is rendered as the text, at every level. -/
def Written (s : String) (p : Piece) : Prop := IsForm p ∧ ∀ unit level, Prints unit level p s

theorem written_word (s : String) : Written s (word s) :=
  ⟨isForm_piece (by simp), fun _ _ => prints_ident s {}⟩

theorem written_number (s : String) : Written s (leaf .number s) :=
  ⟨isForm_piece (by simp), fun _ _ => prints_number s⟩

theorem written_unary {a : String} {x : Piece} (s : Sign) (hx : Written a x) :
    Written (s.op.sign ++ a) (unaryPiece s.source x) := by
  have hop : unaryText (some s.source) = s.op.sign := by cases s <;> rfl
  have hword : s.op.sign ∉ ["delete", "void", "typeof"] := by cases s <;> decide
  refine ⟨isForm_piece (by simp), fun u l => ?_⟩
  unfold unaryPiece
  rw [hop]
  exact prints_unary (hx.2 u l) hword {}

theorem written_call {f : String} {x : Piece} {args : List String} {ys : List Piece}
    (hx : Written f x) (hys : List.Forall₂ Written args ys) :
    Written (callText f args) (callOf x ys) :=
  ⟨isForm_piece (by simp), fun u l =>
    prints_call (hx.2 u l) (List.Forall₂.flip (hys.imp fun _ _ h => h.2 u l)) {}⟩

theorem written_math (m : String) : Written (mathText m) (dot (word "Math") m) :=
  ⟨isForm_piece (by simp), fun _ _ => prints_dot (prints_ident _ _) (prints_ident _ _) {}⟩

theorem written_binary {a b : String} {x y : Piece} (hx : Written a x) (hy : Written b y)
    (op : BinaryOp) (inner : Bool) :
    Written (parens inner (infixText a op b)) (wrapped inner (Walk.binary op.sign x y)) := by
  cases inner with
  | false => exact ⟨isForm_piece (by simp), fun u l => prints_binary (hx.2 u l) (hy.2 u l) op.sign {}⟩
  | true =>
    refine ⟨(isForm_piece (by simp)).inParens, fun u l => ?_⟩
    exact prints_binary (hx.2 u l) (hy.2 u l) op.sign { parens := true }

theorem written_binaryPiece {op : BinaryOp} (hop : family op = .arithmetic ∨ family op = .bits)
    {a b : String} {x y : Piece} (hx : Written a x) (hy : Written b y) (inner : Bool) :
    Written (parens (wraps op && inner) (infixText a op b)) (binaryPiece (source op) inner x y) := by
  have hgroup := written_binary hx hy op inner
  have hbare := written_binary hx hy op false
  cases op <;> first | exact hgroup | exact hbare | simp [family] at hop

theorem isNode_tree (ctx : Tree) (t : Term) : (t.tree ctx).isNode = true := by
  cases t with
  | binary op l r => cases op <;> rfl
  | _ => rfl

section

variable {o : Options} {I : State → Prop} {ctx : Tree}

/-- The walk over the term gives its text, in the form that the open operators ask for. -/
def Walks (o : Options) (I : State → Prop) (ctx : Tree) (t : Term) : Prop :=
  ∀ ops, Gives o I ops (visit (t.tree ctx)) (Written (t.text (!ops.isEmpty)))

variable (hI : Stable I)
include hI

theorem gives_nameOf (ho : o.camelCase = false) (hctx : IsUse ctx) (n : Name) (ops : Stack Kind) :
    Gives o I ops (visit (.node .name [.text n.text, ctx])) (Written n.text) := by
  refine (gives_name hI n.plain hctx).mono ?_
  rintro _ rfl
  rw [nameIn, ho]
  exact written_word n.text

theorem walks_binOp {op : BinaryOp} (hop : family op = .arithmetic ∨ family op = .bits) {l r : Term}
    (hl : Walks o I ctx l) (hr : Walks o I ctx r) : Walks o I ctx (.binary op l r) := by
  intro ops
  have htree : (Term.binary op l r).tree ctx =
      .node .binOp [l.tree ctx, .node (.op (source op)) [], r.tree ctx] := by
    cases op <;> first | rfl | simp [family] at hop
  have hops : source op ∈ binaryOps := by
    cases op <;> first | decide | simp [family] at hop
  have hopens : opens op = true := by
    cases op <;> first | rfl | simp [family] at hop
  rw [htree, Term.text, hopens]
  refine (gives_binary hI hops (isNode_tree ctx l) (isNode_tree ctx r) (fun _ hp => hp.1)
    (fun _ hp => hp.1) (hl _) (hr _)).mono ?_
  rintro _ ⟨x, y, hx, hy, rfl⟩
  exact written_binaryPiece hop hx hy _

theorem walks_boolOp {op : BinaryOp} (hop : family op = .logic) {l r : Term}
    (hl : Walks o I ctx l) (hr : Walks o I ctx r) : Walks o I ctx (.binary op l r) := by
  intro ops
  have htree : (Term.binary op l r).tree ctx =
      .node .boolOp [.node (.op (source op)) [], .list ([l, r].map (Term.tree ctx))] := by
    cases op <;> first | rfl | simp [family] at hop
  have hops : operatorText (source op) = some op.sign := by
    cases op <;> first | rfl | simp [family] at hop
  have hshape : opens op = true ∧ wraps op = true := by
    cases op <;> first | exact ⟨rfl, rfl⟩ | simp [family] at hop
  have hlr : ∀ t ∈ [l, r], (t.tree ctx).isNode = true ∧
      Gives o I (ops.push .boolOp) (visit (t.tree ctx)) (Written (t.text true)) := by
    intro t ht
    simp only [List.mem_cons, List.not_mem_nil, or_false] at ht
    rcases ht with rfl | rfl
    · exact ⟨isNode_tree ctx t, hl _⟩
    · exact ⟨isNode_tree ctx t, hr _⟩
  rw [htree, Term.text, hshape.1, hshape.2]
  refine (gives_bool hI hops (by simp) (fun _ _ hp => hp.1) hlr).mono ?_
  rintro _ ⟨x, y, zs, hxy, rfl⟩
  rcases hxy with _ | ⟨hx, _ | ⟨hy, _ | _⟩⟩
  exact written_binary hx hy op _

theorem walks_compare {op : BinaryOp} (hop : family op = .order) {l r : Term}
    (hl : Walks o I ctx l) (hr : Walks o I ctx r) : Walks o I ctx (.binary op l r) := by
  intro ops
  have htree : (Term.binary op l r).tree ctx =
      .node .compare [l.tree ctx, .list [.node (.op (source op)) []], .list [r.tree ctx]] := by
    cases op <;> first | rfl | simp [family] at hop
  have hops : operatorText (source op) = some op.sign := by
    cases op <;> first | rfl | simp [family] at hop
  have hshape : opens op = false ∧ wraps op = false := by
    cases op <;> first | exact ⟨rfl, rfl⟩ | simp [family] at hop
  rw [htree, Term.text, hshape.1, hshape.2]
  refine (gives_compare hI hops (isNode_tree ctx l) (isNode_tree ctx r) (fun _ hp => hp.1)
    (fun _ hp => hp.1) (hl ops) (hr ops)).mono ?_
  rintro _ ⟨x, y, hx, hy, rfl⟩
  exact written_binary hx hy op false

theorem walks_term (ho : o.camelCase = false) (hctx : IsUse ctx) (t : Term) : Walks o I ctx t := by
  have form {s : String} (p : Piece) (hp : Written s p) : IsForm p := hp.1
  induction t using Term.induction with
  | name n => exact gives_nameOf hI ho hctx n
  | number n =>
    intro ops
    refine (gives_number hI (by simp)).mono ?_
    rintro _ rfl
    exact written_number _
  | call f args ih =>
    intro ops
    rw [Term.tree, Term.treeAll_eq, Term.text, Term.textAll_eq]
    refine (gives_call hI rfl form (fun _ => form) (gives_nameOf hI ho hctx f ops)
      fun a ha => ⟨isNode_tree ctx a, ih a ha ops⟩).mono ?_
    rintro _ ⟨x, ys, hx, hys, rfl⟩
    exact written_call hx (List.forall₂_map_left_iff.2 hys)
  | unary s x ih =>
    intro ops
    have hop : operatorText s.source = none := by cases s <;> rfl
    refine (gives_unary hI hop (isNode_tree ctx x) form (ih ops)).mono ?_
    rintro _ ⟨y, hy, rfl⟩
    exact written_unary s hy
  | power l r ihl ihr =>
    intro ops
    refine (gives_binary hI (by decide) (isNode_tree ctx l) (isNode_tree ctx r) form form (ihl _)
      (ihr _)).mono ?_
    rintro _ ⟨x, y, hx, hy, rfl⟩
    exact written_call (written_math "pow") (.cons hx (.cons hy .nil))
  | floorDiv l r ihl ihr =>
    intro ops
    refine (gives_binary hI (by decide) (isNode_tree ctx l) (isNode_tree ctx r) form form (ihl _)
      (ihr _)).mono ?_
    rintro _ ⟨x, y, hx, hy, rfl⟩
    exact written_call (written_math "floor") (.cons (written_binary hx hy .div false) .nil)
  | binary op l r ihl ihr =>
    cases hf : family op with
    | arithmetic => exact walks_binOp hI (.inl hf) ihl ihr
    | bits => exact walks_binOp hI (.inr hf) ihl ihr
    | logic => exact walks_boolOp hI hf ihl ihr
    | order => exact walks_compare hI hf ihl ihr

end

end Transpile.Grouping
