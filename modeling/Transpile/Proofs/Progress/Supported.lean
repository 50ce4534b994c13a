import Transpile.Proofs.Expressions

/-! The part of the source language that is translated: the expressions, targets and statements
whose classes have rules and whose fields are as the rules expect them. -/

namespace Transpile.Walk

open Source

/-- A field without nodes. -/
inductive Inert : Tree → Prop where
  | missing : Inert .missing
  | atom (a : Atom) : Inert (.atom a)
  | empty : Inert (.list [])

/-- A field that may be left empty. -/
def optional : Option Tree → Tree
  | none => .none
  | some t => t

/-! Names -/

/-- A name that can be bound. -/
inductive IsNamed : Tree → Prop where
  | name {n : String} {ctx : Tree} (hn : n ∉ ["None", "True", "False"]) (hc : IsUse ctx) :
      IsNamed (.node .name [.text n, ctx])

inductive IsParam : Tree → Prop where
  | arg {n : String} {note : Tree} (ha : Inert note) :
      IsParam (.node .arg [.text n, note])

inductive IsParamList : Tree → Prop where
  | missing : IsParamList .missing
  | params {ps : List Tree} (h : ∀ p ∈ ps, IsParam p) : IsParamList (.list ps)

/-- Positional parameters without defaults. -/
inductive IsParams : Tree → Prop where
  | arguments {only ps : Tree} {rest : List Tree} (ho : IsParamList only) (hp : IsParamList ps)
      (hr : ∀ t ∈ rest, Inert t) : IsParams (.node .arguments (only :: ps :: rest))

/-! Expressions -/

def signOps : List Op := [.uSub, .uAdd, .not, .invert]

def logicOps : List Op := [.and, .or]

def orderOps : List Op := [.is, .eq, .notEq, .lt, .ltE, .gt, .gtE]

/-- Keys of a dictionary. -/
inductive IsKey : Tree → Prop where
  | name {n : String} {ctx : Tree} (hc : IsUse ctx) : IsKey (.node .name [.text n, ctx])
  | number {s : String} : IsKey (.node .num [.atom (.number s)])
  | string {s : String} : IsKey (.node .str [.text s])

/-- A number is one that has digits to be shown. -/
inductive IsExpr : Tree → Prop where
  | key {k : Tree} (hk : IsKey k) : IsExpr k
  | unary {op : Op} {x : Tree} (hop : op ∈ signOps) (hx : IsExpr x) :
      IsExpr (.node .unaryOp [.node (.op op) [], x])
  | binary {op : Op} {l r : Tree} (hop : op ∈ binaryOps) (hl : IsExpr l) (hr : IsExpr r) :
      IsExpr (.node .binOp [l, .node (.op op) [], r])
  | bool {op : Op} {vs : List Tree} (hop : op ∈ logicOps) (hn : 2 ≤ vs.length)
      (hv : ∀ v ∈ vs, IsExpr v) : IsExpr (.node .boolOp [.node (.op op) [], .list vs])
  | compare {op : Op} {l r : Tree} (hop : op ∈ orderOps) (hl : IsExpr l) (hr : IsExpr r) :
      IsExpr (.node .compare [l, .list [.node (.op op) []], .list [r]])
  | call {f : Tree} {args : List Tree} (hf : IsExpr f) (ha : ∀ a ∈ args, IsExpr a) :
      IsExpr (.node .call [f, .list args, .list []])
  | attr {x : Tree} {n : String} {ctx : Tree} (hx : IsExpr x) (hc : IsUse ctx) :
      IsExpr (.node .attr [x, .text n, ctx])
  | index {x i ctx : Tree} (hx : IsExpr x) (hi : IsExpr i) (hc : IsUse ctx) :
      IsExpr (.node .subscript [x, .node .index [i], ctx])
  | slice {x ctx : Tree} {low high : Option Tree} (hx : IsExpr x) (hl : ∀ t ∈ low, IsExpr t)
      (hh : ∀ t ∈ high, IsExpr t) (hc : IsUse ctx) :
      IsExpr (.node .subscript [x, .node .slice [optional low, optional high, .none], ctx])
  | sequence {k : Kind} {ts : List Tree} {ctx : Tree} (hk : k = .list ∨ k = .tuple)
      (ht : ∀ t ∈ ts, IsExpr t) (hc : IsUse ctx) : IsExpr (.node k [.list ts, ctx])
  | dict {ks vs : List Tree} (hk : ∀ k ∈ ks, IsKey k) (hv : ∀ v ∈ vs, IsExpr v)
      (hn : ks.length = vs.length) : IsExpr (.node .dict [.list ks, .list vs])
  | lambda {ps body : Tree} (hp : IsParams ps) (hb : IsExpr body) :
      IsExpr (.node .lambda [ps, body])
  | listComp {x target source sync : Tree} {ifs : List Tree} (hx : IsExpr x) (ht : IsExpr target)
      (hs : IsExpr source) (hi : ∀ t ∈ ifs, IsExpr t) (ha : Inert sync) :
      IsExpr (.node .listComp [x, .list [.node .comprehension [target, source, .list ifs, sync]]])

theorem IsExpr.isNode {t : Tree} (h : IsExpr t) : t.isNode = true := by
  cases h with
  | key hk => cases hk <;> rfl
  | _ => rfl

/-! Statements -/

/-- A name, an attribute or a subscript. -/
def IsPlace (t : Tree) : Prop :=
  IsExpr t ∧ t.kind? ∈ [some Kind.name, some .attr, some .subscript]

inductive IsTarget : Tree → Prop where
  | place {t : Tree} (h : IsPlace t) : IsTarget t
  | sequence {k : Kind} {ts : List Tree} {ctx : Tree} (hk : k = .list ∨ k = .tuple)
      (ht : ∀ t ∈ ts, IsPlace t) (hc : IsUse ctx) : IsTarget (.node k [.list ts, ctx])

def augmentOps : List Op := [.add, .sub, .mult, .div, .mod, .pow, .floorDiv]

/-- A handler of failures that names them. -/
structure Handler where
  type : Option Tree
  name : String
  body : List Tree

def Handler.tree (h : Handler) : Tree :=
  .node .exceptHandler [optional h.type, .text h.name, .list h.body]

/-- Only the body of a `for` must not be empty. -/
inductive IsStmt : Tree → Prop where
  | expr {x : Tree} (hx : IsExpr x) : IsStmt (.node .exprStmt [x])
  | assign {ts : List Tree} {v : Tree} (ht : ∀ t ∈ ts, IsTarget t) (hv : IsExpr v) :
      IsStmt (.node .assign [.list ts, v])
  | augAssign {t v : Tree} {op : Op} (ht : IsPlace t) (hop : op ∈ augmentOps) (hv : IsExpr v) :
      IsStmt (.node .augAssign [t, .node (.op op) [], v])
  | returns {v : Option Tree} (hv : ∀ t ∈ v, IsExpr t) : IsStmt (.node .returnStmt [optional v])
  | leavesLoop : IsStmt (.node .breakStmt [])
  | nextRound : IsStmt (.node .continueStmt [])
  | raise {x : Tree} {cause : Option Tree} (hx : IsExpr x) (hc : ∀ t ∈ cause, IsExpr t) :
      IsStmt (.node .raiseStmt [x, optional cause])
  | delete {ts : List Tree} (hn : ts ≠ []) (ht : ∀ t ∈ ts, IsNamed t) :
      IsStmt (.node .deleteStmt [.list ts])
  | ifs {test : Tree} {body orelse : List Tree} (ht : IsExpr test)
      (hb : ∀ s ∈ body, IsStmt s) (he : ∀ s ∈ orelse, IsStmt s) :
      IsStmt (.node .ifStmt [test, .list body, .list orelse])
  | whiles {test : Tree} {body orelse : List Tree} (ht : IsExpr test)
      (hb : ∀ s ∈ body, IsStmt s) (he : ∀ s ∈ orelse, IsStmt s) :
      IsStmt (.node .whileStmt [test, .list body, .list orelse])
  | fors {item source : Tree} {body orelse : List Tree} (hi : IsNamed item) (hs : IsExpr source)
      (hn : body ≠ []) (hb : ∀ s ∈ body, IsStmt s) (he : ∀ s ∈ orelse, IsStmt s) :
      IsStmt (.node .forStmt [item, source, .list body, .list orelse])
  | tries {body orelse final : List Tree} {hs : List Handler} (hb : ∀ s ∈ body, IsStmt s)
      (ht : ∀ h ∈ hs, ∀ t ∈ h.type, IsExpr t) (hh : ∀ h ∈ hs, ∀ s ∈ h.body, IsStmt s)
      (he : ∀ s ∈ orelse, IsStmt s) (hf : ∀ s ∈ final, IsStmt s) :
      IsStmt (.node .tryStmt [.list body, .list (hs.map Handler.tree), .list orelse, .list final])
  | function {n : String} {ps returns : Tree} {body : List Tree} (hp : IsParams ps)
      (hb : ∀ s ∈ body, IsStmt s) (hr : Inert returns) :
      IsStmt (.node .functionDef [.text n, ps, .list body, .list [], returns])

end Transpile.Walk
