import Transpile.Proofs.Reading.Token

/-! The grammar of script expressions over tokens: operators by level, calls and members. A level
takes what binds at least as tightly, and operators of one level associate to the left. -/

namespace Transpile.Reading

inductive UnaryOp where
  | minus | plus | not | invert | decrease | increase
  deriving DecidableEq, Repr

inductive BinaryOp where
  | or | and | bitOr | bitXor | bitAnd | same | differ | less | atMost | greater | atLeast
  | shiftLeft | shiftRight | add | sub | mult | div | mod
  deriving DecidableEq, Repr

namespace UnaryOp

def sign : UnaryOp → String
  | minus => "-"
  | plus => "+"
  | not => "!"
  | invert => "~"
  | decrease => "--"
  | increase => "++"

def all : List UnaryOp := [minus, plus, not, invert, decrease, increase]

def ofSign? (s : String) : Option UnaryOp := all.find? fun u => u.sign = s

theorem ofSign?_sign (u : UnaryOp) : ofSign? u.sign = some u := by
  cases u <;> decide

theorem sign_of_ofSign? {s : String} {u : UnaryOp} (h : ofSign? s = some u) : u.sign = s := by
  simpa using List.find?_some h

/-- How tightly a unary operator binds. -/
def level : Nat := 11

end UnaryOp

namespace BinaryOp

def sign : BinaryOp → String
  | or => "||"
  | and => "&&"
  | bitOr => "|"
  | bitXor => "^"
  | bitAnd => "&"
  | same => "==="
  | differ => "!=="
  | less => "<"
  | atMost => "<="
  | greater => ">"
  | atLeast => ">="
  | shiftLeft => "<<"
  | shiftRight => ">>"
  | add => "+"
  | sub => "-"
  | mult => "*"
  | div => "/"
  | mod => "%"

def all : List BinaryOp :=
  [or, and, bitOr, bitXor, bitAnd, same, differ, less, atMost, greater, atLeast, shiftLeft,
    shiftRight, add, sub, mult, div, mod]

def ofSign? (s : String) : Option BinaryOp := all.find? fun o => o.sign = s

theorem ofSign?_sign (o : BinaryOp) : ofSign? o.sign = some o := by
  cases o <;> decide

theorem sign_of_ofSign? {s : String} {o : BinaryOp} (h : ofSign? s = some o) : o.sign = s := by
  simpa using List.find?_some h

theorem sign_mem (o : BinaryOp) : o.sign ∈ signs := by
  cases o <;> decide

/-- How tightly the operator binds. -/
def level : BinaryOp → Nat
  | or => 1
  | and => 2
  | bitOr => 3
  | bitXor => 4
  | bitAnd => 5
  | same | differ => 6
  | less | atMost | greater | atLeast => 7
  | shiftLeft | shiftRight => 8
  | add | sub => 9
  | mult | div | mod => 10

theorem level_le (o : BinaryOp) : o.level ≤ 10 := by
  cases o <;> decide

end BinaryOp

/-- Script expressions, without parentheses. -/
inductive Expr where
  | name (s : String)
  | number (s : String)
  | member (x : Expr) (s : String)
  | call (f : Expr) (args : List Expr)
  | unary (op : UnaryOp) (x : Expr)
  | binary (op : BinaryOp) (l r : Expr)

/-- Words that are no names. -/
def reserved : List String :=
  ["await", "break", "case", "catch", "class", "const", "continue", "debugger", "default", "delete",
    "do", "else", "enum", "export", "extends", "false", "finally", "for", "function", "if", "import",
    "in", "instanceof", "new", "null", "return", "super", "switch", "this", "throw", "true", "try",
    "typeof", "var", "void", "while", "with", "yield"]

/-- Lists of tokens with commas between them. -/
def commas : List (List Token) → List Token
  | [] => []
  | [ts] => ts
  | ts :: us :: uss => ts ++ .sign "," :: commas (us :: uss)

/-- How tightly a call or a member binds. -/
def primaryLevel : Nat := 12

/-- The tokens read as an expression that binds at least as tightly as the level. -/
inductive Derives : Nat → List Token → Expr → Prop where
  | name {n : Nat} {s : String} (free : s ∉ reserved) : Derives n [.word s] (.name s)
  | number {n : Nat} {s : String} : Derives n [.number s] (.number s)
  | group {n : Nat} {ts : List Token} {x : Expr} (inner : Derives 0 ts x) :
      Derives n (.sign "(" :: (ts ++ [.sign ")"])) x
  | member {n : Nat} {ts : List Token} {x : Expr} {s : String} (hn : n ≤ primaryLevel)
      (target : Derives primaryLevel ts x) : Derives n (ts ++ [.sign ".", .word s]) (.member x s)
  | call {n : Nat} {ts : List Token} {f : Expr} {args : List (List Token × Expr)}
      (hn : n ≤ primaryLevel) (callee : Derives primaryLevel ts f)
      (inner : ∀ a ∈ args, Derives 0 a.1 a.2) :
      Derives n (ts ++ .sign "(" :: (commas (args.map Prod.fst) ++ [.sign ")"]))
        (.call f (args.map Prod.snd))
  | unary {n : Nat} {op : UnaryOp} {ts : List Token} {x : Expr} (hn : n ≤ UnaryOp.level)
      (operand : Derives UnaryOp.level ts x) : Derives n (.sign op.sign :: ts) (.unary op x)
  | binary {n : Nat} {op : BinaryOp} {ts us : List Token} {l r : Expr} (hn : n ≤ op.level)
      (left : Derives op.level ts l) (right : Derives (op.level + 1) us r) :
      Derives n (ts ++ .sign op.sign :: us) (.binary op l r)

theorem Derives.mono {m n : Nat} {ts : List Token} {x : Expr} (h : Derives n ts x) (hmn : m ≤ n) :
    Derives m ts x := by
  cases h with
  | name free => exact .name free
  | number => exact .number
  | group inner => exact .group inner
  | member hn target => exact .member (by omega) target
  | call hn callee inner => exact .call (by omega) callee inner
  | unary hn operand => exact .unary (by omega) operand
  | binary hn left right => exact .binary (by omega) left right

end Transpile.Reading
