import Transpile.Source.Grammar.Stmt
import Transpile.Source.Scan

/-! From source text to a source tree, in one of two shapes. The plain shape has one class for all
constants. The classic one has a class for each kind of constant, takes the three constant words for
names, and tells indices from slices. -/

namespace Transpile.Source

inductive Shape where
  | classic | plain
  deriving DecidableEq, Repr

namespace Tree

def ofConstant : Atom → Tree
  | .none => ident "None"
  | .flag true => ident "True"
  | .flag false => ident "False"
  | .number n => .node .num [.atom (.number n)]
  | .vast => .node .num [.atom .vast]
  | .text s => .node .str [.text s]
  | .bytes s => .node .bytes [.atom (.bytes s)]
  | .ellipsis => .node .ellipsis []

def isSlice (t : Tree) : Bool := t.kind? = some .slice

def index (t : Tree) : Tree := .node .index [t]

/-- What stands in a subscript: a slice, several dimensions of which one is a slice, or an index. -/
def dimensions (t : Tree) : Tree :=
  if t.isSlice then t
  else match t with
    | .node .tuple [.list ts, _] =>
      if ts.any isSlice then
        .node .extSlice [.list (ts.map fun t => if t.isSlice then t else index t)]
      else index t
    | _ => index t

/-- A node of the plain shape, whose parts are in the classic one already. -/
def classicNode : Kind → List Tree → Tree
  | .constant, [.atom a] => ofConstant a
  | .subscript, [v, s, u] => .node .subscript [v, s.dimensions, u]
  | k, fields => .node k fields

mutual

def classic : Tree → Tree
  | .node k fields => classicNode k (classicAll fields)
  | .list ts => .list (classicAll ts)
  | t => t

def classicAll : List Tree → List Tree
  | [] => []
  | t :: ts => classic t :: classicAll ts

end

def inShape : Shape → Tree → Tree
  | .classic, t => t.classic
  | .plain, t => t

end Tree

/-- The tree of a source text, if it is well formed. Formatted strings, asynchronous functions, `match`
statements, handlers of groups and escapes that name a character are not read: a text that has one
counts as malformed, though there are trees for all of them. -/
def parse? (shape : Shape) (source : String) : Option Tree := do
  let ts ← tokens? source
  let (t, _) ← Grammar.module ts
  return t.inShape shape

end Transpile.Source
