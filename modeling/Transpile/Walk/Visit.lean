import Transpile.Walk.Comprehension
import Transpile.Walk.Program
import Transpile.Walk.Stmt

/-! The walk. A node is entered, its fields are walked in order, and the rule of its class makes one
result from theirs; a class without a rule has no result. -/

namespace Transpile.Walk

open Script Source

/-- The result of a node from what its fields hold and their results. -/
def fieldRule : Kind → List Tree → List Piece → Walker Piece
  | .op o, _, _ => operatorRule o
  | .unaryOp, [op, _], cs => unaryRule op cs
  | .binOp, [_, op, _], cs => binaryRule op cs
  | .boolOp, _, cs => boolRule cs
  | .compare, _, cs => compareRule cs
  | .num, [n], _ => numberRule n
  | .str, [s], _ => stringRule s
  | .name, [id, _], _ => nameRule id
  | .call, [func, _, _], cs => callRule func cs
  | .attr, [_, name, _], cs => attributeRule name cs
  | .index, _, cs => child cs 0
  | .list, _, cs => arrayRule cs
  | .tuple, _, cs => arrayRule cs
  | .dict, _, cs => dictRule cs
  | .lambda, _, cs => lambdaRule cs
  | .arguments, _, cs => pure (.items cs)
  | .arg, [name, _], _ => do sourceName (← atomField name)
  | .exprStmt, _, cs => expressionRule cs
  | .returnStmt, _, cs => returnRule cs
  | .raiseStmt, _, cs => raiseRule cs
  | .deleteStmt, _, cs => deleteRule cs
  | .assign, _, cs => assignRule cs
  | .augAssign, [_, op, _], cs => augmentRule op cs
  | .breakStmt, _, _ => pure (Form.breakTo .absent).piece
  | .continueStmt, _, _ => pure (Form.continueTo .absent).piece
  | .ifStmt, [_, body, orelse], cs => ifRule body orelse cs
  | .whileStmt, [_, body, orelse], cs => whileRule body orelse cs
  | .forStmt, _, cs => forRule cs
  | .tryStmt, [_, _, _, final], cs => tryRule final cs
  | .exceptHandler, [_, name, _], cs => handlerRule name cs
  | .importStmt, _, cs => importRule cs
  | .alias, name :: asName :: place, _ => aliasRule name asName place
  | .functionDef, [name, _, _, decorators, _], cs => functionRule name decorators cs
  | .functionDef, _, _ => throw .missingAttribute
  | .classDef, name :: _, cs => classRule name cs
  | .module, _, cs => programRule cs
  | _, _, _ => pure .absent

/-- The result of a node. Subscripts and comprehensions walk parts of theirs again. -/
def rule : Kind → List Branch → List Piece → Walker Piece
  | .subscript, [_, slice, _], cs => subscriptRule slice cs
  | .listComp, [_, generators], _ => comprehensionRule generators
  | k, ws, cs => fieldRule k (ws.map Branch.tree) cs

def opensScope : Kind → Bool
  | .module | .functionDef => true
  | _ => false

/-- Classes whose operands are walked under an open operator. -/
def opensOperator : Kind → Bool
  | .binOp | .boolOp => true
  | _ => false

/-- Walks what a field holds: a node, or the nodes of a list. -/
def visitField (w : Branch) : Walker Unit :=
  match w.tree with
  | .node _ _ => discard w.again
  | .list _ => w.parts.forM fun p => if p.tree.isNode then discard p.again else pure ()
  | _ => pure ()

def quotedNode (k : Kind) : String := "<ast." ++ k.className ++ " object>"

mutual

/-- A tree in traces. -/
def quotedTree : Tree → String
  | .node k _ => quotedNode k
  | .list ts => "[" ++ ", ".intercalate (quotedTrees ts) ++ "]"
  | .atom a => a.quoted
  | .missing => ""

def quotedTrees : List Tree → List String
  | [] => []
  | t :: ts => quotedTree t :: quotedTrees ts

end

/-- A tree in running text. -/
def shownTree : Tree → String
  | .text s => s
  | t => quotedTree t

/-- Something that is no node is entered and found to have no fields. -/
def visitOther (t : Tree) : Walker Piece := do
  openLevel
  say ("enter: " ++ shownTree t)
  deeper
  throw .missingAttribute

/-- A constant is read before its fields are walked. -/
def isReadable : Kind → List Branch → Bool
  | .constant, w :: _ => !(w.tree matches .missing)
  | _, _ => true

def visitNode (k : Kind) (fields : List Branch) : Walker Piece := do
  openLevel
  say ("enter: " ++ quotedNode k)
  if opensScope k then enterScope
  deeper
  unless isReadable k fields do throw .missingAttribute
  if opensOperator k then pushOperator k
  fields.forM visitField
  if opensOperator k then popOperator
  shallower
  let result ← rule k fields (← children)
  say ("childs: " ++ (Piece.items (← children)).quoted)
  say ("exit: " ++ quotedNode k)
  closeLevel
  collect result
  return result

mutual

def walk : Tree → Branch
  | .node k fs =>
    let ws := walkAll fs
    .mk (.node k fs) (visitNode k ws) ws
  | .list ts => .mk (.list ts) (visitOther (.list ts)) (walkAll ts)
  | .atom a => .mk (.atom a) (visitOther (.atom a)) []
  | .missing => .mk .missing (throw .missingAttribute) []

def walkAll : List Tree → List Branch
  | [] => []
  | t :: ts => walk t :: walkAll ts

end

/-- The result of walking a tree. -/
def visit (t : Tree) : Walker Piece := (walk t).again

end Transpile.Walk
