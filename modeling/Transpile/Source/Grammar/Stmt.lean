import Transpile.Source.Grammar.Expr

/-! Statements. A block is a line of simple statements, or indented lines; every nested block stands
after a token of its own. -/

namespace Transpile.Source.Grammar

open Reader

section

variable (nested : Nested)

/-! Simple statements -/

def singleTarget : Reader Tree := do (← nested .primary).single?

/-- A target with its type. Parentheses that hold a target hold all of it. -/
def annotated : Reader Tree := do
  let target ← (op "(" *> singleTarget nested <* op ")") <|> singleTarget nested
  op ":"
  let annotation ← nested .expression
  let value ← after? (.op "=") (yieldOrStar nested)
  return .node .annAssign [target, annotation, .opt value]

def augmentedOps : List (String × Op) := [
  ("+=", .add), ("-=", .sub), ("*=", .mult), ("@=", .matMult), ("/=", .div), ("%=", .mod),
  ("&=", .bitAnd), ("|=", .bitOr), ("^=", .bitXor), ("<<=", .lShift), (">>=", .rShift),
  ("**=", .pow), ("//=", .floorDiv)]

def augmented (t : Tree) : Reader Tree := do
  let o ← choose augmentedOps
  let target ← t.single?
  return .node .augAssign [target, .op o, ← yieldOrStar nested]

/-- One value after another; all but the last are targets. -/
def assignment (t : Tree) : Reader Tree := do
  let ts ← many1 (op "=" *> yieldOrStar nested)
  let targets ← Tree.targets? .store (t :: ts.dropLast)
  match ts.getLast? with
  | some v => return .node .assign [.list targets, v]
  | none => failure

def expressionStmt : Reader Tree := annotated nested <|> do
  let t ← yieldOrStar nested
  match ← peek? 0 with
  | some (.op "=") => assignment nested t
  | some (.op s) =>
    if (augmentedOps.lookup s).isSome then augmented nested t else return .node .exprStmt [t]
  | _ => return .node .exprStmt [t]

def spot (n : Nat) : Tree := .atom (.number (toString n))

/-- The place of the next token, and of the end of the last of those that `p` takes. -/
def spanned (p : Reader α) : Reader (α × Pos × Pos) := fun ts => do
  let (a, rest) ← p ts
  let taken := ts.take (ts.length - rest.length)
  return ((a, (taken.head?.map Token.start).getD {}, (taken.getLast?.map Token.stop).getD {}), rest)

/-- A name to import, and the name it is bound to. -/
def aliasOf (imported : Reader String) : Reader Tree := do
  let ((s, bound), start, stop) ← spanned (return (← imported, ← after? (.keyword "as") name))
  return .node .alias [
    .text s, .opt (bound.map .text), spot start.line, spot start.col, spot stop.line, spot stop.col]

def dottedName : Reader String := do
  let s ← name
  return String.intercalate "." (s :: (← many (op "." *> name)))

def importStmt : Reader Tree := do
  keyword "import"
  return .node .importStmt [.list (← commas (aliasOf dottedName))]

def importFrom : Reader Tree := do
  keyword "from"
  let dots ← many (choose [(".", 1), ("...", 3)])
  let module ← optional dottedName
  if dots.isEmpty && module.isNone then failure
  keyword "import"
  let names ←
    (do let star ← aliasOf (op "*" *> pure "*"); return [star])
    <|> (op "(" *> commasEnd (aliasOf name) <* op ")")
    <|> commas (aliasOf name)
  return .node .importFrom [.opt (module.map .text), .list names, spot (dots.foldl (· + ·) 0)]

def raiseStmt : Reader Tree := do
  keyword "raise"
  let parts ← optional do
    return (← nested .expression, ← after? (.keyword "from") (nested .expression))
  return .node .raiseStmt [.opt (parts.map Prod.fst), .opt (parts.bind Prod.snd)]

def assertStmt : Reader Tree := do
  keyword "assert"
  return .node .assertStmt [← nested .expression, .opt (← after? (.op ",") (nested .expression))]

def deleteStmt : Reader Tree := do
  keyword "del"
  return .node .deleteStmt [.list (← commasEnd do (← nested .primary).target? .del)]

def names : Reader Tree := return .list ((← commas name).map .text)

def simpleStmt : Reader Tree := do
  match ← peek? 0 with
  | some (.keyword "return") =>
    keyword "return"
    return .node .returnStmt [.opt (← optional (starExpressions nested))]
  | some (.keyword "import") => importStmt
  | some (.keyword "from") => importFrom
  | some (.keyword "raise") => raiseStmt nested
  | some (.keyword "pass") => next *> pure (.node .passStmt [])
  | some (.keyword "break") => next *> pure (.node .breakStmt [])
  | some (.keyword "continue") => next *> pure (.node .continueStmt [])
  | some (.keyword "del") => deleteStmt nested
  | some (.keyword "assert") => assertStmt nested
  | some (.keyword "global") => next *> return .node .globalStmt [← names]
  | some (.keyword "nonlocal") => next *> return .node .nonlocalStmt [← names]
  | _ => expressionStmt nested

def simpleStmts : Reader (List Tree) := do
  let t ← simpleStmt nested
  let ts ← many (op ";" *> simpleStmt nested)
  discard (optional (op ";"))
  accept .newline
  return t :: ts

/-! Compound statements, in terms of a reader for the statements of a block -/

variable (stmts : Reader (List Tree))

def block : Reader Tree := do
  op ":"
  (do accept .newline; accept .indent; return .list (← many1 stmts <* accept .dedent).flatten)
    <|> .list <$> simpleStmts nested

def elseBlock (word : String) : Reader Tree :=
  return (← after? (.keyword word) (block nested stmts)).getD (.list [])

/-- A further test makes a conditional that stands by itself in the other arm of the one before. -/
def ifStmt : Reader Tree := do
  keyword "if"
  let test ← named nested
  let body ← block nested stmts
  let more ← many do
    keyword "elif"
    return (← named nested, ← block nested stmts)
  let last ← elseBlock nested stmts "else"
  return .node .ifStmt [test, body,
    more.foldr (fun m other => .list [.node .ifStmt [m.1, m.2, other]]) last]

def whileStmt : Reader Tree := do
  keyword "while"
  return .node .whileStmt [← named nested, ← block nested stmts, ← elseBlock nested stmts "else"]

def forStmt : Reader Tree := do
  keyword "for"
  let target ← starTargets nested
  keyword "in"
  return .node .forStmt [
    target, ← starExpressions nested, ← block nested stmts, ← elseBlock nested stmts "else"]

def withItem : Reader Tree := do
  let t ← nested .expression
  return .node .withItem [t, .opt (← after? (.keyword "as") (starTarget nested .store))]

/-- Parentheses around all items are not part of any of them. -/
def withStmt : Reader Tree := do
  keyword "with"
  let (items, body) ←
    (do
      op "("
      let items ← commasEnd (withItem nested)
      op ")"
      return (items, ← block nested stmts))
    <|> (return (← commas (withItem nested), ← block nested stmts))
  return .node .withStmt [.list items, body]

def handler : Reader Tree := do
  keyword "except"
  let caught ← optional (return (← nested .expression, ← after? (.keyword "as") name))
  return .node .exceptHandler [
    .opt (caught.map Prod.fst), .opt ((caught.bind Prod.snd).map .text), ← block nested stmts]

def tryStmt : Reader Tree := do
  keyword "try"
  let body ← block nested stmts
  let handlers ← many (handler nested stmts)
  let other ← if handlers.isEmpty then pure (.list []) else elseBlock nested stmts "else"
  let last ← after? (.keyword "finally") (block nested stmts)
  if handlers.isEmpty && last.isNone then failure
  return .node .tryStmt [body, .list handlers, other, last.getD (.list [])]

def typedArg : Reader Tree :=
  return .node .arg [.text (← name), .opt (← after? (.op ":") (nested .expression))]

/-- After a star the annotation may be starred too. -/
def starTypedArg : Reader Tree :=
  return .node .arg [.text (← name), .opt (← after? (.op ":") (starExpression nested))]

def functionDef (decorators : List Tree) : Reader Tree := do
  keyword "def"
  let s ← name
  op "("
  let ps ← params nested (typedArg nested) (starTypedArg nested)
  op ")"
  let returns ← after? (.op "->") (nested .expression)
  let body ← block nested stmts
  return .node .functionDef [.text s, ps, body, .list decorators, .opt returns]

def classDef (decorators : List Tree) : Reader Tree := do
  keyword "class"
  let s ← name
  let (bases, keywords) ← (op "(" *> classArguments nested) <|> pure (.list [], .list [])
  return .node .classDef [.text s, bases, keywords, ← block nested stmts, .list decorators]

def decorated : Reader Tree := do
  let ds ← many1 (op "@" *> named nested <* accept .newline)
  functionDef nested stmts ds <|> classDef nested stmts ds

/-- A compound statement, or a line of simple ones. -/
def stmtLine : Reader (List Tree) := do
  let one (p : Reader Tree) : Reader (List Tree) := return [← p]
  match ← peek? 0 with
  | some (.keyword "if") => one (ifStmt nested stmts)
  | some (.keyword "while") => one (whileStmt nested stmts)
  | some (.keyword "for") => one (forStmt nested stmts)
  | some (.keyword "with") => one (withStmt nested stmts)
  | some (.keyword "try") => one (tryStmt nested stmts)
  | some (.keyword "def") => one (functionDef nested stmts [])
  | some (.keyword "class") => one (classDef nested stmts [])
  | some (.op "@") => one (decorated nested stmts)
  | _ => simpleStmts nested

/-- Statements whose blocks are nested at most as often as the number says. -/
def stmt : Nat → Reader (List Tree)
  | 0 => failure
  | n + 1 => stmtLine nested (stmt n)

end

/-- All tokens as one module. -/
def module : Reader Tree := fun ts => do
  let n := ts.length + 1
  match ← many (stmt (expr n) n) ts with
  | (stmts, []) => return (.node .module [.list stmts.flatten], [])
  | _ => none

end Transpile.Source.Grammar
