import Transpile.Number.Literal
import Transpile.Source.Grammar.Basic
import Transpile.Source.Grammar.Params

/-! Expressions. The rules for each level of precedence are given in terms of a reader for whatever
is nested; every nested expression stands after a token of its own, so the number of tokens bounds
the nesting. -/

namespace Transpile.Source

open Reader

/-- The levels of expressions that rules refer to before they are defined. -/
inductive Level where
  | expression | disjunction | inversion | bitOr | factor | primary

namespace Grammar

abbrev Nested := Level → Reader Tree

/-- A member of a display, by how it is written. -/
inductive Member where
  | plain (t : Tree)
  | named (t : Tree)
  | starred (t : Tree)

def Member.tree : Member → Tree
  | .plain t | .named t | .starred t => t

def Member.unstarred? : Member → Option Tree
  | .plain t | .named t => some t
  | .starred _ => none

section

variable (nested : Nested)

def starExpression : Reader Tree :=
  (do op "*"; return .starred (← nested .bitOr)) <|> nested .expression

/-- Expressions with commas between make a tuple. -/
def starExpressions : Reader Tree := tupleOr .tuple (starExpression nested)

def yieldExpr : Reader Tree := do
  keyword "yield"
  match ← after? (.keyword "from") (nested .expression) with
  | some t => return .node .yieldFrom [t]
  | none => return .node .yieldExpr [.opt (← optional (starExpressions nested))]

def yieldOrStar : Reader Tree := yieldExpr nested <|> starExpressions nested

def isNaming : Reader Bool := do
  match ← peek? 0, ← peek? 1 with
  | some (.name _), some (.op ":=") => return true
  | _, _ => return false

def naming : Reader Tree := do
  let s ← name
  op ":="
  return .node .namedExpr [.node .name [.text s, .use .store], ← nested .expression]

def namedExpression : Reader Member := do
  if ← isNaming then return .named (← naming nested)
  else return .plain (← nested .expression)

def named : Reader Tree := Member.tree <$> namedExpression nested

def member : Reader Member :=
  (do op "*"; return .starred (.starred (← nested .bitOr))) <|> namedExpression nested

def starTarget (u : Use) : Reader Tree := do
  let t ← (do op "*"; return .starred (← nested .primary)) <|> nested .primary
  t.target? u

def starTargets : Reader Tree := do
  let t ← tupleOr .tuple (starTarget nested .store)
  t.target? .store

/-! Comprehensions -/

def clause : Reader Tree := do
  keyword "for"
  let target ← starTargets nested
  keyword "in"
  let iter ← nested .disjunction
  let ifs ← many (keyword "if" *> nested .disjunction)
  return .node .comprehension [target, iter, .list ifs, .atom (.number "0")]

def clauses : Reader Tree := .list <$> many1 (clause nested)

/-! Displays -/

def strings : Reader Tree := do
  let parts ← many1 do
    match (← next).tok with
    | .string s => return (s, false)
    | .bytes s => return (s, true)
    | _ => failure
  let s := String.join (parts.map Prod.fst)
  if parts.all fun p => !p.2 then return .const (.text s)
  else if parts.all Prod.snd then return .const (.bytes s)
  else failure

/-- What follows an opening parenthesis. -/
def parenthesis : Reader Tree :=
  (op ")" *> pure (.tuple []))
  <|> (yieldExpr nested <* op ")")
  <|> do
    let m ← member nested
    if ← peekKeyword "for" then
      let t ← m.unstarred?
      let gens ← clauses nested
      op ")"
      return .node .generatorExp [t, gens]
    else if ← comma? then
      let rest ← optional (commasEnd (member nested))
      op ")"
      return .tuple (m.tree :: (rest.getD []).map Member.tree)
    else
      op ")"
      m.unstarred?

/-- The members that follow the first one, up to the closing bracket. -/
def membersAfter (m : Member) (close : String) : Reader (List Tree) := do
  let ms ← many (op "," *> member nested)
  discard comma?
  op close
  return (m :: ms).map Member.tree

def bracket : Reader Tree :=
  (op "]" *> pure (.node .list [.list [], .use .load]))
  <|> do
    let m ← member nested
    if ← peekKeyword "for" then
      let t ← m.unstarred?
      let gens ← clauses nested
      op "]"
      return .node .listComp [t, gens]
    else return .node .list [.list (← membersAfter nested m "]"), .use .load]

/-- A key with its value, or two stars with no key. -/
def entry : Reader (Tree × Tree) :=
  (do op "**"; return (.none, ← nested .bitOr))
  <|> do
    let k ← nested .expression
    op ":"
    return (k, ← nested .expression)

def dictOf (entries : List (Tree × Tree)) : Tree :=
  .node .dict [.list (entries.map Prod.fst), .list (entries.map Prod.snd)]

/-- The entries that follow the first one. -/
def entriesAfter (e : Tree × Tree) : Reader Tree := do
  let es ← many (op "," *> entry nested)
  discard comma?
  op "\x7d"
  return dictOf (e :: es)

def brace : Reader Tree :=
  (op "\x7d" *> pure (dictOf []))
  <|> do
    if ← peekOp "**" then entriesAfter nested (← entry nested)
    else
      let m ← member nested
      match m, ← peekOp ":" with
      | .plain k, true =>
        op ":"
        let v ← nested .expression
        if ← peekKeyword "for" then
          let gens ← clauses nested
          op "\x7d"
          return .node .dictComp [k, v, gens]
        else entriesAfter nested (k, v)
      | _, _ =>
        if ← peekKeyword "for" then
          let t ← m.unstarred?
          let gens ← clauses nested
          op "\x7d"
          return .node .setComp [t, gens]
        else return .node .set [.list (← membersAfter nested m "\x7d")]

/-- Whole numbers are written in other bases at any length. -/
def numberAtom (shown : String) : Atom :=
  if shown.all Char.isDigit && shown.length > Number.maxDigits then .vast else .number shown

def atom : Reader Tree := do
  match ← peek? 0 with
  | some (.name s) => next *> pure (.ident s)
  | some (.number s) => next *> pure (.const (numberAtom s))
  | some (.string _) | some (.bytes _) => strings
  | some (.keyword "None") => next *> pure (.const .none)
  | some (.keyword "True") => next *> pure (.const (.flag true))
  | some (.keyword "False") => next *> pure (.const (.flag false))
  | some (.op "...") => next *> pure (.const .ellipsis)
  | some (.op "(") => next *> parenthesis nested
  | some (.op "[") => next *> bracket nested
  | some (.op "\x7b") => next *> brace nested
  | _ => failure

/-! Calls and subscripts -/

inductive Arg where
  | plain (t : Tree)
  | starred (t : Tree)
  | keyword (t : Tree)
  | twoStars (t : Tree)

def keywordArg : Reader Tree := do
  let s ← name
  op "="
  return .node .keyword [.text s, ← nested .expression]

def arg : Reader Arg := do
  match ← peek? 0, ← peek? 1 with
  | some (.op "*"), _ => op "*"; return .starred (.starred (← nested .expression))
  | some (.op "**"), _ => op "**"; return .twoStars (.node .keyword [.none, ← nested .expression])
  | some (.name _), some (.op "=") => return .keyword (← keywordArg nested)
  | _, _ => return .plain (← named nested)

def Arg.isNamed : Arg → Bool
  | .keyword _ | .twoStars _ => true
  | _ => false

/-- A plain argument comes before the named ones, and a starred one before two stars. -/
def inOrder : List Arg → Bool
  | [] => true
  | a :: as =>
    (match a with
      | .keyword _ => !as.any fun
        | .plain _ => true
        | _ => false
      | .twoStars _ => as.all Arg.isNamed
      | _ => true) && inOrder as

/-- The arguments by place and by name. -/
def splitArgs (as : List Arg) : Tree × Tree :=
  (.list (as.filterMap fun
    | .plain t | .starred t => some t
    | _ => none),
   .list (as.filterMap fun
    | .keyword t | .twoStars t => some t
    | _ => none))

/-- The rest of an argument list, up to the closing parenthesis. -/
def closeArguments (as : List Arg) : Reader (Tree × Tree) := do
  if !as.isEmpty then discard comma?
  op ")"
  if inOrder as then return splitArgs as else failure

def argumentList : Reader (List Arg) := return (← optional (commas (arg nested))).getD []

/-- The arguments of a class. -/
def classArguments : Reader (Tree × Tree) := do closeArguments (← argumentList nested)

/-- The arguments of a call. A comprehension that is the only one needs no parentheses of its
own. -/
def callArguments : Reader (Tree × Tree) := do
  let as ← argumentList nested
  match as, ← peekKeyword "for" with
  | [.plain t], true =>
    let gens ← clauses nested
    op ")"
    return (.list [.node .generatorExp [t, gens]], .list [])
  | _, _ => closeArguments as

/-- The bounds that follow the lower one. -/
def sliceFrom (lower : Option Tree) : Reader Tree := do
  let bound := optional (nested .expression)
  op ":"
  let upper ← bound
  let step ← after? (.op ":") bound
  return .node .slice [.opt lower, .opt upper, .opt step.join]

def slice : Reader Tree := do
  if ← peekOp ":" then sliceFrom nested none
  else
    let m ← namedExpression nested
    match m, ← peekOp ":" with
    | .plain t, true => sliceFrom nested (some t)
    | _, _ => return m.tree

def slices : Reader Tree := do
  let part : Reader Tree := (do op "*"; return .starred (← nested .expression)) <|> slice nested
  let alone := !(← peekOp "*")
  let t ← part
  let ts ← many (op "," *> part)
  let ended ← comma?
  op "]"
  return if ts.isEmpty && !ended && alone then t else .tuple (t :: ts)

/-- What may follow a value: an attribute, a call or a subscript. -/
def trailer : Reader (Tree → Tree) := do
  match (← next).tok with
  | .op "." => do
    let s ← name
    return fun t => .node .attr [t, .text s, .use .load]
  | .op "(" => do
    let (args, keywords) ← callArguments nested
    return fun t => .node .call [t, args, keywords]
  | .op "[" => do
    let s ← slices nested
    return fun t => .node .subscript [t, s, .use .load]
  | _ => failure

def primary : Reader Tree := do
  let t ← atom nested
  return (← many (trailer nested)).foldl (fun t f => f t) t

/-! Operators -/

def unaryOps : List (String × Op) := [("+", .uAdd), ("-", .uSub), ("~", .invert)]

def factor : Reader Tree :=
  (do
    let o ← choose unaryOps
    return .node .unaryOp [.op o, ← nested .factor])
  <|> do
    let t ← primary nested
    match ← after? (.op "**") (nested .factor) with
    | some e => return .node .binOp [t, .op .pow, e]
    | none => return t

/-- The binary operators that group to the left, the loosest first. -/
def binaryOps : List (List (String × Op)) := [
  [("|", .bitOr)],
  [("^", .bitXor)],
  [("&", .bitAnd)],
  [("<<", .lShift), (">>", .rShift)],
  [("+", .add), ("-", .sub)],
  [("*", .mult), ("/", .div), ("//", .floorDiv), ("%", .mod), ("@", .matMult)]]

def binary : List (List (String × Op)) → Reader Tree
  | [] => factor nested
  | ops :: tighter => do
    let t ← binary tighter
    let rest ← many (return (← choose ops, ← binary tighter))
    return rest.foldl (fun l r => .node .binOp [l, .op r.1, r.2]) t

def bitOr : Reader Tree := binary nested binaryOps

def comparisonOps : List (String × Op) := [
  ("==", .eq), ("!=", .notEq), ("<", .lt), ("<=", .ltE), (">", .gt), (">=", .gtE)]

def comparisonOp : Reader Op :=
  choose comparisonOps
  <|> (keyword "in" *> pure .isIn)
  <|> (keyword "not" *> keyword "in" *> pure .notIn)
  <|> (keyword "is" *> keyword "not" *> pure .isNot)
  <|> (keyword "is" *> pure .is)

def comparison : Reader Tree := do
  let t ← bitOr nested
  let rest ← many (return (← comparisonOp, ← bitOr nested))
  if rest.isEmpty then return t
  else return .node .compare [t, .list (rest.map fun r => .op r.1), .list (rest.map Prod.snd)]

def inversion : Reader Tree :=
  (do keyword "not"; return .node .unaryOp [.op .not, ← nested .inversion])
  <|> comparison nested

/-- Values joined by one word make one node. -/
def joined (word : String) (o : Op) (p : Reader Tree) : Reader Tree := do
  let t ← p
  let ts ← many (keyword word *> p)
  return if ts.isEmpty then t else .node .boolOp [.op o, .list (t :: ts)]

def disjunction : Reader Tree := joined "or" .or (joined "and" .and (inversion nested))

/-! Parameters -/

/-- A parameter; its name is read by `plainName`, and after a star by `starName`. -/
def param (plainName starName : Reader Tree) : Reader Param :=
  (op "/" *> pure .slash)
  <|> (do op "**"; return .twoStars (← plainName))
  <|> (do op "*"; return .star (← optional starName))
  <|> do
    let a ← plainName
    return .plain a (← after? (.op "=") (nested .expression))

def params (plainName starName : Reader Tree) : Reader Tree := do
  Params.tree? ((← optional (commasEnd (param nested plainName starName))).getD [])

def bareArg : Reader Tree := return .node .arg [.text (← name), .none]

def lambda : Reader Tree := do
  keyword "lambda"
  let ps ← params nested bareArg bareArg
  op ":"
  return .node .lambda [ps, ← nested .expression]

def conditional : Reader Tree := do
  let t ← disjunction nested
  let rest ← optional do
    keyword "if"
    let test ← disjunction nested
    keyword "else"
    return (test, ← nested .expression)
  match rest with
  | some (test, other) => return .node .ifExp [test, t, other]
  | none => return t

def level : Level → Reader Tree
  | .expression => lambda nested <|> conditional nested
  | .disjunction => disjunction nested
  | .inversion => inversion nested
  | .bitOr => bitOr nested
  | .factor => factor nested
  | .primary => primary nested

end

/-- Expressions of every level, nested at most as often as the number says. -/
def expr : Nat → Nested
  | 0 => fun _ => failure
  | n + 1 => level (expr n)

end Grammar

end Transpile.Source
