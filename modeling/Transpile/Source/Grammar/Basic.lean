import Transpile.Source.Token

/-! Reading a list of tokens from the left. A reader takes some tokens and gives a value, or fails
and takes none; of two readers the second one is asked only if the first fails. -/

namespace Transpile.Source

abbrev Reader := StateT (List Token) Option

namespace Reader

def next : Reader Token := fun
  | t :: ts => some (t, ts)
  | [] => none

/-- The token after the first `n`; it is not taken. -/
def peek? (n : Nat) : Reader (Option Tok) := fun ts => some (ts[n]?.map Token.tok, ts)

def accept (t : Tok) : Reader Unit := do
  if (← next).tok ≠ t then failure

def op (s : String) : Reader Unit := accept (.op s)

def keyword (s : String) : Reader Unit := accept (.keyword s)

def name : Reader String := do
  match (← next).tok with
  | .name s => return s
  | _ => failure

def peekOp (s : String) : Reader Bool := return (← peek? 0) == some (.op s)

def peekKeyword (s : String) : Reader Bool := return (← peek? 0) == some (.keyword s)

/-- The value of `p`, if the next token is `t` and then `p` holds. -/
def after? (t : Tok) (p : Reader α) : Reader (Option α) := optional (accept t *> p)

def manyFrom (p : Reader α) (ts : List Token) : Option (List α × List Token) :=
  match p ts with
  | none => some ([], ts)
  | some (a, rest) =>
    if rest.length < ts.length then do
      let (as, last) ← manyFrom p rest
      return (a :: as, last)
    else none
termination_by ts.length

/-- As often as `p` holds; each time it must take a token. -/
def many (p : Reader α) : Reader (List α) := manyFrom p

def many1 (p : Reader α) : Reader (List α) := return (← p) :: (← many p)

/-- One or more, with commas between. -/
def commas (p : Reader α) : Reader (List α) := return (← p) :: (← many (op "," *> p))

def comma? : Reader Bool := return (← optional (op ",")).isSome

/-- One or more, with commas between; the last one may have a comma too. -/
def commasEnd (p : Reader α) : Reader (List α) := do
  let as ← commas p
  discard comma?
  return as

/-- A value by itself, or the tuple that a comma makes. -/
def tupleOr (tuple : List α → α) (p : Reader α) : Reader α := do
  let a ← p
  let as ← many (op "," *> p)
  let ended ← comma?
  return if as.isEmpty && !ended then a else tuple (a :: as)

/-- The operator of the table that the next token names. -/
def choose (table : List (String × α)) : Reader α := do
  match (← next).tok with
  | .op s => table.lookup s
  | _ => failure

end Reader

end Transpile.Source
