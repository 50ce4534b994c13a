import Transpile.Walk.Expr

/-! Rules for simple statements and control flow. -/

namespace Transpile.Walk

open Script Source

def expressionRule (cs : List Piece) : Walker Piece := return statement (← child cs 0)

def returnRule (cs : List Piece) : Walker Piece :=
  return (Form.returns (cs.headD .absent)).piece

def raiseRule (cs : List Piece) : Walker Piece := return (Form.throws (← child cs 0)).piece

def deleteRule (cs : List Piece) : Walker Piece := do
  let ds ← cs.mapM fun c => do
    let c ← bind c
    return statement (Form.unary (text "delete") c (.atom (.flag false))).piece
  return splice ds

def isIdentifier : Piece → Bool
  | .node (.leaf .ident _) _ => true
  | _ => false

/-- The elements of an array form. -/
def arrayParts? : Piece → Option (List Piece)
  | .node (.array s) _ => some ((s.parts?.getD []).filter fun p => !p.isAbsent)
  | _ => none

/-- The parts of an array taken one by one from the array under its name. -/
def unpack (source : Piece) (items : List Piece) : List Piece :=
  items.zipIdx.map fun e =>
    statement (assignTo "=" e.1 (Form.bracket source (leaf .number (toString e.2))).piece)

/-- Assigns to the targets, the last one first. An array assigned to an array goes through a
temporary, and its parts are taken from there afterwards. -/
def assignTargets (value : Piece) : List Piece → Piece → List Piece → Walker (Piece × List Piece)
  | [], chain, extras => pure (chain, extras)
  | t :: ts, chain, extras => do
    let t ← if isIdentifier t then bind t else pure t
    let (t, extras) ← match arrayParts? t, arrayParts? value with
      | some items, some _ => do
        let r ← fresh "_ref"
        pure (r, extras ++ unpack r items)
      | _, _ => pure (t, extras)
    assignTargets value ts (assignTo "=" t (if chain.isAbsent then value else chain)) extras

def assignRule (cs : List Piece) : Walker Piece := do
  match cs.getLast? with
  | none => throw .missingChild
  | some value =>
    let (chain, extras) ← assignTargets value cs.dropLast.reverse .absent []
    if extras.isEmpty then return statement chain
    else return splice (statement chain :: extras)

/-- The target joined to the value by a function of two pieces. -/
def augmented (f : Piece → Piece → Piece) (target : Piece) (cs : List Piece) : Walker Piece :=
  return f target (← child cs 1)

def augmentRule (op : Tree) (cs : List Piece) : Walker Piece := do
  let target ← child cs 0
  match ← operatorOf op with
  | some .pow => return statement (assignTo "=" target (← augmented powerOf target cs))
  | some .floorDiv => return statement (assignTo "=" target (← augmented floorOf target cs))
  | _ =>
    let o ← child cs 1
    let value ← child cs 2
    let target ← if isIdentifier target then bind target else pure target
    match o with
    | .text s => return statement (assignTo (s ++ "=") target value)
    | _ => throw .wrongType

/-- Whether a piece is a conditional statement. -/
def isIf : Piece → Bool
  | .node (.ifThen ..) _ => true
  | _ => false

def ifRule (body orelse : Tree) (cs : List Piece) : Walker Piece := do
  let test ← child cs 0
  let n ← sizeOfField body
  let yes := block ((cs.drop 1).take n)
  let m ← sizeOfField orelse
  let rest := cs.drop (n + 1)
  let no ← if m = 0 then pure .absent
    else if m = 1 then do
      let first ← child rest 0
      pure (if isIf first then first else block rest)
    else pure (block rest)
  return (Form.ifThen test yes no).piece

/-- A loop with an else part keeps in a flag whether its body was ever entered. -/
def whileRule (body orelse : Tree) (cs : List Piece) : Walker Piece := do
  let test ← child cs 0
  let n ← sizeOfField body
  let inner := (cs.drop 1).take n
  if (← given orelse).isTruthy then
    let flag ← fresh "ref"
    let start := statement (assignTo "=" flag (leaf .boolean "true"))
    let enter := statement (assignTo "=" flag (leaf .boolean "false"))
    return splice [start, (Form.whileDo test (block (enter :: inner))).piece,
      (Form.ifThen flag (block (cs.drop (n + 1))) .absent).piece]
  else return (Form.whileDo test (block inner)).piece

def forRule (cs : List Piece) : Walker Piece := do
  let i ← fresh "ref"
  let values ← fresh "ref"
  let item ← child cs 0
  let source ← child cs 1
  let body ← child cs 2
  let _ ← declaration values source
  let test := binary "<" i (dot values "length")
  let step := (Form.unary (text "++") i (.atom (.flag true))).piece
  let start := (Form.comma (assignTo "=" i (leaf .number "0")) (assignTo "=" values source)).piece
  let item ← bind item
  let take := statement (assignTo "=" item (Form.bracket values i).piece)
  return (Form.forLoop start test step (block [take, body])).piece

def isCatch : Piece → Bool
  | .node (.catchDo ..) _ => true
  | _ => false

def isStatement : Piece → Bool
  | .node (.exprStatement _) _ => true
  | _ => false

def tryRule (final : Tree) (cs : List Piece) : Walker Piece := do
  let n ← sizeOfField final
  let (last, cs) := if n = 0 then ([], cs) else (lastOf n cs, butLast n cs)
  let handler := (cs.find? isCatch).getD .absent
  let cleanup := if last.isEmpty then .absent else (Form.finallyDo (Seq.ofPiece (block last))).piece
  return (Form.tryDo (block (cs.filter isStatement)) handler cleanup).piece

def handlerRule (name : Tree) (cs : List Piece) : Walker Piece := do
  let id ← sourceName (← atomField name)
  return (← need (Form.handler id (Seq.ofPiece (block (cs.filter isStatement))))).piece

/-! Imports -/

def entry (es : List (String × Atom)) (k : String) : Walker Atom :=
  match es.lookup k with
  | some a => pure a
  | none => throw .missingKey

/-- The name that an import gives, the other if it gives none. -/
def localName (es : List (String × Atom)) (name : Atom) : Walker (Option String) := do
  let a ← entry es "asname"
  return some (if a.isTruthy then a.shown else name.shown)

/-- Importing one of the two special names sets the name it goes by. -/
def importOne (p : Piece) : Walker Unit :=
  match p with
  | .record es => do
    let name ← entry es "name"
    match name with
    | .text "_global" =>
      let n ← localName es name
      modify fun s => { s with globalName := n }
    | .text "_new" =>
      let n ← localName es name
      modify fun s => { s with newName := n }
    | _ => pure ()
  | _ => throw .wrongType

def importRule (cs : List Piece) : Walker Piece := do
  cs.forM importOne
  return .absent

def entryOf (name : String) : Tree → List (String × Atom)
  | .atom a => [(name, a)]
  | _ => []

/-- An imported name as a record. One read from source text also has its place there. -/
def aliasRule (name asName : Tree) (place : List Tree) : Walker Piece :=
  match place with
  | [.atom l, .atom c, .atom l', .atom c'] =>
    return .record (entryOf "name" name ++ entryOf "asname" asName ++
      [("lineno", l), ("col_offset", c), ("end_lineno", l'), ("end_col_offset", c')])
  | _ => return .record (entryOf "asname" asName ++ entryOf "name" name)

end Transpile.Walk
