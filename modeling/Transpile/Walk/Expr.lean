import Transpile.Walk.Rule

/-! Rules for expressions. -/

namespace Transpile.Walk

open Script Source

/-- What an operator stands as among the results; the others leave none. -/
def operatorText : Op → Option String
  | .add => some "+"
  | .sub => some "-"
  | .mult => some "*"
  | .div => some "/"
  | .mod => some "%"
  | .is | .eq => some "==="
  | .notEq => some "!=="
  | .lt => some "<"
  | .ltE => some "<="
  | .gt => some ">"
  | .gtE => some ">="
  | .and => some "&&"
  | .or => some "||"
  | _ => none

def operatorRule (o : Op) : Walker Piece :=
  match operatorText o with
  | some s => pure (text s)
  | none => pure .absent

def unaryText : Option Op → String
  | some .uSub => "-"
  | some .uAdd => "+"
  | some .not => "!"
  | some .invert => "~"
  | _ => ""

def unaryRule (op : Tree) (cs : List Piece) : Walker Piece := do
  let o ← operatorOf op
  return (Form.unary (text (unaryText o)) (← child cs 0) (.atom (.flag false))).piece

/-- `Math.pow(l, r)` -/
def powerOf (l r : Piece) : Piece := callOf (dot (word "Math") "pow") [l, r]

/-- `Math.floor(l / r)` -/
def floorOf (l r : Piece) : Piece := callOf (dot (word "Math") "floor") [binary "/" l r]

/-- Operators between bits, which leave no result of their own. -/
def bitText : Op → Option String
  | .bitOr => some "|"
  | .bitAnd => some "&"
  | .bitXor => some "^"
  | .lShift => some "<<"
  | .rShift => some ">>"
  | _ => none

/-- Parentheses inside the operands of an operator. -/
def grouped (p : Piece) : Walker Piece := do
  if ← inOperator then return p.inParens else return p

def binaryRule (op : Tree) (cs : List Piece) : Walker Piece := do
  match ← operatorOf op with
  | some .pow => return powerOf (← child cs 0) (← child cs 1)
  | some .floorDiv => return floorOf (← child cs 0) (← child cs 1)
  | o => match o.bind bitText with
    | some s => return binary s (← child cs 0) (← child cs 1)
    | none => grouped (Form.binary (← child cs 1) (← child cs 0) (← child cs 2)).piece

def boolRule (cs : List Piece) : Walker Piece := do
  grouped (Form.binary (← child cs 0) (← child cs 1) (← child cs 2)).piece

def compareRule (cs : List Piece) : Walker Piece := do
  return (Form.binary (← child cs 1) (← child cs 0) (← child cs 2)).piece

def numberRule (n : Tree) : Walker Piece := do
  match ← atomField n with
  | .atom .vast => throw .tooManyDigits
  | v => return (Form.leaf .number (text v.shown)).piece

def stringRule (s : Tree) : Walker Piece := do
  return (Form.leaf .string (text ("\"" ++ (← atomField s).shown ++ "\""))).piece

def nameRule (id : Tree) : Walker Piece := do
  match ← atomField id with
  | .text "None" => return leaf .null "None"
  | .text "True" => return leaf .boolean "true"
  | .text "False" => return leaf .boolean "false"
  | name => sourceName name

def callRule (func : Tree) (cs : List Piece) : Walker Piece := do
  match ← given func with
  | .node .name _ => return callOf (← child cs 0) (cs.drop 1)
  | _ => return callOf (← child cs 0) ((cs.drop 1).filter Piece.isTruthy)

def attributeRule (name : Tree) (cs : List Piece) : Walker Piece := do
  let target ← child cs 0
  return (Form.dot target (← sourceName (← atomField name))).piece

/-- Index, or slice between bounds; the bounds of a slice are walked again here. -/
def subscriptRule (slice : Branch) (cs : List Piece) : Walker Piece := do
  let target ← child cs 0
  match ← given slice.tree, slice.parts with
  | .node .slice _, [lower, upper, step] =>
    if step.tree.isTruthy then throw .steppedSlice
    let low ← if lower.tree.isTruthy then lower.again else pure (leaf .number "0")
    let high ← if upper.tree.isTruthy then do pure [← upper.again] else pure []
    return callOf (dot target "slice") (low :: high)
  | _, _ => return (Form.bracket target (← child cs 1)).piece

def arrayRule (cs : List Piece) : Walker Piece := return (Form.array (.items cs)).piece

/-- Keys stand before values, as many of the one as of the other. -/
def dictRule (cs : List Piece) : Walker Piece := do
  let n := cs.length / 2
  let properties ← ((cs.take n).zip (cs.drop n)).mapM fun e => do
    return assignTo ":" (← sourceName (← need e.1.value)) e.2
  return (Form.object (.items properties)).piece

def lambdaRule (cs : List Piece) : Walker Piece := do
  let params ← child cs 0
  functionOf (Seq.ofPiece params) (.items ((cs.drop 1).map statement))

end Transpile.Walk
