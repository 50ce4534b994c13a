import Transpile.Script.Piece

/-! Script trees as text. A block's lines stand two levels deeper than the block; a failure leaves
the level where it was reached. -/

namespace Transpile.Script

/-- Rendering reads the text of one level, keeps the current level, and may fail. -/
abbrev Render := ReaderT String (ExceptT Cause (StateM Nat))

namespace Render

def deeper : Render Unit := modify (· + 2)

def shallower : Render Unit := modify (· - 2)

/-- The blanks before a line at the current level. -/
def margin : Render String := do
  return String.join (List.replicate (← get) (← read))

def say (s : String) : Render Piece := pure (.text s)

/-- Joining takes text only. -/
def textOf : Piece → Render String
  | .text s => pure s
  | _ => throw .wrongType

def joined (sep : String) (ps : List Piece) : Render String := do
  return sep.intercalate (← ps.mapM textOf)

/-- What a form without a rule of its own is rendered as. -/
def unruled (p : Piece) : Render Piece := say ("GEN: " ++ p.quoted)

/-- A part of a form with its renderings: by its own form, and as a case of a switch. -/
structure Item where
  piece : Piece
  run : Render Piece
  asCase : Render String

def present (xs : List Item) : List Item := xs.filter fun x => !x.piece.isAbsent

def each (xs : List Item) : Render (List Piece) := xs.mapM (·.run)

/-- The items on lines of their own at the current level. -/
def lines (sep : String) (xs : List Item) : Render String := do
  return sep.intercalate (← xs.mapM fun x => do
    let m ← margin
    return m ++ (← textOf (← x.run)))

/-- The items two levels deeper. -/
def indented (sep : String) (xs : Render (List Item)) : Render String := do
  deeper
  let s ← lines sep (← xs)
  shallower
  return s

def list (sep : String) (xs : List Item) : Render String := do
  joined sep (← each xs)

/-- Array elements: a hole is a comma, and a comma follows each element but the last. -/
def cells : List Item → Render String
  | [] => pure ""
  | x :: xs => do
    let s ← match x.piece with
      | .node (.leaf .elision _) _ => pure ","
      | _ => do
        let s ← textOf (← x.run)
        pure (if xs.isEmpty then s else s ++ ",")
    return s ++ (← cells xs)

def cases (xs : List Item) : Render String := do
  return String.join (← xs.mapM fun x => do
    let m ← margin
    return m ++ (← x.asCase))

/-- A body between braces, its lines two levels deeper. -/
def braces (body : String) : Render String := do
  return "\x7b\n" ++ body ++ "\n" ++ (← margin) ++ "\x7d"

end Render

open Render

def Marks.wrap (m : Marks) (s : String) : String := if m.parens then "(" ++ s ++ ")" else s

/-- Loop starts that are expressions, and so want a semicolon after them. -/
def Piece.isLoopStart : Piece → Bool
  | .node f _ => match f with
    | .leaf .ident _ | .leaf .regex _ | .assign .. | .comma .. | .call .. | .unary .. | .binary ..
    | .conditional .. | .newExpr .. => true
    | _ => false
  | _ => false

def Piece.isVarDecl : Piece → Bool
  | .node (.varDecl ..) _ => true
  | _ => false

/-- Operators that are words and stand apart from their operand. -/
def isWordOp (op : Piece) : Bool :=
  match op with
  | .text s => s = "delete" || s = "void" || s = "typeof"
  | _ => false

def Leaf.render (k : Leaf) (v : Piece) (m : Marks) : Render Piece :=
  match k with
  | .null => say "null"
  | .debugger => say (v.shown ++ ";")
  | .regex => if m.parens then say ("(" ++ v.shown ++ ")") else pure v
  | .elision => unruled (.node (.leaf k v) m)
  | _ => pure v

def caseText (test : Piece) (body : String) : String :=
  "case " ++ test.shown ++ ":\n" ++ (if body.isEmpty then "" else body ++ "\n")

mutual

def Piece.render : Piece → Render Piece
  | .node f m => f.render m
  | .atom a => unruled (.atom a)
  | .record es => unruled (.record es)
  | .items xs => unruled (.items xs)

def Form.render (f : Form) (m : Marks) : Render Piece :=
  match f with
  | .leaf k v => k.render v m
  | .group .program s => do say (← list "\n" (present (← s.actions)))
  | .group .block s => do
    say (← braces (← indented "\n" (do return present (← s.actions))))
  | .group .vars s => do say ("var " ++ (← list ", " (present (← s.actions))) ++ ";")
  | .group k s => unruled (.node (.group k s) m)
  | .array s => do
    match s with
    | .spread (.node ..) _ => throw .wrongType
    | _ => say ("[" ++ (← cells (← s.actions)) ++ "]")
  | .object s => do
    let body ← indented ",\n" s.actions
    let close ← margin
    say ("\x7b\n" ++ body ++ (if s.host.isTruthy then "\n" else "") ++ close ++ "\x7d")
  | .newExpr c s => do
    let callee ← c.render
    say ("new " ++ callee.shown ++ "(" ++ (← list ", " (← s.actions)) ++ ")")
  | .call c s => do
    let callee ← c.render
    say (m.wrap (callee.shown ++ "(" ++ (← list ", " (← s.actions)) ++ ")"))
  | .bracket t i => do
    let target ← t.render
    say (target.shown ++ "[" ++ (← i.render).shown ++ "]")
  | .dot t n => do
    let target ← t.render
    say (m.wrap (target.shown ++ "." ++ (← n.render).shown))
  | .assign op l r => do
    let left ← l.render
    let right ← r.render
    let gap := match op with
      | .text ":" => ""
      | _ => " "
    say (m.wrap (left.shown ++ gap ++ op.shown ++ " " ++ right.shown))
  | .getter n b => do
    let body ← indented "\n" b.actions
    let close ← margin
    let name ← n.render
    say (m.wrap ("get " ++ name.shown ++ "() \x7b\n" ++ body ++ "\n" ++ close ++ "\x7d"))
  | .setter n ps b => do
    match ps with
    | .spread (.node ..) _ => throw .wrongType
    | _ =>
      let params ← ps.actions
      if params.length > 1 then throw (.setterParameters (Form.quoted (.setter n ps b) m))
      let params ← list "," params
      let body ← indented "\n" b.actions
      let close ← margin
      let name ← n.render
      say (m.wrap ("set " ++ name.shown ++ "(" ++ params ++ ") \x7b\n" ++ body ++ "\n" ++ close
        ++ "\x7d"))
  | .varDecl n v => do
    let name ← n.render
    if v.isAbsent then say (← textOf name)
    else
      let value ← v.render
      say ((← textOf name) ++ " = " ++ value.shown)
  | .unary op v t => do
    let operand ← v.render
    if t.isTruthy then say (m.wrap ((← textOf operand) ++ (← textOf op)))
    else if isWordOp op then say (m.wrap (op.shown ++ " " ++ operand.shown))
    else say (m.wrap (op.shown ++ operand.shown))
  | .binary op l r => do
    let left ← l.render
    say (m.wrap (left.shown ++ " " ++ op.shown ++ " " ++ (← r.render).shown))
  | .conditional t y n => do
    let test ← t.render
    let yes ← y.render
    say (m.wrap (test.shown ++ " ? " ++ yes.shown ++ " : " ++ (← n.render).shown))
  | .ifThen t y n => do
    let test ← if t.isAbsent then pure "" else textOf (← t.render)
    let yes ← textOf (← y.render)
    let no ← if n.isAbsent then pure "" else do pure (" else " ++ (← textOf (← n.render)))
    say ("if (" ++ test ++ ") " ++ yes ++ no)
  | .doWhile t b => do
    let body ← textOf (← b.render)
    say ("do " ++ body ++ " while (" ++ (← t.render).shown ++ ");")
  | .whileDo t b => do
    let test ← t.render
    say ("while (" ++ test.shown ++ ") " ++ (← textOf (← b.render)))
  | .forLoop i t s b => do
    let start ← if i.isAbsent then pure "" else textOf (← i.render)
    let gap := if i.isAbsent then " ; " else if i.isLoopStart then "; " else " "
    let test ← if t.isAbsent then pure "" else textOf (← t.render)
    let step ← if s.isAbsent then pure "" else textOf (← s.render)
    say ("for (" ++ start ++ gap ++ test ++ "; " ++ step ++ ") " ++ (← textOf (← b.render)))
  | .forIn i s b => do
    let item ← i.render
    let source ← s.render
    say ("for (" ++ (if i.isVarDecl then "var " else "") ++ item.shown ++ " in " ++ source.shown
      ++ ") " ++ (← textOf (← b.render)))
  | .continueTo l => do
    if l.isAbsent then say "continue;" else say ("continue " ++ (← l.value).shown ++ ";")
  | .breakTo l => do
    if l.isAbsent then say "break;" else say ("break " ++ (← l.value).shown ++ ";")
  | .returns v => do
    if v.isAbsent then say "return;" else say ("return " ++ (← v.render).shown ++ ";")
  | .withDo s b => do
    let subject ← s.render
    say ("with (" ++ subject.shown ++ ") " ++ (← textOf (← b.render)))
  | .switch e cs d => do
    let subject ← e.render
    deeper
    let body ← cases (← cs.actions)
    let last ← if d.isAbsent then pure "" else d.renderDefault
    shallower
    say ("switch (" ++ subject.shown ++ ") \x7b\n" ++ body ++ last ++ (← margin) ++ "\x7d")
  | .caseOf e b => do
    let test ← e.render
    let body ← indented "\n" b.actions
    say (caseText test body)
  | .defaultCase b => do
    let m ← margin
    let body ← indented "\n" b.actions
    say (m ++ "default:\n" ++ body ++ "\n")
  | .label n b => do
    let name ← n.render
    say (name.shown ++ ": " ++ (← b.render).shown)
  | .throws v => do say ("throw " ++ (← v.render).shown ++ ";")
  | .tryDo b c f => do
    let body ← textOf (← b.render)
    let handler ← if c.isAbsent then pure "" else do pure (" " ++ (← textOf (← c.render)))
    let cleanup ← if f.isAbsent then pure "" else do pure (" " ++ (← textOf (← f.render)))
    say ("try " ++ body ++ handler ++ cleanup)
  | .catchDo n b => do
    let name ← n.render
    say ("catch (" ++ name.shown ++ ") " ++ (← b.renderHost).shown)
  | .finallyDo b => do say ("finally " ++ (← b.renderHost).shown)
  | .function .decl n ps b => do
    let body ← indented "\n" b.actions
    let name ← n.render
    let params ← list ", " (← ps.actions)
    say ("function " ++ name.shown ++ "(" ++ params ++ ") " ++ (← braces body))
  | .function .expr n ps b => do
    let body ← indented "\n" b.actions
    let name ← if n.isAbsent then pure "" else do pure (" " ++ (← n.render).shown)
    let params ← list ", " (← ps.actions)
    say (m.wrap ("function" ++ name ++ "(" ++ params ++ ") " ++ (← braces body)))
  | .function .base n ps b => unruled (.node (.function .base n ps b) m)
  | .comma l r => do
    let left ← l.render
    say (m.wrap (left.shown ++ ", " ++ (← r.render).shown))
  | .exprStatement v => do say ((← v.render).shown ++ ";")
  | .this => say "this"

/-- A piece in the place of a case: its test, and then its body two levels deeper. -/
def Piece.renderCase : Piece → Render String
  | .node f _ => match f with
    | .caseOf e b => do
      let test ← e.render
      let body ← indented "\n" b.actions
      return caseText test body
    | .bracket _ e | .returns e | .withDo e _ | .switch e _ _ | .throws e | .exprStatement e => do
      let _ ← e.render
      deeper
      throw .missingAttribute
    | _ => throw .missingAttribute
  | _ => throw .missingAttribute

/-- A piece in the place of the default case. -/
def Piece.renderDefault : Piece → Render String
  | .node f _ => match f with
    | .defaultCase b | .caseOf _ b | .getter _ b | .setter _ _ b | .function _ _ _ b
    | .catchDo _ b | .finallyDo b => do
      let m ← margin
      let body ← indented "\n" b.actions
      return m ++ "default:\n" ++ body ++ "\n"
    | _ => do
      deeper
      throw .missingAttribute
  | _ => do
    deeper
    throw .missingAttribute

/-- What stands in the place of a list, rendered by its own form. -/
def Seq.renderHost : Seq → Render Piece
  | .items xs => unruled (.items xs)
  | .spread p _ => p.render
  | .single p => p.render

/-- The parts of a sequence with their renderings. -/
def Seq.actions : Seq → Render (List Item)
  | .items xs => pure (actionsOf xs)
  | .spread _ xs => pure (actionsOf xs)
  | .single _ => throw .wrongType

def actionsOf : List Piece → List Item
  | [] => []
  | p :: ps => ⟨p, p.render, p.renderCase⟩ :: actionsOf ps

end

/-- A width of a level must be a signed word of 64 bits, and that many blanks must have addresses. -/
def checkWidth (width : Int) : Except Cause Unit :=
  if width < -Int.pow 2 63 || Int.pow 2 63 ≤ width then .error .outOfRange
  else if Int.pow 2 47 ≤ width then .error .outOfMemory
  else .ok ()

/-- Renders a piece from the given level with `width` blanks a level, none if `width` is
negative. -/
def Piece.renderAt (width : Int) (level : Nat) (p : Piece) : Except Cause Piece × Nat :=
  p.render (String.ofList (List.replicate width.toNat ' ')) level

/-- Renders a form with two blanks a level. Only forms stand by themselves. -/
def Piece.renderAlone : Piece → Except Cause Piece
  | .node f m => ((Piece.node f m).renderAt 2 0).1
  | _ => .error .missingAttribute

end Transpile.Script
