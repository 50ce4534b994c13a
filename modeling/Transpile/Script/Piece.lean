import Transpile.Atom
import Transpile.Cause

/-! Script trees. A `Piece` is a syntax form with its marks, or a raw value that stands in a form's
place; a `Seq` is what stands where a form wants a list. -/

namespace Transpile.Script

/-- Forms that hold one value and no parts. -/
inductive Leaf where
  | boolean | null | number | ident | string | regex | elision | empty | debugger
  deriving DecidableEq, Repr

/-- Forms that hold a list of parts and nothing else. -/
inductive Group where
  | plain
  /-- Parts that join the list they are put into. -/
  | splice
  | program | block | vars
  deriving DecidableEq, Repr

inductive Function where
  | base | decl | expr
  deriving DecidableEq, Repr

structure Marks where
  parens : Bool := false
  /-- A declaration has introduced this occurrence. -/
  declared : Bool := false
  /-- The binding that this occurrence shares with others. -/
  site : Option Nat := none
  /-- The address of the form, where it is known. -/
  place : Option Nat := none
  deriving DecidableEq, Repr, Inhabited

mutual

inductive Piece where
  | atom (a : Atom)
  | record (entries : List (String × Atom))
  | items (xs : List Piece)
  | node (form : Form) (marks : Marks)

inductive Form where
  | leaf (kind : Leaf) (value : Piece)
  | group (kind : Group) (parts : Seq)
  | array (elements : Seq)
  | object (properties : Seq)
  | newExpr (callee : Piece) (args : Seq)
  | call (callee : Piece) (args : Seq)
  | bracket (target index : Piece)
  | dot (target name : Piece)
  | assign (op left right : Piece)
  | getter (name : Piece) (body : Seq)
  | setter (name : Piece) (params body : Seq)
  | varDecl (name value : Piece)
  | unary (op operand trailing : Piece)
  | binary (op left right : Piece)
  | conditional (test yes no : Piece)
  | ifThen (test yes no : Piece)
  | doWhile (test body : Piece)
  | whileDo (test body : Piece)
  | forLoop (start test step body : Piece)
  | forIn (item source body : Piece)
  | continueTo (label : Piece)
  | breakTo (label : Piece)
  | returns (value : Piece)
  | withDo (subject body : Piece)
  | switch (subject : Piece) (cases : Seq) (fallback : Piece)
  | caseOf (test : Piece) (body : Seq)
  | defaultCase (body : Seq)
  | label (name body : Piece)
  | throws (value : Piece)
  | tryDo (body handler cleanup : Piece)
  | catchDo (name : Piece) (body : Seq)
  | finallyDo (body : Seq)
  | function (kind : Function) (name : Piece) (params body : Seq)
  | comma (left right : Piece)
  | exprStatement (value : Piece)
  | this

inductive Seq where
  | items (xs : List Piece)
  /-- A piece in the place of a list, with the parts that reading it as a list gives. -/
  | spread (host : Piece) (xs : List Piece)
  /-- A piece that cannot be read as a list. -/
  | single (host : Piece)

end

instance : Inhabited Piece := ⟨.atom .none⟩

@[match_pattern] abbrev Piece.absent : Piece := .atom .none
@[match_pattern] abbrev Piece.text (s : String) : Piece := .atom (.text s)

/-- A form without marks. -/
def Form.piece (f : Form) : Piece := .node f {}

def Piece.isAbsent : Piece → Bool
  | .absent => true
  | _ => false

/-- The name of the form in traces. -/
def Form.className : Form → String
  | .leaf .boolean _ => "Boolean"
  | .leaf .null _ => "Null"
  | .leaf .number _ => "Number"
  | .leaf .ident _ => "Identifier"
  | .leaf .string _ => "String"
  | .leaf .regex _ => "Regex"
  | .leaf .elision _ => "Elision"
  | .leaf .empty _ => "EmptyStatement"
  | .leaf .debugger _ => "Debugger"
  | .group .plain _ => "Node"
  | .group .splice _ => "SetOfNodes"
  | .group .program _ => "Program"
  | .group .block _ => "Block"
  | .group .vars _ => "VarStatement"
  | .array _ => "Array"
  | .object _ => "Object"
  | .newExpr _ _ => "NewExpr"
  | .call _ _ => "FunctionCall"
  | .bracket _ _ => "BracketAccessor"
  | .dot _ _ => "DotAccessor"
  | .assign _ _ _ => "Assign"
  | .getter _ _ => "GetPropAssign"
  | .setter _ _ _ => "SetPropAssign"
  | .varDecl _ _ => "VarDecl"
  | .unary _ _ _ => "UnaryOp"
  | .binary _ _ _ => "BinOp"
  | .conditional _ _ _ => "Conditional"
  | .ifThen _ _ _ => "If"
  | .doWhile _ _ => "DoWhile"
  | .whileDo _ _ => "While"
  | .forLoop _ _ _ _ => "For"
  | .forIn _ _ _ => "ForIn"
  | .continueTo _ => "Continue"
  | .breakTo _ => "Break"
  | .returns _ => "Return"
  | .withDo _ _ => "With"
  | .switch _ _ _ => "Switch"
  | .caseOf _ _ => "Case"
  | .defaultCase _ => "Default"
  | .label _ _ => "Label"
  | .throws _ => "Throw"
  | .tryDo _ _ _ => "Try"
  | .catchDo _ _ => "Catch"
  | .finallyDo _ => "Finally"
  | .function .base _ _ _ => "FuncBase"
  | .function .decl _ _ _ => "FuncDecl"
  | .function .expr _ _ _ => "FuncExpr"
  | .comma _ _ => "Comma"
  | .exprStatement _ => "ExprStatement"
  | .this => "This"

/-- An address as a form shows it. -/
def addressText (n : Nat) : String := " at 0x" ++ String.ofList (Nat.toDigits 16 n)

/-- The form in traces, with its address if that is known. -/
def Form.quoted (f : Form) (m : Marks) : String :=
  "<cobra.ast." ++ f.className ++ " object" ++ (m.place.map addressText).getD "" ++ ">"

mutual

/-- The piece in traces. -/
def Piece.quoted : Piece → String
  | .atom a => a.quoted
  | .record es =>
    "\x7b" ++ ", ".intercalate (es.map fun e => Text.quoted e.1 ++ ": " ++ e.2.quoted) ++ "\x7d"
  | .items xs => "[" ++ ", ".intercalate (quotedAll xs) ++ "]"
  | .node f m => f.quoted m

def quotedAll : List Piece → List String
  | [] => []
  | p :: ps => p.quoted :: quotedAll ps

end

/-- The piece in running text. -/
def Piece.shown : Piece → String
  | .atom a => a.shown
  | p => p.quoted

def Piece.isTruthy : Piece → Bool
  | .atom a => a.isTruthy
  | .record es => !es.isEmpty
  | .items xs => !xs.isEmpty
  | .node _ _ => true

/-- The piece that stands in the place of the list. -/
def Seq.host : Seq → Piece
  | .items xs => .items xs
  | .spread p _ => p
  | .single p => p

/-- The parts that reading the sequence gives. -/
def Seq.parts? : Seq → Option (List Piece)
  | .items xs => some xs
  | .spread _ xs => some xs
  | .single _ => none

/-- The members of a list; nothing else can be joined to a list. -/
def Seq.members? : Seq → Option (List Piece)
  | .items xs => some xs
  | _ => none

mutual

/-- The parts that reading a piece as a list gives. -/
def Piece.parts? : Piece → Option (List Piece)
  | .text s => some ((Text.characters s.toList).map fun c => .text (String.ofList c))
  | .atom _ => none
  | .record es => some (es.map fun e => .text e.1)
  | .items xs => some xs
  | .node f _ => f.parts?.map fun xs => xs.filter fun p => !p.isAbsent

/-- The parts of a form in order, absent ones included. -/
def Form.parts? : Form → Option (List Piece)
  | .leaf _ _ => some []
  | .group _ s => s.parts?
  | .array s => s.parts?
  | .object s => s.parts?
  | .newExpr c s => some [c, s.host]
  | .call c s => s.members?.map (c :: ·)
  | .bracket t i => some [t, i]
  | .dot t n => some [t, n]
  | .assign _ l r => some [l, r]
  | .getter n b => b.members?.map (n :: ·)
  | .setter n ps b => do some (n :: (← ps.members?) ++ (← b.members?))
  | .varDecl n v => some [n, v]
  | .unary _ v _ => some [v]
  | .binary _ l r => some [l, r]
  | .conditional t y n => some [t, y, n]
  | .ifThen t y n => some [t, y, n]
  | .doWhile t b => some [t, b]
  | .whileDo t b => some [t, b]
  | .forLoop i t s b => some [i, t, s, b]
  | .forIn i s b => some [i, s, b]
  | .continueTo l => some [l]
  | .breakTo l => some [l]
  | .returns v => some [v]
  | .withDo s b => some [s, b]
  | .switch e cs d => cs.members?.map fun xs => e :: xs ++ [d]
  | .caseOf e b => b.members?.map (e :: ·)
  | .defaultCase b => b.parts?
  | .label n b => some [n, b]
  | .throws v => some [v]
  | .tryDo b c f => some [b, c, f]
  | .catchDo n b => some [n, b.host]
  | .finallyDo b => b.parts?
  | .function _ n ps b => do some (n :: (← ps.members?) ++ (← b.members?))
  | .comma l r => some [l, r]
  | .exprStatement v => some [v]
  | .this => some []

end

def Seq.ofPiece : Piece → Seq
  | .items xs => .items xs
  | p => match p.parts? with
    | some xs => .spread p xs
    | none => .single p

def Form.value? : Form → Option Piece
  | .leaf _ v => some v
  | .unary _ v _ => some v
  | _ => none

def Form.op? : Form → Option Piece
  | .assign op _ _ => some op
  | .unary op _ _ => some op
  | .binary op _ _ => some op
  | _ => none

/-- Whether the operator stands after its operand, for forms that have the choice. -/
def Form.trailing? : Form → Option Piece
  | .unary _ _ t => some t
  | _ => none

/-- The value that a piece carries, if it is of a form that carries one. -/
def Piece.value : Piece → Except Cause Piece
  | .node f _ => match f.value? with
    | some v => .ok v
    | none => .error .missingAttribute
  | _ => .error .missingAttribute

/-- Marks a piece as introduced by a declaration; only forms take the mark. -/
def Piece.declare : Piece → Except Cause Piece
  | .node f m => .ok (.node f { m with declared := true })
  | _ => .error .missingAttribute

def Seq.declare : Seq → Except Cause Seq
  | .items xs => do return .items (← xs.mapM Piece.declare)
  | .spread p xs => do return .spread p (← xs.mapM Piece.declare)
  | .single _ => .error .wrongType

def Piece.inParens : Piece → Piece
  | .node f m => .node f { m with parens := true }
  | p => p

end Transpile.Script
