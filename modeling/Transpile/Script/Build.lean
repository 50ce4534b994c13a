import Transpile.Script.Piece

/-! Forms built by name. A form is given its parts as named arguments, some of which may be left
out; declarations, handlers and functions mark the names that they introduce. -/

namespace Transpile.Script

namespace Form

def declaration (name value : Piece) : Except Cause Form := do
  return .varDecl (← name.declare) value

def handler (name : Piece) (body : Seq) : Except Cause Form := do
  return .catchDo (← name.declare) body

def functionOf (kind : Function) (name : Piece) (params body : Seq) : Except Cause Form := do
  let name ← if name.isAbsent then pure name else name.declare
  return .function kind name (← params.declare) body

end Form

abbrev Args := List (String × Piece)

namespace Args

def get (args : Args) (n : String) : Piece := (args.lookup n).getD .absent

def seq (args : Args) (n : String) : Seq := Seq.ofPiece (args.get n)

/-- A list that may be left out. -/
def list (args : Args) (n : String) : Seq :=
  if (args.get n).isAbsent then .items [] else args.seq n

/-- Every required name is given, and no name beside the required and the optional ones. -/
def fits (args : Args) (required optional : List String) : Bool :=
  required.all (fun n => args.any fun a => a.1 = n) &&
    args.all fun a => required.contains a.1 || optional.contains a.1

end Args

/-- The required and the optional arguments of each class of forms. -/
def signature? : String → Option (List String × List String)
  | "Node" | "SetOfNodes" | "Program" | "Block" | "VarStatement" => some ([], ["children"])
  | "Boolean" | "Null" | "Number" | "Identifier" | "String" | "Regex" | "Elision"
  | "EmptyStatement" | "Debugger" => some (["value"], [])
  | "Array" => some (["items"], [])
  | "Object" => some ([], ["properties"])
  | "NewExpr" | "FunctionCall" => some (["identifier"], ["args"])
  | "BracketAccessor" => some (["node", "expr"], [])
  | "DotAccessor" => some (["node", "identifier"], [])
  | "Assign" | "BinOp" => some (["op", "left", "right"], [])
  | "GetPropAssign" => some (["prop_name", "elements"], [])
  | "SetPropAssign" => some (["prop_name", "parameters", "elements"], [])
  | "VarDecl" => some (["identifier"], ["initializer"])
  | "UnaryOp" => some (["op", "value"], ["postfix"])
  | "Conditional" => some (["predicate", "consequent", "alternative"], [])
  | "If" => some (["predicate", "consequent"], ["alternative"])
  | "DoWhile" | "While" => some (["predicate", "statement"], [])
  | "For" => some (["init", "cond", "count", "statement"], [])
  | "ForIn" => some (["item", "iterable", "statement"], [])
  | "Continue" | "Break" => some ([], ["identifier"])
  | "Return" => some ([], ["expr"])
  | "With" => some (["expr", "statement"], [])
  | "Switch" => some (["expr", "cases"], ["default"])
  | "Case" => some (["expr", "elements"], [])
  | "Default" | "Finally" => some (["elements"], [])
  | "Label" => some (["identifier", "statement"], [])
  | "Throw" | "ExprStatement" => some (["expr"], [])
  | "Try" => some (["statements"], ["catch", "fin"])
  | "Catch" => some (["identifier", "elements"], [])
  | "FuncBase" | "FuncDecl" | "FuncExpr" => some (["identifier", "parameters", "elements"], [])
  | "Comma" => some (["left", "right"], [])
  | "This" => some ([], [])
  | _ => none

def formOf (className : String) (a : Args) : Except Cause Form :=
  match className with
  | "Node" => .ok (.group .plain (a.list "children"))
  | "SetOfNodes" => .ok (.group .splice (a.list "children"))
  | "Program" => .ok (.group .program (a.list "children"))
  | "Block" => .ok (.group .block (a.list "children"))
  | "VarStatement" => .ok (.group .vars (a.list "children"))
  | "Boolean" => .ok (.leaf .boolean (a.get "value"))
  | "Null" => .ok (.leaf .null (a.get "value"))
  | "Number" => .ok (.leaf .number (a.get "value"))
  | "Identifier" => .ok (.leaf .ident (a.get "value"))
  | "String" => .ok (.leaf .string (a.get "value"))
  | "Regex" => .ok (.leaf .regex (a.get "value"))
  | "Elision" => .ok (.leaf .elision (a.get "value"))
  | "EmptyStatement" => .ok (.leaf .empty (a.get "value"))
  | "Debugger" => .ok (.leaf .debugger (a.get "value"))
  | "Array" => .ok (.array (a.seq "items"))
  | "Object" => .ok (.object (a.list "properties"))
  | "NewExpr" => .ok (.newExpr (a.get "identifier") (a.list "args"))
  | "FunctionCall" => .ok (.call (a.get "identifier") (a.list "args"))
  | "BracketAccessor" => .ok (.bracket (a.get "node") (a.get "expr"))
  | "DotAccessor" => .ok (.dot (a.get "node") (a.get "identifier"))
  | "Assign" => .ok (.assign (a.get "op") (a.get "left") (a.get "right"))
  | "BinOp" => .ok (.binary (a.get "op") (a.get "left") (a.get "right"))
  | "GetPropAssign" => .ok (.getter (a.get "prop_name") (a.seq "elements"))
  | "SetPropAssign" => .ok (.setter (a.get "prop_name") (a.seq "parameters") (a.seq "elements"))
  | "VarDecl" => Form.declaration (a.get "identifier") (a.get "initializer")
  | "UnaryOp" =>
    .ok (.unary (a.get "op") (a.get "value") ((a.lookup "postfix").getD (.atom (.flag false))))
  | "Conditional" =>
    .ok (.conditional (a.get "predicate") (a.get "consequent") (a.get "alternative"))
  | "If" => .ok (.ifThen (a.get "predicate") (a.get "consequent") (a.get "alternative"))
  | "DoWhile" => .ok (.doWhile (a.get "predicate") (a.get "statement"))
  | "While" => .ok (.whileDo (a.get "predicate") (a.get "statement"))
  | "For" =>
    .ok (.forLoop (a.get "init") (a.get "cond") (a.get "count") (a.get "statement"))
  | "ForIn" => .ok (.forIn (a.get "item") (a.get "iterable") (a.get "statement"))
  | "Continue" => .ok (.continueTo (a.get "identifier"))
  | "Break" => .ok (.breakTo (a.get "identifier"))
  | "Return" => .ok (.returns (a.get "expr"))
  | "With" => .ok (.withDo (a.get "expr") (a.get "statement"))
  | "Switch" => .ok (.switch (a.get "expr") (a.seq "cases") (a.get "default"))
  | "Case" => .ok (.caseOf (a.get "expr") (a.list "elements"))
  | "Default" => .ok (.defaultCase (a.list "elements"))
  | "Finally" => .ok (.finallyDo (a.seq "elements"))
  | "Label" => .ok (.label (a.get "identifier") (a.get "statement"))
  | "Throw" => .ok (.throws (a.get "expr"))
  | "ExprStatement" => .ok (.exprStatement (a.get "expr"))
  | "Try" => .ok (.tryDo (a.get "statements") (a.get "catch") (a.get "fin"))
  | "Catch" => Form.handler (a.get "identifier") (a.seq "elements")
  | "FuncBase" =>
    Form.functionOf .base (a.get "identifier") (a.list "parameters") (a.list "elements")
  | "FuncDecl" =>
    Form.functionOf .decl (a.get "identifier") (a.list "parameters") (a.list "elements")
  | "FuncExpr" =>
    Form.functionOf .expr (a.get "identifier") (a.list "parameters") (a.list "elements")
  | "Comma" => .ok (.comma (a.get "left") (a.get "right"))
  | "This" => .ok .this
  | _ => .error .missingAttribute

/-- A form from the name of its class and its arguments. -/
def build (className : String) (args : Args) : Except Cause Form :=
  match signature? className with
  | none => .error .missingAttribute
  | some (required, optional) =>
    if args.fits required optional then formOf className args else .error .wrongType

end Transpile.Script
