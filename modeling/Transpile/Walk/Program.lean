import Transpile.Walk.Rule

/-! Rules for functions, classes and whole programs. -/

namespace Transpile.Walk

open Script Source

/-- A function definition declares its name; each decorator, the last one first, is then applied
to the name. The body ends where the decorators begin among the results. -/
def functionRule (name decorators : Tree) (cs : List Piece) : Walker Piece := do
  let vars ← scopeVars false
  let n ← if (← given decorators).isTruthy then sizeOfField decorators else pure 0
  let (body, applied) := if n = 0 then (cs.drop 1, []) else ((butLast n cs).drop 1, lastOf n cs)
  let key ← atomField name
  let id ← declare (← sourceName key)
  let f ← functionOf (Seq.ofPiece (← child cs 0)) (.items (vars ++ body))
  let definition := statement (Form.varDecl id f).piece
  leaveScope
  let _ ← bindAs key id
  match applied with
  | [] => return definition
  | ds => return splice (definition :: (ds.map fun d =>
      statement (assignTo "=" id (callOf d [id]))).reverse)

/-! Classes -/

/-- The name and the function of a function definition. -/
def method? : Piece → Option (Piece × Piece)
  | .node (.exprStatement (.node (.varDecl id (.node (.function .expr n ps b) m)) _)) _ =>
    some (id, .node (.function .expr n ps b) m)
  | _ => none

def isConstructor (m : Piece × Piece) : Bool :=
  match m.1.value with
  | .ok (.text "__init__") => true
  | _ => false

/-- The functions without the constructor, which is the first of its name. -/
def dropConstructor : List (Piece × Piece) → List (Piece × Piece)
  | [] => []
  | m :: ms => if isConstructor m then ms else m :: dropConstructor ms

def classRule (name : Tree) (cs : List Piece) : Walker Piece := do
  let methods := cs.filterMap method?
  let (maker, others) ← match methods.find? isConstructor with
    | some m => do
      changeScope (·.unset "__init__")
      pure (m.2, dropConstructor methods)
    | none => do pure (← functionOf (.items []) (.items []), methods)
  enterScope
  let c ← fresh "classref"
  let body := statement (assignTo "=" c maker) ::
    (others.map fun m =>
      statement (assignTo "=" (Form.dot (dot c "prototype") m.1).piece m.2)) ++
    [(Form.returns c).piece]
  let vars ← scopeVars false
  let closure ← functionOf (.items []) (.items (vars ++ body))
  let key ← atomField name
  let id ← sourceName key
  leaveScope
  let id ← bindAs key id
  return statement (assignTo "=" id (callOf closure.inParens []))

/-! Programs -/

/-- Builds an object from a class and the arguments of its constructor. -/
def constructorHelper : String :=
  "function() \x7b var ___args_array = Array.apply(null, arguments); " ++
  "var ___clazz = ___args_array.slice(0, 1)[0]; " ++
  "return new (___clazz.bind.apply(___clazz, ___args_array))();\x7d"

/-- Puts the start of a special form before the statements, if the form was imported. -/
def specialForm (name : Option String) (value : Piece) (body : List Piece) :
    Walker (List Piece) := do
  match name with
  | none => return body
  | some k =>
    if k.isEmpty then return body
    let id ← atSite (← sourceName (.text k))
    changeScope (·.setSpecial (some k) id)
    return statement (assignTo "=" id value) :: body

def programRule (cs : List Piece) : Walker Piece := do
  let body ← specialForm (← get).globalName (word "this") cs
  let body ← specialForm (← get).newName (leaf .string constructorHelper) body
  let vars ← scopeVars true
  leaveScope
  let body := vars ++ body
  if (← read).closure then
    let f ← functionOf (.items []) (.items body)
    let main := statement (callOf (dot f.inParens "call") [Form.this.piece])
    return (Form.group .program (.items [main])).piece
  else return (Form.group .program (.items body)).piece

end Transpile.Walk
