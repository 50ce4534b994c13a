import Transpile.Walk.Rule

/-! List comprehensions: a function that is called at once and collects in a loop. -/

namespace Transpile.Walk

open Script Source

/-- The conditions joined by `&&`; each is walked again here. -/
def conditions : List Branch → Piece → Walker Piece
  | [], acc => pure acc
  | w :: ws, acc => do
    let c ← w.again
    conditions ws (if acc.isAbsent then c else binary "&&" acc c)

/-- `for (i = 0, n = values.length; i < n; i++) body` -/
def indexLoop (i n values body : Piece) : Piece :=
  let start := (Form.comma (assignTo "=" i (leaf .number "0"))
    (assignTo "=" n (dot values "length"))).piece
  let step := (Form.unary (text "++") i (.atom (.flag true))).piece
  (Form.forLoop start (binary "<" i n) step body).piece

def comprehensionRule (generators : Branch) : Walker Piece := do
  if (← sizeOfField generators.tree) ≠ 1 then throw .severalGenerators
  match generators.parts with
  | [.mk (.node .comprehension _) _ [target, source, ifs, _]] =>
    let _ ← given source.tree
    let _ ← given target.tree
    let _ ← given ifs.tree
    let i ← fresh "_i"
    let n ← fresh "_len"
    let values ← fresh "_values"
    let results ← fresh "_results"
    let vars ← [i, n, values, results].mapM fun p => declaration p .absent
    let fill := statement (assignTo "=" values (← source.again))
    let clear := statement (assignTo "=" results (Form.array (.items [])).piece)
    let element := statement (Form.bracket values i).piece
    let push := (Form.call (dot results "push") (Seq.ofPiece element)).piece
    let body ← if ifs.tree.isTruthy then do
        let test ← conditions ifs.parts .absent
        pure (block [(Form.ifThen test (block [push]) .absent).piece])
      else pure (block [push])
    let loop := indexLoop i n values body
    let all := block [(Form.group .vars (.items vars)).piece, fill, clear, loop,
      (Form.returns results).piece]
    let f ← functionOf (.items []) (Seq.ofPiece all)
    return callOf f.inParens []
  | _ => throw .missingAttribute

end Transpile.Walk
