import Transpile.Source.Grammar.Target

/-! Parameter lists. The items are read as they stand and then sorted: those before a slash are
given by place only, those after a star by name only. -/

namespace Transpile.Source

inductive Param where
  | plain (arg : Tree) (default : Option Tree)
  | slash
  | star (arg : Option Tree)
  | twoStars (arg : Tree)

/-- The parameters sorted so far. -/
structure Params where
  byPlace : List Tree := []
  plain : List Tree := []
  defaults : List Tree := []
  slash : Bool := false
  /-- The star, and what it names. -/
  star : Option (Option Tree) := none
  byName : List (Tree × Option Tree) := []
  rest : Option Tree := none

namespace Params

/-- After a default every parameter that is given by place has one, nothing follows two stars, and
a slash follows parameters. -/
def add? (ps : Params) (p : Param) : Option Params :=
  if ps.rest.isSome then none
  else match p with
    | .plain a d =>
      if ps.star.isSome then some { ps with byName := ps.byName ++ [(a, d)] }
      else match d with
        | some d => some { ps with plain := ps.plain ++ [a], defaults := ps.defaults ++ [d] }
        | none => if ps.defaults.isEmpty then some { ps with plain := ps.plain ++ [a] } else none
    | .slash =>
      if ps.slash || ps.star.isSome || ps.plain.isEmpty then none
      else some { ps with byPlace := ps.plain, plain := [], slash := true }
    | .star a => if ps.star.isSome then none else some { ps with star := some a }
    | .twoStars a => some { ps with rest := some a }

/-- A star that names nothing is followed by a parameter. -/
def isComplete (ps : Params) : Bool :=
  match ps.star with
  | some none => !ps.byName.isEmpty
  | _ => true

def toTree (ps : Params) : Tree :=
  .node .arguments [
    .list ps.byPlace, .list ps.plain, .opt ps.star.join, .list (ps.byName.map Prod.fst),
    .list (ps.byName.map fun p => .opt p.2), .opt ps.rest, .list ps.defaults]

def tree? (items : List Param) : Option Tree := do
  let ps ← items.foldlM add? {}
  if ps.isComplete then return ps.toTree else none

end Params

end Transpile.Source
