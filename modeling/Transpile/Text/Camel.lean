import Transpile.Text.Case

/-! Camel case: underscores go, and every component after the first takes title case. -/

namespace Transpile.Text

/-- The parts between separators, the empty ones included. -/
def splitAt (sep : Char) : List Char → List (List Char)
  | [] => [[]]
  | c :: cs =>
    if c = sep then [] :: splitAt sep cs
    else match splitAt sep cs with
      | [] => [[c]]
      | p :: ps => (c :: p) :: ps

def camelChars (cs : List Char) : List Char :=
  match splitAt '_' cs with
  | [] => []
  | p :: ps => p ++ ps.flatMap (titleFrom [])

def camel (s : String) : String := String.ofList (camelChars s.toList)

end Transpile.Text
