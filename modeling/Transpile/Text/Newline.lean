/-! Line ends: a carriage return, alone or before a line feed, counts as a line feed. -/

namespace Transpile.Text

def unifyNewlines : List Char → List Char
  | '\r' :: '\n' :: cs => '\n' :: unifyNewlines cs
  | '\r' :: cs => '\n' :: unifyNewlines cs
  | c :: cs => c :: unifyNewlines cs
  | [] => []

end Transpile.Text
