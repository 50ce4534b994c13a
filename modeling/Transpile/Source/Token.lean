import Transpile.Text.Half

/-! Tokens of source text. -/

namespace Transpile.Source

/-- A place in a text: its line from one on, and how many bytes stand before it there. -/
structure Pos where
  line : Nat := 1
  col : Nat := 0
  deriving DecidableEq, Repr

/-- The place after a code point. -/
def Pos.advance (p : Pos) (n : Nat) : Pos :=
  if n = '\n'.toNat then ⟨p.line + 1, 0⟩ else ⟨p.line, p.col + Text.storedSize n⟩

inductive Tok where
  | name (s : String)
  | keyword (s : String)
  /-- A number, by the text that it is shown by. -/
  | number (shown : String)
  | string (s : String)
  | bytes (s : String)
  | op (s : String)
  | newline
  | indent
  | dedent
  deriving DecidableEq, Repr

structure Token where
  tok : Tok
  start : Pos
  stop : Pos
  deriving Repr

def keywords : List String := [
  "False", "None", "True", "and", "as", "assert", "async", "await", "break", "class", "continue",
  "def", "del", "elif", "else", "except", "finally", "for", "from", "global", "if", "import", "in",
  "is", "lambda", "nonlocal", "not", "or", "pass", "raise", "return", "try", "while", "with",
  "yield"]

/-- Operators, longer ones before those that they begin with. -/
def operators : List String := [
  "**=", "...", "//=", "<<=", ">>=", "!=", "%=", "&=", "**", "*=", "+=", "-=", "->", "//", "/=",
  ":=", "<<", "<=", "==", ">=", ">>", "@=", "^=", "|=", "%", "&", "(", ")", "*", "+", ",", "-",
  ".", "/", ":", ";", "<", "=", ">", "@", "[", "]", "^", "\x7b", "|", "\x7d", "~"]

end Transpile.Source
