import Transpile.Text.Half
import Transpile.Text.Printable

/-! Quoted text as it appears in traces: single quotes unless the text holds single quotes and no
double ones, backslash escapes, and the code of every character that is not printable. -/

namespace Transpile.Text

def hexDigit (n : Nat) : Char := Nat.digitChar n

/-- The last `width` hexadecimal digits of `n`. -/
def hexFixed : Nat → Nat → List Char
  | 0, _ => []
  | width + 1, n => hexFixed width (n / 16) ++ [hexDigit (n % 16)]

def escapeCode (n : Nat) : List Char :=
  if n < 0x100 then '\\' :: 'x' :: hexFixed 2 n
  else if n < 0x10000 then '\\' :: 'u' :: hexFixed 4 n
  else '\\' :: 'U' :: hexFixed 8 n

def escapeChar (quote c : Char) : List Char :=
  if c = quote || c = '\\' then ['\\', c]
  else if c = '\t' then ['\\', 't']
  else if c = '\n' then ['\\', 'n']
  else if c = '\r' then ['\\', 'r']
  else if isPrintable c then [c]
  else escapeCode c.toNat

def quoteFor (cs : List Char) : Char :=
  if cs.contains '\'' && !cs.contains '"' then '"' else '\''

/-- Half a character is never printable. -/
def escapePoint (quote : Char) (n : Nat) : List Char :=
  if isHalf n then escapeCode n else escapeChar quote (Char.ofNat n)

def quoted (s : String) : String :=
  let q := quoteFor s.toList
  String.ofList (q :: (points s.toList).flatMap (escapePoint q) ++ [q])

end Transpile.Text
