import Transpile.Number.Shortest

/-! Numbers as source text writes them, and the text they are shown by: whole numbers in decimal at
any size, fractions by the shortest decimal that reads back, imaginary ones with a final `j`. -/

namespace Transpile.Number

def digitValue (c : Char) : Nat :=
  if c.isDigit then c.toNat - '0'.toNat
  else if 'a' ≤ c && c ≤ 'f' then c.toNat - 'a'.toNat + 10
  else if 'A' ≤ c && c ≤ 'F' then c.toNat - 'A'.toNat + 10
  else 0

def ofDigits (base : Nat) (ds : List Char) : Nat :=
  ds.foldl (fun n c => n * base + digitValue c) 0

/-- A number in parts: digits, digits after the point, and the power of ten. -/
structure Parts where
  whole : List Char
  fraction : List Char
  exponent : Int

def signed : List Char → Int
  | '-' :: ds => -(ofDigits 10 ds : Int)
  | '+' :: ds => ofDigits 10 ds
  | ds => ofDigits 10 ds

def isExponentMark (c : Char) : Bool := c = 'e' || c = 'E'

def Parts.ofChars (cs : List Char) : Parts :=
  let rest := cs.dropWhile Char.isDigit
  let fraction := match rest with
    | '.' :: r => r.takeWhile Char.isDigit
    | _ => []
  { whole := cs.takeWhile Char.isDigit
    fraction
    exponent := signed ((rest.dropWhile (!isExponentMark ·)).drop 1) }

def Parts.toBinary (p : Parts) : Binary64 :=
  Binary64.ofDecimal (ofDigits 10 (p.whole ++ p.fraction)) (p.exponent - p.fraction.length)

/-- Digits of a whole number: a zero opens only zeros. -/
def isWhole (cs : List Char) : Bool :=
  cs.all Char.isDigit && (cs.head? != some '0' || cs.all (· == '0'))

def maxDigits : Nat := 4300

def withoutSeparators (literal : List Char) : List Char := literal.filter (· ≠ '_')

/-- A whole number in decimal has only so many digits. -/
def isReadable (literal : List Char) : Bool :=
  let cs := withoutSeparators literal
  !isWhole cs || cs.all (· == '0') || cs.length ≤ maxDigits

/-- The text that a number written without separators is shown by. -/
def shownChars (cs : List Char) : String :=
  match cs with
  | '0' :: 'x' :: ds | '0' :: 'X' :: ds => toString (ofDigits 16 ds)
  | '0' :: 'o' :: ds | '0' :: 'O' :: ds => toString (ofDigits 8 ds)
  | '0' :: 'b' :: ds | '0' :: 'B' :: ds => toString (ofDigits 2 ds)
  | _ =>
    if isWhole cs then toString (ofDigits 10 cs)
    else
      let imaginary := cs.getLast?.any fun c => c = 'j' || c = 'J'
      if imaginary then (Parts.ofChars cs.dropLast).toBinary.write .imaginary ++ "j"
      else (Parts.ofChars cs).toBinary.write .real

/-- The text that a number literal is shown by; underscores separate digits only. -/
def shown (literal : List Char) : String := shownChars (withoutSeparators literal)

end Transpile.Number
