/-! Halves of characters. Characters above the first plane can be named by two halves, and a half
may be named alone, though it is no character. So a text marks its halves: the last character
before them is the mark, twice it stands for itself, and before a private character it stands for a
half. Texts are then ordered as their code points are. -/

namespace Transpile.Text

def firstHalf : Nat := 0xd800

def halves : Nat := 0x800

def isHalf (n : Nat) : Bool := firstHalf ≤ n && n < firstHalf + halves

def mark : Char := Char.ofNat (firstHalf - 1)

/-- The first of the private characters that name halves after the mark. -/
def firstPrivate : Nat := firstHalf + halves

/-- A code point in a text. -/
def ofPoint (n : Nat) : List Char :=
  if isHalf n then [mark, Char.ofNat (firstPrivate + (n - firstHalf))]
  else if n = mark.toNat then [mark, mark]
  else [Char.ofNat n]

/-- A character that means something else after the mark. -/
def isMarked (c : Char) : Bool :=
  c = mark || (firstPrivate ≤ c.toNat && c.toNat < firstPrivate + halves)

/-- The characters of a text, each with its mark. -/
def characters : List Char → List (List Char)
  | [] => []
  | [c] => [[c]]
  | c :: d :: cs =>
    if c = mark && isMarked d then [c, d] :: characters cs else [c] :: characters (d :: cs)

/-- The code point of one character with its mark. -/
def point : List Char → Nat
  | [c] => c.toNat
  | [_, d] => if d = mark then mark.toNat else firstHalf + (d.toNat - firstPrivate)
  | _ => 0

def points (cs : List Char) : List Nat := (characters cs).map point

def hasHalf (s : String) : Bool := (points s.toList).any isHalf

/-- How many bytes a code point takes where texts are stored; a half can only stand for one byte
that is no part of a character. -/
def storedSize (n : Nat) : Nat := if isHalf n then 1 else (Char.ofNat n).utf8Size

/-- Halves that stand for single bytes in the names of files. -/
def isByteHalf (n : Nat) : Bool := 0xdc80 ≤ n && n < 0xdd00

end Transpile.Text
