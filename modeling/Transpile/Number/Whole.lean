import Transpile.Text.Blank
import Transpile.Text.Digit

/-! Whole numbers as people type them: blanks around, a sign, digits of any script, and single
underscores between digits. -/

namespace Transpile.Number

open Text

/-- The value of digits, going on from `n`; an underscore stands between two digits. -/
def digitsFrom (n : Nat) : List Char → Option Nat
  | [] => some n
  | '_' :: c :: cs => do digitsFrom (n * 10 + (← decimalValue? c)) cs
  | c :: cs => do digitsFrom (n * 10 + (← decimalValue? c)) cs

def natural? : List Char → Option Nat
  | [] => none
  | c :: cs => do digitsFrom (← decimalValue? c) cs

def whole? (s : String) : Option Int :=
  match strip s.toList with
  | '-' :: cs => (natural? cs).map fun n => -(n : Int)
  | '+' :: cs => (natural? cs).map Int.ofNat
  | cs => (natural? cs).map Int.ofNat

end Transpile.Number
