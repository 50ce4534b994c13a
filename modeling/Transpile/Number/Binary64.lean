/-! Binary floating point with 53 bits of precision: the number nearest to a decimal, by exact
integer arithmetic. A tie goes to the even mantissa. -/

namespace Transpile.Number

/-- A non-negative number: `mantissa * 2 ^ exponent`, or beyond the range. -/
inductive Binary64 where
  | finite (mantissa : Nat) (exponent : Int)
  | infinite
  deriving DecidableEq, Repr

/-- `n / d` to the nearest integer, a tie to the even one. -/
def roundDiv (n d : Nat) : Nat :=
  let q := n / d
  let r := 2 * (n % d)
  if r < d then q else if d < r then q + 1 else q + q % 2

namespace Binary64

def leastExponent : Int := -1074

def greatestExponent : Int := 971

/-- The exponent of the greatest power of two that is at most `n / d`. -/
def floorLog2 (n d : Nat) : Int :=
  let e : Int := (n.log2 : Int) - d.log2
  if d * Nat.pow 2 e.toNat ≤ n * Nat.pow 2 (-e).toNat then e else e - 1

/-- The number nearest to `n / d`. -/
def ofRatio (n d : Nat) : Binary64 :=
  if n = 0 then finite 0 leastExponent
  else
    let e := max leastExponent (floorLog2 n d - 52)
    let m := roundDiv (n * Nat.pow 2 (-e).toNat) (d * Nat.pow 2 e.toNat)
    let (m, e) := if m = Nat.pow 2 53 then (Nat.pow 2 52, e + 1) else (m, e)
    if greatestExponent < e then infinite else finite m e

def digitCount (n : Nat) : Nat := (Nat.toDigits 10 n).length

/-- The number nearest to `digits * 10 ^ exponent`. Decimals far outside the range are settled
before any power is taken. -/
def ofDecimal (digits : Nat) (exponent : Int) : Binary64 :=
  if digits = 0 then finite 0 leastExponent
  else
    let size := exponent + digitCount digits
    if 310 < size then infinite
    else if size < -330 then finite 0 leastExponent
    else ofRatio (digits * Nat.pow 10 exponent.toNat) (Nat.pow 10 (-exponent).toNat)

end Binary64

end Transpile.Number
