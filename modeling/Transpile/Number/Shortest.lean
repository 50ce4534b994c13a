import Transpile.Number.Binary64

/-! The shortest decimal that reads back as a given binary number, and of the shortest the one
nearest to it; and how such a decimal is written. -/

namespace Transpile.Number

/-- A decimal `0.digits * 10 ^ point`. -/
structure Decimal where
  digits : Nat
  point : Int
  deriving DecidableEq, Repr

/-- A number between the midpoints to its neighbours, all as multiples of `1 / unit`. -/
structure Interval where
  low : Nat
  value : Nat
  high : Nat
  unit : Nat
  /-- Whether the ends round to the number. -/
  closed : Bool

namespace Interval

/-- The decimals that round to `mantissa * 2 ^ exponent`. Below a power of two the neighbours are
half as far apart. -/
def ofBinary (mantissa : Nat) (exponent : Int) : Interval :=
  let scale := Nat.pow 2 (exponent - 2).toNat
  let gap := if mantissa = Nat.pow 2 52 && Binary64.leastExponent < exponent then 1 else 2
  { low := (4 * mantissa - gap) * scale
    value := 4 * mantissa * scale
    high := (4 * mantissa + 2) * scale
    unit := Nat.pow 2 (2 - exponent).toNat
    closed := mantissa % 2 = 0 }

/-- The interval in units of `10 ^ e`. -/
def scaled (i : Interval) (e : Int) : Interval :=
  let up := Nat.pow 10 (-e).toNat
  { i with
    low := i.low * up, value := i.value * up, high := i.high * up
    unit := i.unit * Nat.pow 10 e.toNat }

def contains (i : Interval) (c : Nat) : Bool :=
  if i.closed then i.low ≤ c * i.unit && c * i.unit ≤ i.high
  else i.low < c * i.unit && c * i.unit < i.high

/-- The whole number in the interval nearest to its value, a tie to the even one. -/
def nearest? (i : Interval) : Option Nat :=
  let c := i.value / i.unit
  let below := i.value - c * i.unit
  let above := (c + 1) * i.unit - i.value
  let first := if below < above || (below = above && c % 2 = 0) then c else c + 1
  let second := if first = c then c + 1 else c
  if i.contains first then some first else if i.contains second then some second else none

def atLeast (i : Interval) (e : Int) : Bool :=
  i.unit * Nat.pow 10 e.toNat ≤ i.value * Nat.pow 10 (-e).toNat

/-- The number of digits before the decimal point, not positive for a number below one: the least
`p` with the value below `10 ^ p`, which is near the guess. -/
def point (i : Interval) (guess : Int) : Int :=
  if i.atLeast (guess + 1) then guess + 2 else if i.atLeast guess then guess + 1 else guess

/-- Tries one digit, then two, and so on. -/
def shortestFrom (i : Interval) (p : Int) : Nat → Nat → Decimal
  | 0, n => ⟨(i.scaled (p - n)).value / (i.scaled (p - n)).unit, p⟩
  | fuel + 1, n => match (i.scaled (p - n)).nearest? with
    | some c => if c = Nat.pow 10 n then ⟨1, p + 1⟩ else ⟨c, p⟩
    | none => shortestFrom i p fuel (n + 1)

end Interval

/-- The shortest decimal for a number that is not zero. -/
def shortest (mantissa : Nat) (exponent : Int) : Decimal :=
  let i := Interval.ofBinary mantissa exponent
  let p := i.point (((mantissa.log2 : Int) + exponent) * 30103 / 100000)
  i.shortestFrom p 17 1

/-- How a decimal is written. -/
structure Style where
  /-- The greatest number of places, and of zeros after the point, that are written out. -/
  places : Int
  zeros : Int
  /-- Whether a whole number ends in `.0`. -/
  pointZero : Bool

def Style.real : Style := ⟨16, 4, true⟩

def Style.imaginary : Style := ⟨16, 4, false⟩

def digitsOf (n : Nat) : List Char := Nat.toDigits 10 n

/-- The exponent with its sign and at least two digits. -/
def exponentText (e : Int) : List Char :=
  let ds := digitsOf e.natAbs
  'e' :: (if e < 0 then '-' else '+') :: (if ds.length < 2 then '0' :: ds else ds)

def Decimal.write (d : Decimal) (s : Style) : List Char :=
  let ds := digitsOf d.digits
  if d.point ≤ -s.zeros || s.places < d.point then
    let mantissa := match ds with
      | [] => []
      | [c] => [c]
      | c :: cs => c :: '.' :: cs
    mantissa ++ exponentText (d.point - 1)
  else if d.point ≤ 0 then
    '0' :: '.' :: List.replicate (-d.point).toNat '0' ++ ds
  else
    let n := d.point.toNat
    if ds.length ≤ n then
      ds ++ List.replicate (n - ds.length) '0' ++ (if s.pointZero then ['.', '0'] else [])
    else ds.take n ++ '.' :: ds.drop n

def Binary64.write (s : Style) : Binary64 → String
  | .infinite => "inf"
  | .finite 0 _ => if s.pointZero then "0.0" else "0"
  | .finite m e => String.ofList ((shortest m e).write s)

end Transpile.Number
