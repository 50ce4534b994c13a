import Transpile.Text.Half

/-! Text between quotes in source: backslash escapes stand for characters. An escape that is not
known stands for itself; one that is cut short is refused. -/

namespace Transpile.Text

def hexValue? (c : Char) : Option Nat :=
  if c.isDigit then some (c.toNat - '0'.toNat)
  else if 'a' ≤ c && c ≤ 'f' then some (c.toNat - 'a'.toNat + 10)
  else if 'A' ≤ c && c ≤ 'F' then some (c.toNat - 'A'.toNat + 10)
  else none

/-- The value of exactly `n` hexadecimal digits. -/
def hexDigits? (n : Nat) (cs : List Char) : Option Nat :=
  let ds := cs.take n
  if ds.length = n then
    ds.foldl (fun v c => do return (← v) * 16 + (← hexValue? c)) (some 0)
  else none

def isOctal (c : Char) : Bool := '0' ≤ c && c ≤ '7'

/-- The text for what follows a backslash, and how many characters that was. In a text of bytes
there are no escapes for wide characters. -/
def escaped (bytes : Bool) : List Char → Option (List Char × Nat)
  | [] => none
  | c :: cs =>
    match c with
    | '\n' => some ([], 1)
    | '\\' | '\'' | '"' => some ([c], 1)
    | 'a' => some (ofPoint 7, 1)
    | 'b' => some (ofPoint 8, 1)
    | 'f' => some (ofPoint 12, 1)
    | 'n' => some (ofPoint 10, 1)
    | 'r' => some (ofPoint 13, 1)
    | 't' => some (ofPoint 9, 1)
    | 'v' => some (ofPoint 11, 1)
    | 'x' => (hexDigits? 2 cs).map fun n => (ofPoint n, 3)
    | _ =>
      if isOctal c then
        let ds := ((c :: cs).take 3).takeWhile isOctal
        let n := ds.foldl (fun v d => v * 8 + (d.toNat - '0'.toNat)) 0
        some (ofPoint (if bytes then n % 256 else n), ds.length)
      else if bytes then some (['\\', c], 1)
      else if c = 'u' then (hexDigits? 4 cs).map fun n => (ofPoint n, 5)
      else if c = 'U' then
        match hexDigits? 8 cs with
        | some n => if n < 0x110000 then some (ofPoint n, 9) else none
        | none => none
      else if c = 'N' then none
      else some (['\\', c], 1)

def unescape (bytes : Bool) (cs : List Char) : Option (List Char) :=
  match cs with
  | [] => some []
  | c :: cs =>
    if c = '\\' then do
      let (ds, k) ← escaped bytes cs
      return ds ++ (← unescape bytes (cs.drop k))
    else do return c :: (← unescape bytes cs)
termination_by cs.length
decreasing_by
  · simp only [List.length_drop, List.length_cons]
    omega
  · simp only [List.length_cons]
    omega

end Transpile.Text
