import Crosscheck.Decimal.Double

/-!
# Decimal texts of doubles

`shortest` writes a double with the fewest digits that read back as the same double, and of those
the digits nearest to its value, always in positional notation. `fixed` rounds the exact value to a
number of places, a tie to the even neighbour.
-/

namespace Crosscheck

/-- The quotient rounded to the nearest natural number, a tie to the even one. -/
def roundDiv (num den : Nat) : Nat :=
  let q := num / den
  let twice := 2 * (num % den)
  if twice < den then q
  else if den < twice then q + 1
  else if q % 2 = 0 then q else q + 1

namespace Double

/-- `n * base ^ e` as a fraction. -/
def scaled (base n : Nat) (e : Int) : Nat × Nat :=
  match e with
  | .ofNat k => (n * base.pow k, 1)
  | .negSucc k => (n, base.pow (k + 1))

/-- The numbers that read as `mantissa * 2 ^ exponent`: those between the two midpoints to the
neighbours, in units of `2 ^ (exponent - 2)`. Below a power of two the neighbours are twice as
dense. -/
def readBounds (mantissa : Nat) (exponent : Int) : Nat × Nat :=
  let below := if mantissa = Nat.pow 2 52 && decide (-1074 < exponent) then 1 else 2
  (4 * mantissa - below, 4 * mantissa + 2)

/-- Whether `digits * 10 ^ place` reads as `mantissa * 2 ^ exponent`. A midpoint reads as the even
mantissa. -/
def readsBack (mantissa : Nat) (exponent : Int) (digits : Nat) (place : Int) : Bool :=
  let (low, high) := readBounds mantissa exponent
  let (n, d) := scaled 10 digits place
  let (u, v) := scaled 2 1 (exponent - 2)
  let x := n * v
  let unit := d * u
  if mantissa % 2 = 0 then low * unit ≤ x && x ≤ high * unit
  else low * unit < x && x < high * unit

/-- The best multiple of `10 ^ place` that reads back, if the grid has one near the value. -/
def onGrid? (mantissa : Nat) (exponent : Int) (place : Int) : Option Nat :=
  let (n, d) := scaled 2 mantissa exponent
  let (u, v) := scaled 10 1 place
  let num := n * v
  let den := d * u
  let down := num / den
  let near := roundDiv num den
  if readsBack mantissa exponent near place then some near
  else if readsBack mantissa exponent down place then some down
  else if readsBack mantissa exponent (down + 1) place then some (down + 1)
  else none

/-- The first grid of the list that has a number that reads back. -/
def firstGrid (mantissa : Nat) (exponent : Int) : List Int → Nat × Int
  | [] => (mantissa, 0)
  | place :: places =>
    match onGrid? mantissa exponent place with
    | some digits => (digits, place)
    | none => firstGrid mantissa exponent places

/-- The number of decimal digits before the point. -/
def wholeDigits (mantissa : Nat) (exponent : Int) : Nat :=
  let (n, d) := scaled 2 mantissa exponent
  (Nat.toDigits 10 (n / d)).length

/-- Grids from coarse to fine, down to the last place a double can need. -/
def grids (mantissa : Nat) (exponent : Int) : List Int :=
  let top := wholeDigits mantissa exponent
  (List.range (top + 1101)).map fun i => Int.ofNat top - Int.ofNat i

/-- The digits of `digits * 10 ^ place`, without an exponent. -/
def positional (digits : Nat) (place : Int) : String :=
  match place with
  | .ofNat k => toString digits ++ String.ofList (List.replicate k '0')
  | .negSucc k =>
    let shown := Nat.toDigits 10 digits
    let padded := List.replicate (k + 2 - shown.length) '0' ++ shown
    let split := padded.length - (k + 1)
    String.ofList (padded.take split ++ '.' :: padded.drop split)

/-- The shortest text that reads back. -/
def shortest (d : Double) : String :=
  match d.value with
  | .nan => "NaN"
  | .infinite negative => if negative then "-inf" else "inf"
  | .finite negative mantissa exponent =>
    let body :=
      if mantissa = 0 then "0"
      else
        let (digits, place) := firstGrid mantissa exponent (grids mantissa exponent)
        positional digits place
    if negative then "-" ++ body else body

/-- The value rounded to `places` decimal places. -/
def fixed (places : Nat) (d : Double) : String :=
  match d.value with
  | .nan => "NaN"
  | .infinite negative => if negative then "-inf" else "inf"
  | .finite negative mantissa exponent =>
    let (n, k) := scaled 2 mantissa exponent
    let rounded := roundDiv (n * Nat.pow 10 places) k
    let body := match places with
      | 0 => toString rounded
      | p + 1 => positional rounded (.negSucc p)
    if negative then "-" ++ body else body

end Double

end Crosscheck
