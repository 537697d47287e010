/-!
# Double-precision numbers as exact values

A double is kept as its 64 bits, so that no bit of a recorded number is lost. `value` says which
number the bits stand for: a sign, a natural number and a power of two. Arithmetic is that of the
machine.
-/

namespace Crosscheck

/-- An IEEE double, by its bits. -/
structure Double where
  bits : UInt64
  deriving DecidableEq, Repr

namespace Double

def ofFloat (x : Float) : Double := ⟨x.toBits⟩

def toFloat (d : Double) : Float := Float.ofBits d.bits

/-- What the bits stand for. A finite value is `mantissa * 2 ^ exponent`. -/
inductive Value where
  | nan
  | infinite (negative : Bool)
  | finite (negative : Bool) (mantissa : Nat) (exponent : Int)
  deriving DecidableEq, Repr

def value (d : Double) : Value :=
  let n := d.bits.toNat
  let negative := decide (Nat.pow 2 63 ≤ n)
  let field : Nat := n / Nat.pow 2 52 % 2048
  let fraction := n % Nat.pow 2 52
  if field = 2047 then
    if fraction = 0 then .infinite negative else .nan
  else if field = 0 then .finite negative fraction (-1074)
  else .finite negative (Nat.pow 2 52 + fraction) (Int.ofNat field - 1075)

/-- The sum from left to right, starting at zero. -/
def sum (xs : List Double) : Float :=
  xs.foldl (fun acc x => acc + x.toFloat) 0.0

/-- The larger of two numbers; of a number and no number, the number. -/
def larger (a b : Float) : Float :=
  if a.isNaN then b else if b.isNaN then a else if a < b then b else a

/-- The largest of zero and the given numbers. -/
def maximum (xs : List Double) : Float :=
  xs.foldl (fun acc x => larger acc x.toFloat) 0.0

end Double

end Crosscheck
