import Crosscheck.Decimal.Digits

/-!
# Spans of time

A duration is a number of nanoseconds. In texts and metrics it is a double number of seconds: the
whole seconds and the fraction are each rounded to a double and then added.
-/

namespace Crosscheck

structure Duration where
  nanoseconds : Nat
  deriving DecidableEq, Repr

namespace Duration

def nanosecondsPerSecond : Nat := 1000000000

def ofParts (seconds nanoseconds : Nat) : Duration :=
  ⟨seconds * nanosecondsPerSecond + nanoseconds⟩

def ofSeconds (seconds : Nat) : Duration := ofParts seconds 0

def ofMilliseconds (ms : Nat) : Duration := ⟨ms * 1000000⟩

/-- The whole seconds. -/
def seconds (d : Duration) : Nat := d.nanoseconds / nanosecondsPerSecond

/-- What is left over after the whole seconds. -/
def fraction (d : Duration) : Nat := d.nanoseconds % nanosecondsPerSecond

def toDouble (d : Duration) : Double :=
  .ofFloat (d.seconds.toUInt64.toFloat + d.fraction.toUInt64.toFloat / 1000000000.0)

/-- The seconds as the shortest decimal text. -/
def text (d : Duration) : String := d.toDouble.shortest

end Duration

end Crosscheck
