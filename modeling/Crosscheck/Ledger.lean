import Crosscheck.Case
import Crosscheck.Outcome
import Crosscheck.Target

/-!
# Failures

A failure is what is kept of one failing case on one target, with its detail bounded in length. The
ledger collects the failures of a run in the order in which they are recorded.
-/

namespace Crosscheck

structure Failure where
  test : String
  kind : Kind
  target : Target
  stage : Stage
  detail : String
  deriving DecidableEq, Repr

namespace Failure

/-- The longest detail that is kept, in characters. -/
def maxDetail : Nat := 500

def truncateDetail (detail : String) : String := Text.clipMarked maxDetail detail

/-- The failure that an outcome is, if it is one. -/
def ofOutcome? (c : Case) (target : Target) (o : Outcome) : Option Failure :=
  o.stage?.map fun stage => ⟨c.name, c.kind, target, stage, truncateDetail o.detail⟩

end Failure

/-- Failures in the order of their recording. -/
structure Ledger where
  failures : List Failure
  deriving DecidableEq, Repr

namespace Ledger

def empty : Ledger := ⟨[]⟩

def record (l : Ledger) (f : Failure) : Ledger := ⟨l.failures ++ [f]⟩

def size (l : Ledger) : Nat := l.failures.length

def isEmpty (l : Ledger) : Bool := l.failures.isEmpty

@[simp] theorem failures_empty : empty.failures = [] := rfl

@[simp] theorem failures_record (l : Ledger) (f : Failure) :
    (l.record f).failures = l.failures ++ [f] := rfl

end Ledger

end Crosscheck
