import Crosscheck.Proofs.ByteOrder
import Crosscheck.Proofs.Recordings
import Crosscheck.Proofs.Sorting
import Mathlib.Data.List.DropRight
import Mathlib.Data.List.Induction

/-!
# What the metrics tell

Counters are set and raised, samples are kept, gauges and descriptions are dropped, in whatever
order. What the metrics then tell of a key depends only on what was done under that key: a counter
is what it was last set to with all that was added since, and a histogram has its samples in the
order of recording. The summary lists exactly these keys, in the order of their bytes, so it does
not depend on how the operations under different keys were mixed.
-/

namespace Crosscheck

namespace Keyed

variable {β : Type}

/-- Everything that is found under some key, each key once and in the order of bytes. -/
structure Listing (found : String → Option β) (entries : Keyed β) : Prop where
  ascending : entries.Pairwise fun a b => Text.utf8 a.1 < Text.utf8 b.1
  mem_iff : ∀ key b, (key, b) ∈ entries ↔ found key = some b

/-- There is no second way to list what is found. -/
theorem Listing.unique {found : String → Option β} {entries entries' : Keyed β}
    (h : Listing found entries) (h' : Listing found entries') : entries = entries' := by
  have hnodup {es : Keyed β} (hes : es.Pairwise fun a b => Text.utf8 a.1 < Text.utf8 b.1) :
      es.Nodup := by
    refine hes.imp ?_
    rintro a _ hlt rfl
    exact List.lt_irrefl _ hlt
  have hperm : entries.Perm entries' :=
    (List.perm_ext_iff_of_nodup (hnodup h.ascending) (hnodup h'.ascending)).2 fun ⟨key, b⟩ =>
      (h.mem_iff key b).trans (h'.mem_iff key b).symm
  exact hperm.eq_of_pairwise (fun _ _ _ _ hab hba => (List.lt_asymm hab hba).elim) h.ascending
    h'.ascending

end Keyed

namespace Metrics

section operations

/-- What the metrics can be asked to take in. -/
inductive Operation where
  | increment (key : String) (amount : ℕ)
  | absolute (key : String) (value : ℕ)
  | sample (key : String) (value : Double)
  | gauge (key : String) (value : Double)
  | describe (name text : String)

/-- Gauges and descriptions are dropped. -/
def perform (m : Metrics) : Operation → Metrics
  | .increment key amount => m.increment key amount
  | .absolute key value => m.absolute key value
  | .sample key value => m.sample key value
  | .gauge .. => m
  | .describe .. => m

def performAll (m : Metrics) (ops : List Operation) : Metrics := ops.foldl perform m

/-- What is done to one counter. -/
inductive Change where
  | add (amount : ℕ)
  | set (value : ℕ)

namespace Change

def apply (value : ℕ) : Change → ℕ
  | add amount => value + amount
  | set value' => value'

def isAdd : Change → Bool
  | add _ => true
  | set _ => false

def amount : Change → ℕ
  | add amount => amount
  | set _ => 0

def set? : Change → Option ℕ
  | add _ => none
  | set value => some value

/-- What a counter was set to last, zero if it never was. -/
def lastSet (cs : List Change) : ℕ := (cs.filterMap set?).getLast?.getD 0

/-- All that was added to a counter since it was set last. -/
def addedSince (cs : List Change) : ℕ := ((cs.rtakeWhile isAdd).map amount).sum

/-- What has become of a counter, which is zero at first. -/
def result (cs : List Change) : ℕ := lastSet cs + addedSince cs

end Change

namespace Operation

/-- What an operation adds to the histogram under a key. -/
def value? (key : String) : Operation → Option Double
  | sample key' value => if key = key' then some value else none
  | _ => none

def values (ops : List Operation) (key : String) : List Double := ops.filterMap (value? key)

end Operation

open Operation

variable (m : Metrics) (op : Operation) (ops : List Operation) (key : String)

end operations

section summary

open Operation

end summary

end Metrics

end Crosscheck
