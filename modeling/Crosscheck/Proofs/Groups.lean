import Crosscheck.Report
import Mathlib.Algebra.BigOperators.Group.List.Basic
import Mathlib.Algebra.Ring.Nat

/-!
# Groups of the failure report

The report is a title, a part for each group of failures of one kind on one target, and a total. A
failure belongs to one group, so the numbers in the headings add up to the total.
-/

namespace Crosscheck

namespace Report

/-- The failures of one kind on one target. -/
structure FailureGroup where
  kind : Kind
  target : Target
  failures : List Failure
  deriving DecidableEq, Repr

namespace FailureGroup

def size (g : FailureGroup) : Nat := g.failures.length

def heading (g : FailureGroup) : String :=
  g.kind.label ++ " / " ++ g.target.token ++ " (" ++ toString g.size ++ " failures):"

def lines (g : FailureGroup) : List String :=
  ["", g.heading, rule '-'] ++ Stage.all.flatMap fun stage => stagePart stage g.failures

/-- Whether a failure is of some kind on some target. -/
def holds (place : Kind × Target) (f : Failure) : Bool :=
  f.kind == place.1 && f.target == place.2

/-- The group of some kind and some target. -/
def ofPlace (failures : List Failure) (place : Kind × Target) : FailureGroup :=
  ⟨place.1, place.2, failures.filter (holds place)⟩

end FailureGroup

open FailureGroup

/-- Where failures may be, in the order of reports. -/
def places : List (Kind × Target) :=
  Kind.all.flatMap fun kind => Target.all.map fun target => (kind, target)

/-- The groups that hold failures. -/
def groups (failures : List Failure) : List FailureGroup :=
  (places.map (ofPlace failures)).filter fun g => !g.failures.isEmpty

/-- The report with some groups and some total. -/
def text (gs : List FailureGroup) (total : Nat) : String :=
  String.join <| ([rule '=', "FAILURE REPORT", rule '='] ++ gs.flatMap FailureGroup.lines ++
    ["", rule '=', "Total failures: " ++ toString total, rule '=']).map (· ++ "\n")

theorem groupPart_eq (failures : List Failure) (kind : Kind) (target : Target) :
    groupPart kind target failures =
      if !(ofPlace failures (kind, target)).failures.isEmpty then
        (ofPlace failures (kind, target)).lines
      else [] := by
  unfold groupPart
  have hfilter : failures.filter (fun f => f.kind == kind && f.target == target) =
      (ofPlace failures (kind, target)).failures := rfl
  rw [hfilter]
  cases hgroup : (ofPlace failures (kind, target)).failures with
  | nil => rfl
  | cons f group =>
    simp only [List.isEmpty_cons, Bool.not_false, if_true, FailureGroup.lines, heading, size,
      hgroup]
    rfl

theorem flatMap_filter {α β : Type} (keep : α → Bool) (f : α → List β) (as : List α) :
    (as.filter keep).flatMap f = as.flatMap fun a => if keep a then f a else [] := by
  induction as with
  | nil => rfl
  | cons a as ih =>
    rw [List.filter_cons, List.flatMap_cons, ← ih]
    cases keep a <;> rfl

theorem lines_eq (failures : List Failure) : lines failures =
    [rule '=', "FAILURE REPORT", rule '='] ++ (groups failures).flatMap FailureGroup.lines ++
      ["", rule '=', "Total failures: " ++ toString failures.length, rule '='] := by
  have hgroups : (Kind.all.flatMap fun kind => Target.all.flatMap fun target =>
      groupPart kind target failures) = (groups failures).flatMap FailureGroup.lines := by
    rw [groups, flatMap_filter, List.flatMap_map, places, List.flatMap_assoc]
    refine List.flatMap_congr fun kind _ => ?_
    rw [List.flatMap_map]
    exact List.flatMap_congr fun target _ => groupPart_eq failures kind target
  rw [lines, hgroups]

end Report

theorem Ledger.report_eq (l : Ledger) :
    l.report = if l.size = 0 then "" else Report.text (Report.groups l.failures) l.size := by
  unfold report isEmpty
  cases hfailures : l.failures with
  | nil => simp [size, hfailures]
  | cons f fs =>
    have hsize : l.size ≠ 0 := by simp [size, hfailures]
    rw [if_neg hsize, ← hfailures, Report.lines_eq]
    simp [hfailures, size, Report.text]

end Crosscheck
