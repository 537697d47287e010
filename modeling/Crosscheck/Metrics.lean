import Crosscheck.Duration
import Crosscheck.Kind
import Crosscheck.Outcome
import Crosscheck.Target

/-!
# Metrics

Counters and histograms under text keys. A counter is set or raised; a histogram keeps every
sample in the order of recording. Every executed case raises the counter of its outcome and adds
its duration to a histogram. The summary lists all keys in the order of their characters.
-/

namespace Crosscheck

/-- The key of a metric: its name, with its labels in braces if it has any. -/
def metricKey (name : String) (labels : List (String × String)) : String :=
  if labels.isEmpty then name
  else name ++ "\x7b" ++ String.intercalate "," (labels.map fun l => l.1 ++ "=" ++ l.2) ++ "\x7d"

/-- Values under keys, in the order in which the keys first came up. -/
abbrev Keyed (β : Type) := List (String × β)

namespace Keyed

variable {β : Type}

def find? (xs : Keyed β) (key : String) : Option β :=
  List.lookup key xs

/-- Changes the value under a key, which is there afterwards. -/
def update (key : String) (change : Option β → β) : Keyed β → Keyed β
  | [] => [(key, change none)]
  | (k, b) :: rest =>
    if k = key then (k, change (some b)) :: rest else (k, b) :: update key change rest

def sorted (xs : Keyed β) : Keyed β :=
  xs.mergeSort fun a b => decide (a.1 ≤ b.1)

end Keyed

structure Metrics where
  counters : Keyed Nat
  histograms : Keyed (List Double)

namespace Metrics

def empty : Metrics := ⟨[], []⟩

def increment (m : Metrics) (key : String) (amount : Nat) : Metrics :=
  { m with counters := Keyed.update key (fun old => old.getD 0 + amount) m.counters }

def absolute (m : Metrics) (key : String) (value : Nat) : Metrics :=
  { m with counters := Keyed.update key (fun _ => value) m.counters }

def sample (m : Metrics) (key : String) (value : Double) : Metrics :=
  { m with histograms := Keyed.update key (fun old => old.getD [] ++ [value]) m.histograms }

def counter? (m : Metrics) (key : String) : Option Nat := Keyed.find? m.counters key

def histogram? (m : Metrics) (key : String) : Option (List Double) :=
  Keyed.find? m.histograms key

/-- The counter of the cases of one kind, target and outcome label. -/
def casesKey (kind : Kind) (target : Target) (label : String) : String :=
  metricKey "asmdiff_cases_total"
    [("kind", kind.extension), ("arch", target.token), ("outcome", label)]

/-- The histogram of the durations of one kind and target. -/
def durationKey (kind : Kind) (target : Target) : String :=
  metricKey "asmdiff_case_duration_seconds" [("kind", kind.extension), ("arch", target.token)]

/-- Takes in one executed case. -/
def recordCase (m : Metrics) (kind : Kind) (target : Target) (o : Outcome) (elapsed : Duration) :
    Metrics :=
  (m.increment (casesKey kind target o.metricLabel) 1).sample (durationKey kind target)
    elapsed.toDouble

def counterLine (entry : String × Nat) : String :=
  "  " ++ entry.1 ++ ": " ++ toString entry.2 ++ "\n"

def mean (samples : List Double) : Double :=
  .ofFloat (if samples.isEmpty then 0.0
    else Double.sum samples / samples.length.toUInt64.toFloat)

def histogramLine (entry : String × List Double) : String :=
  "  " ++ entry.1 ++ ": count=" ++ toString entry.2.length ++
    " mean=" ++ (mean entry.2).fixed 3 ++
    "s max=" ++ (Double.ofFloat (Double.maximum entry.2)).fixed 3 ++ "s\n"

def counterPart (m : Metrics) : String :=
  if m.counters.isEmpty then ""
  else "\n### Counters\n" ++ String.join ((Keyed.sorted m.counters).map counterLine)

def histogramPart (m : Metrics) : String :=
  if m.histograms.isEmpty then ""
  else "\n### Histograms\n" ++ String.join ((Keyed.sorted m.histograms).map histogramLine)

def summary (m : Metrics) : String :=
  if m.counters.isEmpty && m.histograms.isEmpty then "No metrics collected.\n"
  else "## Metrics Summary\n" ++ m.counterPart ++ m.histogramPart

end Metrics

end Crosscheck
