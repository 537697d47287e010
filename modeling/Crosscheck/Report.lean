import Crosscheck.Ledger
import Crosscheck.Text.Blank
import Crosscheck.Text.Letters
import Crosscheck.Text.Lines

/-!
# The failure report

The failures of a ledger under headings: one for each kind and target, in it one for each stage,
in the order of kinds, targets and stages. Under a stage heading the failures stand in the order of
their recording, each with the first lines of its detail. Every heading says how many failures
stand below it. A ledger without failures has an empty report.
-/

namespace Crosscheck.Report

/-- How many lines of a detail are shown. -/
def detailLines : Nat := 3

/-- The longest line of a detail that is shown, in characters. -/
def maxLine : Nat := 100

def rule (c : Char) : String := String.ofList (List.replicate 80 c)

def detailLine? (line : String) : Option String :=
  let line := Text.trim line
  if line.isEmpty then none else some ("      " ++ Text.clipMarked maxLine line)

/-- The lines of a detail that are shown, and how many more there are. -/
def detailPart (detail : String) : List String :=
  let lines := Text.lines detail
  (lines.take detailLines).filterMap detailLine? ++
    if detailLines < lines.length then
      ["      ... (" ++ toString (lines.length - detailLines) ++ " more lines)"]
    else []

def entry (f : Failure) : List String :=
  ("    • " ++ f.test) :: detailPart f.detail

def stagePart (stage : Stage) (group : List Failure) : List String :=
  match group.filter fun f => f.stage == stage with
  | [] => []
  | entries =>
    ["", "  " ++ Text.upper stage.token ++ " (" ++ toString entries.length ++ " tests):"] ++
      entries.flatMap entry

def groupPart (kind : Kind) (target : Target) (failures : List Failure) : List String :=
  match failures.filter fun f => f.kind == kind && f.target == target with
  | [] => []
  | group =>
    ["", kind.label ++ " / " ++ target.token ++ " (" ++ toString group.length ++ " failures):",
      rule '-'] ++
      Stage.all.flatMap fun stage => stagePart stage group

def lines (failures : List Failure) : List String :=
  [rule '=', "FAILURE REPORT", rule '='] ++
    (Kind.all.flatMap fun kind => Target.all.flatMap fun target =>
      groupPart kind target failures) ++
    ["", rule '=', "Total failures: " ++ toString failures.length, rule '=']

end Report

def Ledger.report (l : Ledger) : String :=
  if l.isEmpty then "" else String.join ((Report.lines l.failures).map (· ++ "\n"))

end Crosscheck
