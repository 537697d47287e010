import Crosscheck.Ledger
import Crosscheck.Metrics
import Crosscheck.Trial
import Crosscheck.Workers

/-!
# Suites

A suite runs a list of cases of one kind on one target. A case that fails stops nothing: it is
counted and recorded, in the order of the list whatever order the workers ended in. Only an error
that ends the run stops a suite, and then nothing is recorded.
-/

namespace Crosscheck

/-- What a suite came to. -/
structure Tally where
  kind : Kind
  target : Target
  passed : Nat
  skipped : Nat
  /-- The names of the failing cases, in the order of the list. -/
  failed : List String
  deriving DecidableEq, Repr

namespace Tally

def failedCount (t : Tally) : Nat := t.failed.length

def succeeded (t : Tally) : Bool := t.failed.isEmpty

def ofResults (kind : Kind) (target : Target) (results : List Trial.Result) : Tally where
  kind := kind
  target := target
  passed := (results.filter fun r => r.outcome.isPass).length
  skipped := (results.filter fun r => r.outcome.isSkip).length
  failed := (results.filter fun r => r.outcome.isFailure).map fun r => r.test.name

end Tally

/-- Records the failures among some results. -/
def Ledger.recordAll (l : Ledger) (results : List Trial.Result) : Ledger :=
  (results.filterMap fun r => Failure.ofOutcome? r.test r.target r.outcome).foldl record l

/-- Takes in executed cases. -/
def Metrics.recordResults (m : Metrics) (results : List Trial.Result) : Metrics :=
  results.foldl (fun m r => m.recordCase r.test.kind r.target r.outcome r.elapsed) m

/-- What became of a suite. -/
structure SuiteRun where
  verdict : Except Fatal Tally
  ledger : Ledger
  /-- The cases that were executed, in the order in which they ended. -/
  ended : List Trial.Result

namespace Suite

/-- The trials of a suite. -/
def trials (settings : Settings) (workDir : Path) (target : Target) (cases : List Case) :
    List Trial :=
  cases.map fun c => ⟨settings, workDir, c, target⟩

/-- Runs the cases with artifacts in `workDir`, which is there already. -/
def runIn (programs : Behaviour) (turns : List Turn) (settings : Settings) (workDir : Path)
    (kind : Kind) (target : Target) (cases : List Case) (ledger : Ledger) (w : World) :
    SuiteRun × World :=
  let (work, w) := work programs (settings.workers w.processors) turns
    ((trials settings workDir target cases).map Trial.timed) w
  (match work.verdict with
    | .ok results => ⟨.ok (.ofResults kind target results), ledger.recordAll results, work.ended⟩
    | .error fatal => ⟨.error fatal, ledger, work.ended⟩, w)

/-- Makes the directory for artifacts and runs the cases. -/
def run (programs : Behaviour) (turns : List Turn) (settings : Settings) (kind : Kind)
    (target : Target) (cases : List Case) (ledger : Ledger) (w : World) : SuiteRun × World :=
  let (prepared, w) := w.prepareWorkDir settings
  match prepared with
  | .error e => (⟨.error (.error e), ledger, []⟩, w)
  | .ok workDir => runIn programs turns settings workDir kind target cases ledger w

end Suite

end Crosscheck
