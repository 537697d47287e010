import Crosscheck.Discovery
import Crosscheck.Lookup
import Crosscheck.Options
import Crosscheck.Report
import Crosscheck.Suite

/-!
# Sessions

A session carries out a command line: it checks all that could end the run before the first case,
runs a suite for every kind and target or one file on every target, and prints the counts and the
failure report. Its exit code is zero if the run came to its end without a failure.
-/

namespace Crosscheck

/-- What a session prints, and its exit code. -/
structure Transcript where
  exit : Nat
  stdout : String
  stderr : String
  deriving DecidableEq, Repr

/-- What to run: the cases of each kind, or one case alone. -/
inductive Selection where
  | corpora (cases : List (Kind × List Case))
  | single (test : Case)
  deriving DecidableEq, Repr

namespace Selection

/-- The cases for one target, kind by kind. -/
def groups : Selection → List (Kind × List Case)
  | corpora cases => cases
  | single test => [(test.kind, [test])]

/-- The suites of a run, in order. -/
def suites (s : Selection) (targets : List Target) : List (Kind × Target × List Case) :=
  s.groups.flatMap fun (kind, cases) => targets.map fun target => (kind, target, cases)

end Selection

namespace Session

/-- The exit code of a run with failures, and of one that ended early. -/
def exitFailure : Nat := 1

def exitUsage : Nat := 2

/-- The exit code of a run ended by a time limit that the clock cannot hold. -/
def exitOverflow : Nat := 101

def line (s : String) : String := s ++ "\n"

def rule : String := String.ofList (List.replicate 60 '=')

def header (kind : Kind) (target : Target) : String :=
  line "" ++ line rule ++
    line ("Running " ++ Text.upper kind.label ++ " tests on " ++ Text.upper target.token) ++ line rule

def caseLine (r : Trial.Result) : String :=
  line ("[" ++ r.test.kind.tag ++ "/" ++ r.target.token ++ "] Testing " ++ r.test.name ++ "... " ++
    r.outcome.status)

def counts (passed failed skipped : Nat) : String :=
  toString passed ++ " passed, " ++ toString failed ++ " failed" ++
    if skipped = 0 then "" else ", " ++ toString skipped ++ " skipped"

def tallyLine (t : Tally) : String :=
  line "" ++ line (Text.upper t.kind.label ++ "/" ++ Text.upper t.target.token ++ ": " ++
    counts t.passed t.failedCount t.skipped)

/-- One count of several suites together. -/
def total (count : Tally → Nat) (tallies : List Tally) : Nat :=
  tallies.foldl (fun n t => n + count t) 0

def totals (tallies : List Tally) : String :=
  counts (total Tally.passed tallies) (total Tally.failedCount tallies)
    (total Tally.skipped tallies)

def warning (target : Target) : String :=
  line ("! Current machine architecture is not native " ++ target.token ++ " (" ++
    Target.hostArchitecture ++
    "). Direct execution might fail unless QEMU or similar emulation is set up.")

/-- The warnings about targets whose binaries the host may not run. -/
def warnings (targets : List Target) : String :=
  String.join ((targets.filter fun t => t == .aarch64 && !t.isHostNative).map warning)

/-- What the end of a run by `fatal` prints, and its exit code. -/
def ending : Fatal → Nat × String
  | .error e => (exitFailure, line ("✗ Error: " ++ e.message))
  | .deadlineOverflow => (exitOverflow, line LaunchError.deadlineOverflow.message)

/-- A run between two suites. -/
structure Progress where
  world : World
  ledger : Ledger
  tallies : List Tally
  /-- The cases executed so far, in the order in which they ended. -/
  ended : List Trial.Result
  stdout : String

/-- How a run is carried out. -/
structure Manner where
  settings : Settings
  /-- Whether the lines of single cases are left out. -/
  silent : Bool
  programs : Behaviour
  /-- The turns that the workers of each suite take. -/
  turns : Nat → List Turn

/-- What a suite prints, but for its end. -/
def suiteHead (m : Manner) (selection : Selection) (kind : Kind) (target : Target)
    (cases : List Case) : String :=
  match selection with
  | .single _ => ""
  | .corpora _ =>
    header kind target ++
      if cases.isEmpty then
        line ("No test files found in '" ++ (m.settings.corpus kind).sourceDir.display ++ "'.")
      else ""

def suiteFoot (selection : Selection) (t : Tally) : String :=
  match selection with
  | .single _ => ""
  | .corpora _ => tallyLine t

/-- Runs the suites one after the other, up to the first that ends the run. -/
def runSuites (m : Manner) (selection : Selection) :
    List (Kind × Target × List Case) → Progress → Progress × Option Fatal
  | [], p => (p, none)
  | (kind, target, cases) :: more, p =>
    let (run, w) := Suite.run m.programs (m.turns p.tallies.length) m.settings kind target cases
      p.ledger p.world
    let lines := if m.silent then "" else String.join (run.ended.map caseLine)
    let p := { p with
      world := w
      ledger := run.ledger
      ended := p.ended ++ run.ended
      stdout := p.stdout ++ suiteHead m selection kind target cases ++ lines }
    match run.verdict with
    | .error fatal => (p, some fatal)
    | .ok tally =>
      runSuites m selection more
        { p with tallies := p.tallies ++ [tally], stdout := p.stdout ++ suiteFoot selection tally }

/-- The counts of the whole run. -/
def summary (selection : Selection) (tallies : List Tally) : String :=
  match selection with
  | .single _ => line "" ++ line ("Summary: " ++ totals tallies)
  | .corpora _ => line "" ++ line rule ++ line ("OVERALL: " ++ totals tallies) ++ line rule

/-- What is printed after the last suite. -/
def conclude (selection : Selection) (p : Progress) : Transcript :=
  let stdout := p.stdout ++ summary selection p.tallies
  if p.ledger.isEmpty then ⟨0, stdout, line "✓ All tests passed"⟩
  else ⟨exitFailure, stdout ++ line "" ++ p.ledger.report, ""⟩

/-- The cases of every kind. -/
def discover (w : World) (settings : Settings) (kinds : List Kind) : Except Error Selection := do
  let cases ← kinds.mapM fun kind => do
    return (kind, ← Discovery.cases w (Discovery.corpusPath settings kind) kind)
  return .corpora cases

/-- Checks all that a run over the corpora needs. -/
def checkCorpora (w : World) (settings : Settings) (kinds : List Kind) (targets : List Target) :
    Except Error Selection := do
  Discovery.checkRuntimes w settings kinds
  let selection ← discover w settings kinds
  Tools.verify w settings targets kinds
  return selection

/-- Checks all that a run of one file needs. -/
def checkSingle (w : World) (settings : Settings) (file : Path) (targets : List Target) :
    Except Error Selection := do
  let test ← Discovery.single w settings file
  Discovery.checkRuntimes w settings [test.kind]
  Tools.verify w settings targets [test.kind]
  return .single test

/-- The transcript of a run that was refused before its first case. -/
def refusal (message : String) : Transcript := ⟨exitFailure, "", line ("✗ " ++ message)⟩

/-- Runs what was selected. The cases that were executed come with the transcript. -/
def runSelection (m : Manner) (selection : Selection) (targets : List Target) (w : World) :
    Transcript × List Trial.Result × World :=
  let (p, fatal) := runSuites m selection (selection.suites targets) ⟨w, .empty, [], [], ""⟩
  let t := match fatal with
    | none => conclude selection p
    | some fatal => ⟨(ending fatal).1, p.stdout, (ending fatal).2⟩
  ({ t with stderr := warnings targets ++ t.stderr }, p.ended, p.world)

/-- What the options select, once everything that it needs is there. The texts of errors are ready
to be shown. -/
def select (o : Options) (w : World) (settings : Settings) :
    Except String (Selection × List Target) := do
  let targets ← (Target.vocabulary.parseList o.target).mapError UnknownName.message
  let shown (e : Error) : String := "Error: " ++ e.message
  match o.file with
  | some file =>
    return (← (checkSingle w settings file targets).mapError shown, targets)
  | none =>
    let kinds ← (Kind.vocabulary.parseList o.kind).mapError UnknownName.message
    return (← (checkCorpora w settings kinds targets).mapError shown, targets)

/-- Carries out the options of a command line. -/
def runOptions (programs : Behaviour) (turns : Nat → List Turn) (o : Options) (w : World) :
    Transcript × World :=
  let settings := o.settings (.detect w)
  let (t, ended, w) := match select o w settings with
    | .error message => (refusal message, [], w)
    | .ok (selection, targets) => runSelection ⟨settings, o.silent, programs, turns⟩ selection targets w
  if o.metrics && t.exit ≠ exitOverflow then
    ({ t with stdout := t.stdout ++ line "" ++ (Metrics.empty.recordResults ended).summary }, w)
  else (t, w)

/-- Carries out a command line, given as the arguments after the program's name. -/
def run (programs : Behaviour) (turns : Nat → List Turn) (args : List Bytes) (w : World) :
    Transcript × World :=
  match Options.parse args with
  | .ok o => runOptions programs turns o w
  | .error .helpRequested => (⟨0, Options.usage, ""⟩, w)
  | .error .versionRequested => (⟨0, line Options.program, ""⟩, w)
  | .error e => (⟨exitUsage, "", line ("error: " ++ e.message)⟩, w)

end Session

end Crosscheck
