import Crosscheck.Artifacts
import Crosscheck.Error
import Crosscheck.Toolchain

/-!
# Trials

A trial runs one case on one target. Its steps come in a fixed order and the first that fails ends
it: the source must be there, the recorded answer is read if the corpus has answers, the source is
compiled, the assembly is linked, a reference binary is built if there is no answer, the binary
under test is run, and so is the reference binary, and what came out is compared. Every path that a
command is to write is tracked before the command is launched, and whatever ends the trial, all
that was tracked is removed.

A failure of the case itself is an outcome. A tool that cannot be launched, or an answer that cannot
be read, ends the run.
-/

namespace Crosscheck

/-- One case on one target, with all that its commands are made of. -/
structure Trial where
  settings : Settings
  /-- Where artifacts are put. -/
  workDir : Path
  test : Case
  target : Target

/-- Whose program is launched: a tool must be there, a product may be broken. -/
inductive Role where
  | tool
  | product
  deriving DecidableEq, Repr

/-- What a command that left no capture means: the text of a failure, or the end of the run. -/
def LaunchError.classify (role : Role) (e : LaunchError) : Except Fatal String :=
  match e, role with
  | .timedOut .., _ => .ok e.message
  | .notFound _, .product | .refused .., .product => .ok e.message
  | .notFound program, .tool => .error (.error (.toolUnavailable program "not found"))
  | .refused program cause, .tool => .error (.error (.toolUnavailable program cause.message))
  | .io cause, _ => .error (.error (.io cause))
  | .deadlineOverflow, _ => .error .deadlineOverflow

/-- What a command wrote, or its exit code if it wrote nothing worth showing. -/
def Capture.failureDetail (r : Capture) (fallback : String) : String :=
  if r.diagnostics.isEmpty then fallback ++ " (exit code " ++ toString r.exitCode ++ ")"
  else r.diagnostics

namespace Trial

/-- How a trial ends. -/
abbrev Verdict := Except Fatal Outcome

/-- A step of a trial: it adds to the artifacts, and it may end the trial. -/
abbrev Step := ExceptT Verdict (StateT Artifacts Plan)

namespace Step

/-- Asks the world. -/
def ask (r : Request) : Step r.Answer :=
  ExceptT.lift (StateT.lift (Plan.request r))

def finish {α : Type} (o : Outcome) : Step α := throw (.ok o)

def abort {α : Type} (f : Fatal) : Step α := throw (.error f)

/-- Takes on a path that is about to be written. -/
def track (p : Path) : Step Unit := modify (·.track p)

end Step

open Step

variable (t : Trial)

def corpus : Corpus := t.settings.corpus t.test.kind

def products : Products := .ofCase t.workDir t.test.name t.target

def runtime : Path := t.settings.resolve t.corpus.runtime

/-- The file with the recorded answer. -/
def answerPath (dir : Path) : Path :=
  (t.settings.resolve dir).join (.ofText (t.test.name ++ ".ans"))

def compileCommand : Command :=
  t.settings.tools.compile t.corpus t.test.source t.target t.products.assembly

def linkCommand : Command :=
  t.settings.tools.link t.target t.products.assembly t.runtime t.products.underTest

def referenceCommand : Command :=
  t.settings.tools.buildReference t.test.source t.runtime t.products.reference

def runCommand : Command := t.settings.tools.runUnderTest t.target t.products.underTest

def runReferenceCommand : Command := Tools.runReference t.products.reference

/-- Whose program runs the binary under test. -/
def runRole : Role :=
  match t.target.execution with
  | .simulated => .tool
  | .native => .product

/-- A failed run of a binary that the host may not be able to run says so. -/
def runFailure (detail : String) : Outcome :=
  .failedAtExecution <|
    if t.target.isHostNative || t.target.execution ≠ .native then detail
    else detail ++ " (host is " ++ Target.hostArchitecture ++ "; " ++ t.target.token ++
      " binaries need a compatible CPU or emulation)"

/-- Launches a command; one that leaves no capture ends the trial. -/
def launch (role : Role) (command : Command) (failed : String → Outcome) : Step Capture := do
  match ← ask (.launch command t.settings.timeout) with
  | .ok capture => return capture
  | .error e => throw ((e.classify role).map failed)

/-- Launches a tool that writes `product`; it must succeed. -/
def produce (product : Path) (command : Command) (failed : String → Outcome) (fallback : String) :
    Step Capture := do
  track product
  let capture ← t.launch .tool command failed
  if capture.succeeded then return capture
  else finish (failed (capture.failureDetail fallback))

def checkSource : Step Unit := do
  if ← ask (.isFile t.test.source) then return ()
  else finish (.sourceNotFound t.test.source)

/-- The recorded answer, if the corpus has answers. Without its own the case is skipped. -/
def readAnswer : Step (Option Bytes) := do
  match t.corpus.answerDir with
  | none => return none
  | some dir =>
    if ← ask (.isFile (t.answerPath dir)) then
      match ← ask (.read (t.answerPath dir)) with
      | .ok bytes => return some bytes
      | .error cause => abort (.error (.io cause))
    else finish (.skipped "no answer file")

def compile : Step Unit := do
  let capture ← t.produce t.products.assembly t.compileCommand .failedAtCompilation
    "compilation failed"
  if t.settings.strictDiagnostics && capture.hasOutput then
    finish (.failedAtCompilation ("unexpected compiler output: " ++ capture.diagnostics))
  else return ()

def link : Step Unit := do
  discard <| t.produce t.products.underTest t.linkCommand .failedAtAssembly
    "Assembly linking failed"

def buildReference : Step Unit := do
  discard <| t.produce t.products.reference t.referenceCommand .failedAtReferenceCompilation
    "Standard compilation failed"

def runUnderTest : Step Capture := t.launch t.runRole t.runCommand t.runFailure

def runReference : Step Capture :=
  t.launch .product t.runReferenceCommand fun detail =>
    .failedAtExecution ("reference binary: " ++ detail)

/-- Runs the binary under test and judges it by the answer, or by the reference binary. -/
def judge : Option Bytes → Step Outcome
  | some answer => do
    let underTest ← t.runUnderTest
    return Capture.compareAnswer underTest.stdout answer
  | none => do
    t.buildReference
    let underTest ← t.runUnderTest
    let reference ← t.runReference
    return Capture.compare underTest reference

def steps : Step Outcome := do
  t.checkSource
  let answer ← t.readAnswer
  t.compile
  t.link
  t.judge answer

/-- The whole trial: its steps, and then the removal of what they made. -/
def plan : Plan Verdict := do
  let (ending, made) ← t.steps.run.run .empty
  let _ ← made.release
  return match ending with
    | .ok outcome => .ok outcome
    | .error verdict => verdict

/-- What a trial came to, and how long it took. -/
structure Result where
  test : Case
  target : Target
  outcome : Outcome
  elapsed : Duration
  deriving DecidableEq, Repr

/-- The trial with the time that it takes. -/
def timed : Plan (Except Fatal Result) := do
  let start ← Plan.request .now
  let verdict ← t.plan
  let stop ← Plan.request .now
  return verdict.map fun outcome => ⟨t.test, t.target, outcome, ⟨stop - start⟩⟩

end Trial

/-- Makes the directory for artifacts and says where it is. -/
def World.prepareWorkDir (w : World) (settings : Settings) : Except Error Path × World :=
  match Path.absolute? w.herePath settings.workPath with
  | none => (.error (.io .emptyPath), w)
  | some dir =>
    let (made, w) := w.makeDirectories dir
    (match made with
      | .ok () => .ok dir
      | .error cause => .error (.io cause), w)

end Crosscheck
