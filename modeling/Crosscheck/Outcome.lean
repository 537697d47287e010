import Crosscheck.Path
import Crosscheck.Text.Clip
import Crosscheck.Text.Quoted

/-!
# Outcomes

What running one case on one target came to. A failure belongs to a stage, and every outcome has a
detail text for reports. A mismatch holds the fields in which two runs differ; its text shows the
readable form of both values, quoted and bounded in length.
-/

namespace Crosscheck

/-- The steps that a failure can be put down to, in the order in which they happen. -/
inductive Stage where
  | compilation
  | assembly
  | referenceCompilation
  | execution
  | outputMismatch
  deriving DecidableEq, Repr

namespace Stage

def all : List Stage :=
  [compilation, assembly, referenceCompilation, execution, outputMismatch]

theorem mem_all (s : Stage) : s ∈ all := by cases s <;> decide

def token : Stage → String
  | compilation => "compilation"
  | assembly => "assembly"
  | referenceCompilation => "reference_compilation"
  | execution => "execution"
  | outputMismatch => "output_mismatch"

/-- The token with spaces between its words. -/
def phrase (s : Stage) : String :=
  String.ofList (s.token.toList.map fun c => if c = '_' then ' ' else c)

/-- Position in reports. -/
def rank : Stage → Nat
  | compilation => 0
  | assembly => 1
  | referenceCompilation => 2
  | execution => 3
  | outputMismatch => 4

end Stage

/-- The two contents of a stream in which two runs differ. -/
structure StreamDiff where
  expected : Bytes
  actual : Bytes
  deriving DecidableEq, Repr

structure Mismatch where
  /-- The actual and the expected exit code. -/
  exitCode : Option (Int × Int)
  stdout : Option StreamDiff
  stderr : Option StreamDiff
  deriving DecidableEq, Repr

namespace Mismatch

def none : Mismatch := ⟨.none, .none, .none⟩

def isEmpty (m : Mismatch) : Bool :=
  m.exitCode.isNone && m.stdout.isNone && m.stderr.isNone

/-- The names of the fields that differ. -/
def diverged (m : Mismatch) : List String :=
  (if m.exitCode.isSome then ["exit code"] else []) ++
    (if m.stdout.isSome then ["stdout"] else []) ++
    (if m.stderr.isSome then ["stderr"] else [])

/-- The longest part of a stream that is shown, in characters. -/
def maxShown : Nat := 200

/-- A stream as quoted text, with a note of what does not fit. -/
def literal (bytes : Bytes) : String :=
  let (head, omitted) := Text.clip maxShown (Text.lossy bytes)
  Text.quote head ++ Text.omission omitted

def streamParts (stream : String) : Option StreamDiff → List String
  | .none => []
  | some d =>
    ["Expected " ++ stream ++ ": " ++ literal d.expected, "Got " ++ stream ++ ": " ++ literal d.actual]

def parts (m : Mismatch) : List String :=
  (match m.exitCode with
    | .none => []
    | some (actual, expected) => ["Return code: " ++ toString actual ++ " vs " ++ toString expected])
    ++ streamParts "stdout" m.stdout ++ streamParts "stderr" m.stderr

def message (m : Mismatch) : String :=
  String.intercalate " | " m.parts

end Mismatch

inductive Outcome where
  | passed
  /-- There is nothing to compare with. -/
  | skipped (reason : String)
  /-- The source is not there; no program was run. -/
  | sourceNotFound (path : Path)
  | failedAtCompilation (detail : String)
  | failedAtAssembly (detail : String)
  /-- The reference compiler refused the source. -/
  | failedAtReferenceCompilation (detail : String)
  /-- A binary could not be launched or did not end in time. -/
  | failedAtExecution (detail : String)
  | failedOnMismatch (mismatch : Mismatch)
  deriving DecidableEq, Repr

namespace Outcome

def isPass : Outcome → Bool
  | passed => true
  | _ => false

def isSkip : Outcome → Bool
  | skipped _ => true
  | _ => false

def isFailure (o : Outcome) : Bool := !o.isPass && !o.isSkip

/-- The stage of a failure. -/
def stage? : Outcome → Option Stage
  | passed | skipped _ => none
  | sourceNotFound _ | failedAtCompilation _ => some .compilation
  | failedAtAssembly _ => some .assembly
  | failedAtReferenceCompilation _ => some .referenceCompilation
  | failedAtExecution _ => some .execution
  | failedOnMismatch _ => some .outputMismatch

theorem isFailure_eq_isSome_stage? (o : Outcome) : o.isFailure = o.stage?.isSome := by
  cases o <;> rfl

/-- The text for reports. -/
def detail : Outcome → String
  | passed => ""
  | skipped reason => reason
  | sourceNotFound path => "source file not found: " ++ path.display
  | failedAtCompilation detail
  | failedAtAssembly detail
  | failedAtReferenceCompilation detail
  | failedAtExecution detail => detail
  | failedOnMismatch mismatch => mismatch.message

/-- The short text for progress lines. -/
def status : Outcome → String
  | passed => "PASS"
  | skipped reason => "SKIP (" ++ reason ++ ")"
  | sourceNotFound _ => "FAIL (not found)"
  | failedOnMismatch _ => "FAIL (output mismatch)"
  | failedAtCompilation _ => "FAIL (" ++ Stage.compilation.phrase ++ ")"
  | failedAtAssembly _ => "FAIL (" ++ Stage.assembly.phrase ++ ")"
  | failedAtReferenceCompilation _ => "FAIL (" ++ Stage.referenceCompilation.phrase ++ ")"
  | failedAtExecution _ => "FAIL (" ++ Stage.execution.phrase ++ ")"

/-- The label under which an outcome is counted. -/
def metricLabel : Outcome → String
  | sourceNotFound _ => "not_found"
  | passed => "pass"
  | o => match o.stage? with
    | some stage => stage.token
    | none => "skip"

end Outcome

end Crosscheck
