import Crosscheck.Duration
import Crosscheck.OsError
import Crosscheck.Outcome
import Crosscheck.Text.Blank

/-!
# Commands and what they leave behind

A command is a program with its arguments. A command that ran to its end leaves a capture: its exit
code, or the negated number of the signal that ended it, and all it wrote to its two streams. A
command that left none failed to launch, took too long, or could not be waited for.
-/

namespace Crosscheck

structure Command where
  program : Path
  arguments : List Bytes
  deriving DecidableEq, Repr

namespace Command

def programName (c : Command) : String := c.program.display

/-- The program and its arguments with a space before each. -/
def display (c : Command) : String :=
  c.arguments.foldl (fun shown a => shown ++ " " ++ Text.lossy a) c.programName

end Command

/-- What a finished command left behind. -/
structure Capture where
  exitCode : Int
  stdout : Bytes
  stderr : Bytes
  deriving DecidableEq, Repr

namespace Capture

def succeeded (r : Capture) : Bool := r.exitCode == 0

/-- Whether anything was written to either stream. -/
def hasOutput (r : Capture) : Bool := !r.stdout.isEmpty || !r.stderr.isEmpty

/-- The error stream without the white space around it, or the output stream if that is empty. -/
def diagnostics (r : Capture) : String :=
  let errors := Text.trim (Text.lossy r.stderr)
  if errors.isEmpty then Text.trim (Text.lossy r.stdout) else errors

def streamDiff (expected actual : Bytes) : Option StreamDiff :=
  if expected = actual then none else some ⟨expected, actual⟩

def verdict (m : Mismatch) : Outcome :=
  if m.isEmpty then .passed else .failedOnMismatch m

/-- Two runs agree if exit code and both streams are equal, byte for byte. -/
def compare (underTest reference : Capture) : Outcome :=
  verdict {
    exitCode :=
      if underTest.exitCode = reference.exitCode then none
      else some (underTest.exitCode, reference.exitCode)
    stdout := streamDiff reference.stdout underTest.stdout
    stderr := streamDiff reference.stderr underTest.stderr }

/-- Against a recorded answer only the output stream counts. -/
def compareAnswer (actual expected : Bytes) : Outcome :=
  verdict { exitCode := none, stdout := streamDiff expected actual, stderr := none }

end Capture

/-- Why a command left no capture. -/
inductive LaunchError where
  | notFound (program : String)
  | refused (program : String) (cause : OsError)
  | timedOut (program : String) (limit : Duration)
  | io (cause : OsError)
  /-- The clock has no instant for the end of the time limit. -/
  | deadlineOverflow
  deriving DecidableEq, Repr

def LaunchError.message : LaunchError → String
  | notFound program => "'" ++ program ++ "' not found"
  | refused program cause => "failed to launch '" ++ program ++ "': " ++ cause.message
  | timedOut program limit => "'" ++ program ++ "' timed out after " ++ limit.text ++ "s"
  | io cause => "IO error: " ++ cause.message
  | deadlineOverflow => "overflow when adding duration to instant"

/-- What a launch that the system refused is reported as. -/
def LaunchError.ofRefusal (program : Path) (cause : OsError) : LaunchError :=
  if cause = .notFound then .notFound program.display else .refused program.display cause

end Crosscheck
