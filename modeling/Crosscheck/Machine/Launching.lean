import Crosscheck.Shell.Run
import Crosscheck.World

/-!
# The machine

A machine in memory, on which programs are launched: `behaviour` says what comes of a command. The
program runs with nothing to read, and with its two output streams taken in outside the machine.
With a time limit it runs no further than to the instant at which it would be killed. What goes on
in the background after the command has been waited for is left out.
-/

namespace Crosscheck.Machine

/-- More steps than any run takes. -/
def budget : Nat := Nat.pow 10 15

/-- The environment of launched programs. -/
def environment (w : World) : List (Bytes × Bytes) :=
  (w.searchPath.toList.map fun path => (Text.utf8 "PATH", path)) ++
    [(Text.utf8 "HOME", Text.utf8 "/root")]

/-- The numbers of the pipes behind the two streams. -/
def stdoutPipe : Nat := 1

def stderrPipe : Nat := 2

/-- A process at its start. -/
def newProcess (w : World) (horizon : Option Nat) : Process :=
  let pipe : Pipe := ⟨[], 0, 0, true, 0⟩
  let system : System := {
    files := w.files
    clock := w.clock
    horizon := horizon
    openFiles := [
      (0, ⟨.device .null, 0, true, false, false⟩),
      (1, ⟨.pipe stdoutPipe, 0, false, true, true⟩),
      (2, ⟨.pipe stderrPipe, 0, false, true, true⟩)]
    pipes := [(stdoutPipe, pipe), (stderrPipe, pipe)]
    backgrounds := []
    signals := []
    fresh := 101 }
  { system, pid := 100, here := w.here, descriptors := [(0, 0), (1, 1), (2, 2)],
    environment := environment w, trouble := none }

/-- What happened on one of the streams, if the program itself ended at `exit`. -/
def streamOf (system : System) (exit : Option Nat) (pipe : Nat) : OutputStream :=
  let holders := system.backgrounds.filter fun b => pipe ∈ b.holds
  let closed := do
    let ends ← holders.mapM Background.ended
    return ends.foldl max (← exit)
  let writes := (system.pipe pipe).writes.reverse.map fun w => (w.instant, w.data)
  { writes := writes.mergeSort fun a b => a.1 ≤ b.1
    closed := closed
    delivered := closed }

/-- Runs an image up to a horizon. -/
def runTo (w : World) (horizon : Option Nat) (image : Image) : Child × System :=
  let (e, p) := Shell.runImage budget image (newProcess w horizon)
  let exit := if p.system.isOver then none else some (p.system.clock, e)
  ({ exit := exit
     stdout := streamOf p.system (exit.map (·.1)) stdoutPipe
     stderr := streamOf p.system (exit.map (·.1)) stderrPipe }, p.system)

/-- The instants at which a child is looked at. -/
def looks (start k : Nat) : Nat := start + k * Watch.pollInterval

/-- The first look at or after a deadline. -/
def lastLook (start : Nat) (limit : Duration) : Nat :=
  looks start ((limit.nanoseconds + Watch.pollInterval - 1) / Watch.pollInterval)

/-- Whether something in the background goes on after an instant. -/
def goesOnAfter (system : System) (instant : Nat) : Bool :=
  system.backgrounds.any fun b => match b.ended with
    | some ended => instant < ended
    | none => true

/-- What comes of a command on this machine. -/
def behaviour : Behaviour := fun w command limit =>
  match Image.ofProgram w.files w.here w.searchPath command.program command.arguments with
  | .error cause => ⟨.error (.ofRefusal command.program cause), w.files, w.clock⟩
  | .ok image =>
    let (child, system) := runTo w (limit.map (lastLook w.clock)) image
    match child.await command.programName w.clock limit with
    | none => ⟨.error (.io (.code 4)), system.files, system.clock⟩
    | some (result, instant) =>
      let system :=
        if goesOnAfter system instant then (runTo w (some instant) image).2 else system
      ⟨result, system.files, instant⟩

end Crosscheck.Machine
