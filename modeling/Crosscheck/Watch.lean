import Crosscheck.Command

/-!
# Watching a child

A launched program is a child, which writes to two streams. Each stream goes through a pipe to a
reader of its own. The reader takes in what comes, and hands it over once the pipe is empty and
nobody can write to it any more; that may be long after the child has exited, for others may hold
the stream too. The runner, who has launched the child, waits until it exits, and then for what the
two readers hand over.

With a time limit the runner looks at the child again and again, with a rest in between, until a
look finds that it has exited or the deadline has passed; then it kills the child. For a reader it
waits until the deadline and no longer. Without a limit it waits as long as it takes.

All of them go about their work side by side, and so does the clock: `Watch.step` says what each
event makes of a watch, and any order of events in which each one can happen is a run.
-/

namespace Crosscheck

/-- How a child ends. -/
inductive ExitStatus where
  | exited (code : Nat)
  | killed (signal : Nat)
  deriving DecidableEq, Repr

/-- The exit code, or the negated number of the signal. -/
def ExitStatus.code : ExitStatus → Int
  | exited code => code
  | killed signal => -signal

inductive StreamName where
  | stdout
  | stderr
  deriving DecidableEq, Repr

/-- What the reader of a stream is doing. -/
inductive Reader where
  | reading
  /-- It has handed over all that it has taken in, or the error that kept it from reading on. -/
  | done (message : Except OsError Bytes)
  /-- It has ended without handing over anything. -/
  | gone

/-- A stream on its way to its reader. -/
structure Wire where
  /-- All that has been written to it. -/
  written : Bytes
  /-- What has been written and not yet read. -/
  pending : Bytes
  /-- What the reader has taken in. -/
  taken : Bytes
  /-- Whether anybody can still write to it. -/
  isOpen : Bool
  reader : Reader

/-- What can happen on a stream. -/
inductive WireEvent where
  | write (data : Bytes)
  /-- The last one who could write lets go of it. -/
  | close
  /-- The reader takes in so many bytes, or as many as there are. -/
  | read (count : Nat)
  | handOver
  /-- Reading fails, and the reader hands over the error. -/
  | fail (cause : OsError)
  /-- The reader ends all at once. -/
  | vanish
  deriving DecidableEq, Repr

namespace Wire

def start : Wire := ⟨[], [], [], true, .reading⟩

def step (w : Wire) : WireEvent → Option Wire
  | .write data =>
    if w.isOpen then some { w with written := w.written ++ data, pending := w.pending ++ data }
    else none
  | .close => if w.isOpen then some { w with isOpen := false } else none
  | e =>
    match w.reader, e with
    | .reading, .read count =>
      some { w with taken := w.taken ++ w.pending.take count, pending := w.pending.drop count }
    -- the end of a stream is seen only where nothing is left and nothing can come
    | .reading, .handOver =>
      if w.pending.isEmpty && !w.isOpen then some { w with reader := .done (.ok w.taken) } else none
    | .reading, .fail cause => some { w with reader := .done (.error cause) }
    | .reading, .vanish => some { w with reader := .gone }
    | _, _ => none

end Wire

/-- How a child stands. -/
inductive Life where
  | running
  | exited (status : ExitStatus)
  /-- It has exited, and the runner has taken its status, so that nothing is left of it. -/
  | reaped (status : ExitStatus)
  deriving DecidableEq, Repr

namespace Life

def status? : Life → Option ExitStatus
  | running => none
  | exited status | reaped status => some status

def killSignal : Nat := 9

/-- A child that is killed runs no more; to one that has exited nothing happens. -/
def kill : Life → Life
  | running => exited (.killed killSignal)
  | life => life

end Life

namespace Watch

/-- How far the runner has come with the streams of a child that has exited: it is at the first one,
or at the second one, with what it got from the first if that came in time. -/
inductive Place where
  | first
  | second (stdout : Option Bytes)
  deriving DecidableEq, Repr

def Place.stream : Place → StreamName
  | first => .stdout
  | second _ => .stderr

/-- What the runner is about to do. -/
inductive Phase where
  /-- To find out the deadline. -/
  | begin
  /-- To look whether the child has exited. -/
  | look
  /-- To compare the clock with the deadline, after a look in vain. -/
  | check
  /-- To look again, at this instant or later. -/
  | rest (wake : Nat)
  | kill
  /-- To wait until the killed child is gone. -/
  | reap
  /-- To wait until the child exits, however long that takes. -/
  | wait
  /-- To find out how long to wait for a stream. -/
  | turn (status : ExitStatus) (place : Place)
  /-- To wait for a stream, until an instant if there is one. -/
  | receive (status : ExitStatus) (place : Place) (due : Option Nat)
  | finished (result : Except LaunchError Capture)

/-- A look at the child that the runner has made. -/
structure Look where
  found : Option ExitStatus
  /-- What the clock said then; after a look in vain, what it was compared with the deadline. -/
  reading : Nat
  deriving DecidableEq, Repr

inductive Event where
  | on (s : StreamName) (e : WireEvent)
  | exit (status : ExitStatus)
  /-- Time passes. -/
  | pass (nanoseconds : Nat)
  /-- The runner does what it is about to do. -/
  | act
  /-- The runner waits for a stream no longer. -/
  | giveUp
  /-- The runner asks the system for the child, and the system fails. -/
  | fault (cause : OsError)
  deriving DecidableEq, Repr

end Watch

/-- A launched child, its streams, and the runner that waits for them. -/
structure Watch where
  /-- What the child is called in messages. -/
  program : String
  limit : Option Duration
  deadline : Option Nat
  clock : Nat
  child : Life
  stdout : Wire
  stderr : Wire
  /-- How often the runner has looked at the child. -/
  polls : Nat
  /-- The looks that the runner is done with, in their order. -/
  looks : List Watch.Look
  /-- What came of waiting for the exit: the status, or none if the child was killed. -/
  answer : Option (Option ExitStatus)
  phase : Watch.Phase

namespace Watch

/-- The pause between two looks at a child, in nanoseconds. -/
def pollInterval : Nat := 20000000

/-- The last instant of the clock: its seconds are a signed number of 64 bits. -/
def lastInstant : Nat := Nat.pow 2 63 * Duration.nanosecondsPerSecond - 1

/-- The end of a time limit that starts at an instant, if the clock has that instant. -/
def deadline? (start : Nat) (limit : Duration) : Option Nat :=
  if start + limit.nanoseconds ≤ lastInstant then some (start + limit.nanoseconds) else none

/-- A child that has been launched at an instant. -/
def launch (program : String) (start : Nat) (limit : Option Duration) : Watch where
  program := program
  limit := limit
  deadline := none
  clock := start
  child := .running
  stdout := .start
  stderr := .start
  polls := 0
  looks := []
  answer := none
  phase := .begin

variable (w : Watch)

def wire : StreamName → Wire
  | .stdout => w.stdout
  | .stderr => w.stderr

def setWire (x : Wire) : StreamName → Watch
  | .stdout => { w with stdout := x }
  | .stderr => { w with stderr := x }

def isLate : Bool :=
  match w.deadline with
  | some deadline => deadline ≤ w.clock
  | none => false

def timedOut : Except LaunchError Capture :=
  .error (.timedOut w.program (w.limit.getD ⟨0⟩))

/-- The runner is done with a look. -/
def note (found : Option ExitStatus) : Watch :=
  { w with looks := w.looks ++ [⟨found, w.clock⟩] }

/-- The runner knows how the child has ended and turns to its streams. -/
def toStreams (status : ExitStatus) : Watch :=
  { w with child := .reaped status, answer := some (some status), phase := .turn status .first }

/-- What the runner has in the end: a capture, if both streams came in time. -/
def result (status : ExitStatus) : Option Bytes → Option Bytes → Except LaunchError Capture
  | some stdout, some stderr => .ok ⟨status.code, stdout, stderr⟩
  | _, _ => w.timedOut

/-- The runner is done with a stream, with or without what was written to it. -/
def leave (status : ExitStatus) (place : Place) (got : Option Bytes) : Watch :=
  { w with
    phase :=
      match place with
      | .first => .turn status (.second got)
      | .second stdout => .finished (w.result status stdout got) }

def failWith (e : LaunchError) : Watch := { w with phase := .finished (.error e) }

/-- What the runner does next, unless it has to wait. -/
def act : Option Watch :=
  match w.phase with
  | .begin =>
    match w.limit with
    | none => some { w with phase := .wait }
    | some limit =>
      match deadline? w.clock limit with
      | none => some (w.failWith .deadlineOverflow)
      | some deadline => some { w with deadline := some deadline, phase := .look }
  | .look =>
    match w.child.status? with
    | some status => some ({ w.note (some status) with polls := w.polls + 1 }.toStreams status)
    | none => some { w with polls := w.polls + 1, phase := .check }
  | .check =>
    some { w.note none with
      phase := if w.isLate then .kill else .rest (w.clock + pollInterval) }
  | .rest wake => if wake ≤ w.clock then some { w with phase := .look } else none
  | .kill => some { w with child := w.child.kill, phase := .reap }
  | .reap =>
    w.child.status?.map fun status =>
      { w with child := .reaped status, answer := some none, phase := .finished w.timedOut }
  | .wait => w.child.status?.map w.toStreams
  | .turn status place =>
    some { w with phase := .receive status place (w.deadline.map (max w.clock)) }
  | .receive status place _ =>
    match (w.wire place.stream).reader with
    | .reading => none
    | .done (.ok bytes) => some (w.leave status place (some bytes))
    | .done (.error cause) => some (w.failWith (.io cause))
    | .gone => some (w.failWith (.io .readerGone))
  | .finished _ => none

def step (e : Event) : Option Watch :=
  match e with
  | .on s e => ((w.wire s).step e).map fun x => w.setWire x s
  | .exit status =>
    match w.child with
    | .running => some { w with child := .exited status }
    | _ => none
  | .pass nanoseconds => some { w with clock := w.clock + nanoseconds }
  | .act => w.act
  | .giveUp =>
    match w.phase with
    | .receive status place (some due) =>
      if due ≤ w.clock then some (w.leave status place none) else none
    | _ => none
  | .fault cause =>
    match w.phase with
    | .look => some ({ w with polls := w.polls + 1 }.failWith (.io cause))
    | .wait => some (w.failWith (.io cause))
    | _ => none

/-- The watch after some events, if they can happen one after the other. -/
def run (events : List Event) : Option Watch := events.foldlM step w

end Watch

end Crosscheck
