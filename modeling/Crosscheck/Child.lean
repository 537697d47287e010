import Crosscheck.Watch

/-!
# The life of a child

Seen from its launch, a child has a life: at some instant it exits, and what is written to its two
streams goes on until the last holder of a stream closes it, which may be later than the exit. A
reader takes in at once what is written.

`await` is the watch over such a child by a runner who loses no time. What happens at an instant
happens before the runner acts at that instant, and the clock goes on only when there is nothing
else to do.
-/

namespace Crosscheck

/-- What happens on one stream of a child. -/
structure OutputStream where
  /-- What is written, with the instants. -/
  writes : List (Nat × Bytes)
  /-- When the last holder closes it. -/
  closed : Option Nat
  /-- When the reader hands it over. -/
  delivered : Option Nat
  deriving DecidableEq, Repr

/-- The life of a child, seen from its launch. -/
structure Child where
  exit : Option (Nat × ExitStatus)
  stdout : OutputStream
  stderr : OutputStream
  deriving DecidableEq, Repr

/-- Events to come, with their instants. -/
abbrev Agenda := List (Nat × Watch.Event)

def OutputStream.agenda (s : OutputStream) (name : StreamName) : Agenda :=
  (s.writes.flatMap fun (instant, data) =>
    [(instant, .on name (.write data)), (instant, .on name (.read data.length))]) ++
  (s.closed.toList.map fun instant => (instant, .on name .close)) ++
  (s.delivered.toList.map fun instant => (instant, .on name .handOver))

/-- All that happens to a child and on its streams, in the order of the instants. -/
def Child.agenda (c : Child) : Agenda :=
  let exit : Agenda := c.exit.toList.map fun (instant, status) => (instant, .exit status)
  (c.stdout.agenda .stdout ++ c.stderr.agenda .stderr ++ exit).mergeSort fun a b => a.1 ≤ b.1

namespace Watch

variable (w : Watch)

/-- The instant until which the runner rests or waits. -/
def wake : Option Nat :=
  match w.phase with
  | .rest wake => some wake
  | .receive _ _ due => due
  | _ => none

/-- What the runner does now, if it can. -/
def move? : Option Event :=
  if w.act.isSome then some .act
  else if (w.step .giveUp).isSome then some .giveUp
  else none

/-- The next instant at which there is something to do. -/
def nextInstant (agenda : Agenda) : Option Nat :=
  match agenda.head?, w.wake with
  | some (instant, _), some wake => some (min instant wake)
  | some (instant, _), none => some instant
  | none, wake => wake

/-- The next event, and what is to come after it. -/
def next (agenda : Agenda) : Option (Event × Agenda) :=
  match agenda with
  | (instant, e) :: later =>
    if instant ≤ w.clock then some (e, later) else move agenda
  | [] => move []
where
  /-- A move of the runner, or else the clock goes on. -/
  move (agenda : Agenda) : Option (Event × Agenda) :=
    match w.move? with
    | some e => some (e, agenda)
    | none => (w.nextInstant agenda).map fun instant => (.pass (instant - w.clock), agenda)

/-- Lets a watch go on until it is finished, for so many events at most; an event that cannot happen
is passed over. None stands for a wait without end. -/
def play : Nat → Watch → Agenda → Option Watch
  | 0, _, _ => none
  | events + 1, w, agenda =>
    match w.phase with
    | .finished _ => some w
    | _ =>
      match w.next agenda with
      | none => none
      | some (e, later) => play events ((w.step e).getD w) later

/-- As many events as there can be: what is on the agenda and what the runner does, three things
for each look and six more, with some time before each of them. -/
def enough (limit : Option Duration) (agenda : Agenda) : Nat :=
  let looks := (limit.map fun l => l.nanoseconds / pollInterval + 1).getD 0
  2 * (agenda.length + (3 * looks + 6)) + 2

end Watch

/-- Waits for a child launched at `start`, under the name `program`. The result comes with the
instant at which it is there; none stands for a wait without end. -/
def Child.await (c : Child) (program : String) (start : Nat) (limit : Option Duration) :
    Option (Except LaunchError Capture × Nat) := do
  let w ← Watch.play (Watch.enough limit c.agenda) (.launch program start limit) c.agenda
  match w.phase with
  | .finished result => some (result, w.clock)
  | _ => none

end Crosscheck
