import Crosscheck.Child
import Crosscheck.Files.Changes

/-!
# The system under running programs

The programs of a run are scripts on a machine that is held in memory. Its state is the files, the
clock, the open files that descriptors refer to, the pipes, and the background processes. Programs
run one after the other, each on the clock; what is written to a pipe is kept with its instant, so
that a reader knows when it could have read it.

A horizon bounds the clock: what a program would do later it does not do.
-/

namespace Crosscheck

/-- What an open file stands for. -/
inductive Channel where
  | file (l : Location)
  | directory (l : Location)
  | device (d : Device)
  | pipe (number : Nat)
  deriving DecidableEq, Repr

structure OpenFile where
  channel : Channel
  offset : Nat
  readable : Bool
  writable : Bool
  /-- Whether every write goes to the end of the file. -/
  appends : Bool
  deriving DecidableEq, Repr

/-- One write to a pipe. -/
structure PipeWrite where
  instant : Nat
  writer : Nat
  data : Bytes
  deriving DecidableEq, Repr

structure Pipe where
  /-- The latest write comes first. -/
  writes : List PipeWrite
  /-- How many bytes have been written. -/
  size : Nat
  /-- How many bytes have been read. -/
  taken : Nat
  /-- Whether a reader outside the machine takes in at once what is written. -/
  drained : Bool
  /-- When the last writer was done. -/
  closed : Nat
  deriving DecidableEq, Repr

/-- A process that ran in the background. -/
structure Background where
  pid : Nat
  parent : Nat
  /-- When it ended, unless it went on past the horizon. -/
  ended : Option Nat
  status : ExitStatus
  /-- The pipes that it held to its end. -/
  holds : List Nat
  deriving DecidableEq, Repr

/-- A signal sent to a process that is waiting for another one. -/
structure Signal where
  target : Nat
  number : Nat
  deriving DecidableEq, Repr

structure System where
  files : FileTree
  clock : Nat
  horizon : Option Nat
  openFiles : List (Nat × OpenFile)
  pipes : List (Nat × Pipe)
  backgrounds : List Background
  /-- The signals that have not been taken yet. -/
  signals : List Signal
  /-- The next number for an open file, a pipe or a process. -/
  fresh : Nat

namespace System

variable (s : System)

/-- Whether the horizon has been reached. -/
def isOver : Bool :=
  match s.horizon with
  | some h => h ≤ s.clock
  | none => false

/-- Lets time pass, up to the horizon. -/
def sleep (nanoseconds : Nat) : System :=
  { s with clock := match s.horizon with
    | some h => min h (s.clock + nanoseconds)
    | none => s.clock + nanoseconds }

/-- Lets time pass until an instant. -/
def waitUntil (instant : Nat) : System := s.sleep (instant - s.clock)

def takeFresh : Nat × System := (s.fresh, { s with fresh := s.fresh + 1 })

def openFile? (number : Nat) : Option OpenFile := s.openFiles.lookup number

/-- Replaces the value under a number, or adds one. -/
def assign {β : Type} (number : Nat) (b : β) : List (Nat × β) → List (Nat × β)
  | [] => [(number, b)]
  | (k, x) :: rest => if k = number then (k, b) :: rest else (k, x) :: assign number b rest

def setOpenFile (number : Nat) (f : OpenFile) : System :=
  { s with openFiles := assign number f s.openFiles }

/-- Opens something; the result is the number of the open file. -/
def openChannel (f : OpenFile) : Nat × System :=
  (s.fresh, { s with fresh := s.fresh + 1, openFiles := (s.fresh, f) :: s.openFiles })

def makePipe (drained : Bool) : Nat × System :=
  (s.fresh, { s with
    fresh := s.fresh + 1
    pipes := (s.fresh, ⟨[], 0, 0, drained, 0⟩) :: s.pipes })

def pipe (number : Nat) : Pipe := (s.pipes.lookup number).getD ⟨[], 0, 0, false, 0⟩

def setPipe (number : Nat) (p : Pipe) : System := { s with pipes := assign number p s.pipes }

/-- All that was written to a pipe, in order. -/
def pipeData (number : Nat) : Bytes := (s.pipe number).writes.reverse.flatMap (·.data)

/-- Data with `new` written over it from an offset on, after zero bytes if it is too short. -/
def overwrite (old : Bytes) (offset : Nat) (new : Bytes) : Bytes :=
  old.take offset ++ List.replicate (offset - old.length) 0 ++ new ++ old.drop (offset + new.length)

/-- How much may lie unread in a pipe that has no end in sight. -/
def pipeLimit : Nat := Nat.pow 2 20

/-- Why a write fails. -/
inductive WriteFailure where
  /-- The descriptor is not open for writing. -/
  | closed
  /-- Nobody reads the pipe any more. -/
  | broken
  deriving DecidableEq, Repr

/-- Writes to an open file. -/
def write (writer number : Nat) (data : Bytes) : Except WriteFailure System :=
  match s.openFile? number with
  | none => .error .closed
  | some f =>
    if !f.writable then .error .closed
    else match f.channel with
      | .directory _ => .error .closed
      | .device _ => .ok s
      | .pipe n =>
        let p := s.pipe n
        if data.isEmpty then .ok s
        else if !p.drained && p.taken + pipeLimit < p.size then .error .broken
        else .ok (s.setPipe n { p with
          writes := ⟨s.clock, writer, data⟩ :: p.writes
          size := p.size + data.length })
      | .file l =>
        match s.files.get? l with
        | some (.file old mode) =>
          let offset := if f.appends then old.length else f.offset
          let s := { s with files := s.files.insert l (.file (overwrite old offset data) mode) }
          .ok (s.setOpenFile number { f with offset := offset + data.length })
        | _ => .ok s

/-- What reading gives at once: the bytes that are there, or no end of zero bytes. -/
inductive Reading where
  | bytes (data : Bytes)
  | zeros
  | failed (cause : OsError)
  deriving DecidableEq, Repr

/-- All that is left to read from an open file, which is not yet taken out of it. -/
def readable (number : Nat) : Reading :=
  match s.openFile? number with
  | none => .failed (.code 9)
  | some f =>
    if !f.readable then .failed (.code 9)
    else match f.channel with
      | .directory _ => .failed .isDirectory
      | .device .null => .bytes []
      | .device .zero => .zeros
      | .pipe n => .bytes ((s.pipeData n).drop (s.pipe n).taken)
      | .file l =>
        match s.files.get? l with
        | some (.file data _) => .bytes (data.drop f.offset)
        | _ => .bytes []

/-- The instant at which the first `count` bytes of a pipe are there. -/
def writtenBy (writes : List PipeWrite) (count : Nat) : Nat :=
  (writes.reverse.foldl (fun (seen, instant) (w : PipeWrite) =>
    if count ≤ seen then (seen, instant) else (seen + w.data.length, max instant w.instant))
    (0, 0)).2

/-- Takes bytes out of an open file; `toEnd` if the reader sees the end as well. -/
def skip (number count : Nat) (toEnd : Bool) : System :=
  match s.openFile? number with
  | none => s
  | some f =>
    match f.channel with
    | .pipe n =>
      let p := s.pipe n
      let s := s.setPipe n { p with taken := p.taken + count }
      s.waitUntil (if toEnd then p.closed else writtenBy p.writes (p.taken + count))
    | _ => s.setOpenFile number { f with offset := f.offset + count }

/-- Lets a signal end a background process now, unless it has ended before. What it would have
written later is not written. -/
def killBackground (pid signal : Nat) : System :=
  match s.backgrounds.find? fun b => b.pid = pid with
  | none => s
  | some b =>
    let isDone : Bool := match b.ended with
      | some instant => instant ≤ s.clock
      | none => false
    if isDone then s
    else
      let late (w : PipeWrite) : Bool := w.writer = pid && s.clock < w.instant
      { s with
        backgrounds := s.backgrounds.map fun c =>
          if c.pid = pid then { c with ended := some s.clock, status := .killed signal } else c
        pipes := s.pipes.map fun (number, p) =>
          let writes := p.writes.filter fun w => !late w
          (number, { p with writes, size := writes.foldl (fun n w => n + w.data.length) 0 }) }

end System

end Crosscheck
