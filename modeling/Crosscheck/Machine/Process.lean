import Crosscheck.Machine.System
import Crosscheck.Text.Utf8

/-!
# Processes

A process is a running program: the system it runs on, its number, its current directory, its
descriptors and its environment. Forking copies all but the system, which there is one of.
-/

namespace Crosscheck

structure Process where
  system : System
  pid : Nat
  here : Location
  /-- What each descriptor refers to, by the number of the open file. -/
  descriptors : List (Nat × Nat)
  environment : List (Bytes × Bytes)
  /-- The last write that failed. -/
  trouble : Option System.WriteFailure

namespace Process

variable (p : Process)

def files : FileTree := p.system.files

def withFiles (files : FileTree) : Process := { p with system := { p.system with files := files } }

def environment? (name : Bytes) : Option Bytes := p.environment.lookup name

def descriptor? (fd : Nat) : Option Nat := p.descriptors.lookup fd

def setDescriptor (fd number : Nat) : Process :=
  { p with descriptors := System.assign fd number p.descriptors }

def close (fd : Nat) : Process :=
  { p with descriptors := p.descriptors.filter fun d => d.1 ≠ fd }

/-- The pipes that the process holds. -/
def holds : List Nat :=
  p.descriptors.filterMap fun (_, number) =>
    match (p.system.openFile? number).map OpenFile.channel with
    | some (.pipe n) => some n
    | _ => none

/-- Opens a file or a directory for reading. -/
def openToRead (path : Path) : Except OsError (Nat × Process) :=
  match p.files.entry p.here true path with
  | .error cause => .error cause
  | .ok (l, e) =>
    let channel : Channel := match e with
      | .directory => .directory l
      | .device d => .device d
      | _ => .file l
    let (number, system) := p.system.openChannel ⟨channel, 0, true, false, false⟩
    .ok (number, { p with system := system })

/-- Opens a file for writing, which is made if it is not there. -/
def openToWrite (path : Path) (readable truncate appends : Bool) : Except OsError (Nat × Process) :=
  match p.files.entry p.here true path with
  | .ok (_, .device d) =>
    let (number, system) := p.system.openChannel ⟨.device d, 0, readable, true, appends⟩
    .ok (number, { p with system := system })
  | found => do
    let old := match found with
      | .ok (_, .file data _) => if truncate then [] else data
      | _ => []
    let files ← p.files.write p.here path old false
    let p := p.withFiles files
    match files.entry p.here true path with
    | .ok (l, _) =>
      let (number, system) := p.system.openChannel ⟨.file l, 0, readable, true, appends⟩
      .ok (number, { p with system := system })
    | .error cause => .error cause

/-- Writes to a descriptor. A failure is kept as the trouble of the process. -/
def write (fd : Nat) (data : Bytes) : Process :=
  match p.descriptor? fd with
  | none => { p with trouble := some .closed }
  | some number =>
    match p.system.write p.pid number data with
    | .ok system => { p with system := system }
    | .error failure => { p with trouble := some failure }

def writeText (fd : Nat) (s : String) : Process := p.write fd (Text.utf8 s)

/-- What is left to read from a descriptor. -/
def readable (fd : Nat) : System.Reading :=
  match p.descriptor? fd with
  | none => .failed (.code 9)
  | some number => p.system.readable number

/-- Takes bytes out of a descriptor. -/
def skip (fd count : Nat) (toEnd : Bool) : Process :=
  match p.descriptor? fd with
  | none => p
  | some number => { p with system := p.system.skip number count toEnd }

/-- Lets the process do nothing for a while. -/
def sleep (nanoseconds : Nat) : Process := { p with system := p.system.sleep nanoseconds }

end Process

end Crosscheck
