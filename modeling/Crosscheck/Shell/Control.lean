import Crosscheck.Shell.Builtin

/-!
# Control of processes

How a shell runs something apart from itself, puts descriptors in place, and finds programs. What is
run is a parameter here.

A copy of a shell runs to its end before the shell goes on, on the same clock; what runs in the
background leaves the clock where it was.
-/

namespace Crosscheck.Shell

/-! ### Time -/

/-- What launching a program takes, in nanoseconds. -/
def launchTime : Nat := 1000000

/-- What starting a copy of the shell takes. -/
def forkTime : Nat := 300000

/-- What a simple command takes. -/
def commandTime : Nat := 5000

/-! ### Copies -/

/-- Runs something in a copy of the shell that has been changed. -/
def inFork (change : State → State) (body : Run ExitStatus) : Run (ExitStatus × State) := fun s =>
  let child := change s.fork
  let (e, child) := body { child with process := child.process.sleep forkTime }
  ((e, child), s.after child.process.system)

/-- What the end of another process means for the shell. -/
def join (e : ExitStatus) : Run Unit := do
  receiveAll
  reportDeath e
  setStatus (statusOf e)

/-- The end that a shell comes to by itself. -/
def endOf (s : State) : ExitStatus :=
  match s.flow with
  | .killed signal => .killed signal
  | _ => .exited (s.status % 256)

/-- Leaves the shell as another program that took its place did. -/
def leaveAs (e : ExitStatus) : Run Unit := do
  match e with
  | .exited code =>
    setStatus code
    setFlow .exits
  | .killed signal => setFlow (.killed signal)

/-- Whether the shell is at its end. -/
def isEnding : Run Bool := do
  match (← get).flow with
  | .exits | .killed _ => return true
  | _ => return false

/-- Whether something has to be done at the end of the shell. -/
def hasTraps (s : State) : Bool := !s.traps.isEmpty

/-! ### Pipes -/

/-- A new pipe with its two ends. -/
structure PipeEnds where
  pipe : Nat
  reader : Nat
  writer : Nat

def makePipe : Run PipeEnds := fun s =>
  let (pipe, system) := s.process.system.makePipe false
  let (reader, system) := system.openChannel ⟨.pipe pipe, 0, true, false, false⟩
  let (writer, system) := system.openChannel ⟨.pipe pipe, 0, false, true, false⟩
  (⟨pipe, reader, writer⟩, s.after system)

/-- The instant at which nobody writes to a pipe any more, if the processes in the foreground are
done with it at `instant`. -/
def lastHolder (system : System) (pipe instant : Nat) : Nat :=
  system.backgrounds.foldl (fun latest b =>
    if pipe ∈ b.holds then
      max latest (match b.ended, system.horizon with
        | some ended, _ => ended
        | none, some h => h
        | none, none => latest)
    else latest) instant

/-- Notes that the processes in the foreground are done with writing to a pipe. -/
def closePipe (pipe : Nat) : Run Unit :=
  modifyProcess fun p =>
    let old := p.system.pipe pipe
    let system := p.system.setPipe pipe
      { old with closed := lastHolder p.system pipe p.system.clock }
    { p with system := system }

/-- All that has been written to a pipe, once it is closed. -/
def drain (pipe : Nat) : Run Octets := do
  modifyProcess fun p => { p with system := p.system.waitUntil (p.system.pipe pipe).closed }
  return Text.octets ((← getProcess).system.pipeData pipe)

/-! ### Background -/

/-- Keeps a record of a process that ran in the background from `start` on, and goes back to then. -/
def enterBackground (start : Nat) (e : ExitStatus) (child : State) : Run Unit :=
  modify fun s =>
    let system := s.process.system
    let record : Background := {
      pid := child.process.pid
      parent := s.process.pid
      ended := if system.isOver then none else some system.clock
      status := e
      holds := child.process.holds }
    let t := s.after { system with clock := start, backgrounds := system.backgrounds ++ [record] }
    { t with lastBackground := some record.pid, status := 0 }

/-! ### Loops -/

/-- What is done after a round of a loop: whether there is another one. -/
def goesOn : Run Bool := do
  match (← get).flow with
  | .next => return !(← get).process.system.isOver
  | .breaks n =>
    setFlow (if n ≤ 1 then .next else .breaks (n - 1))
    return false
  | .continues n =>
    if n ≤ 1 then
      setFlow .next
      return true
    else
      setFlow (.continues (n - 1))
      return false
  | _ => return false

/-- Runs something with one loop more around it. -/
def inLoop (body : Run Unit) : Run Unit := do
  modify fun s => { s with loops := s.loops + 1 }
  body
  modify fun s => { s with loops := s.loops - 1 }

/-! ### Functions -/

/-- Puts variables back to what they were. -/
def restoreVariables (saved : List (Octets × Option Variable)) : Run Unit :=
  modify fun s => saved.foldl (fun s (name, v) => match v with
    | some v => s.setVariable name v
    | none => s.removeVariable name) s

/-- Runs the body of a function with its own arguments and variables. -/
def inCall (arguments : List Octets) (body : Run Unit) : Run Unit := do
  let s ← get
  set { s with arguments := arguments, loops := 0, hidden := [] :: s.hidden }
  body
  restoreVariables ((← get).hidden.headD [])
  modify fun t => { t with arguments := s.arguments, loops := s.loops, hidden := s.hidden }
  if (← get).flow = .returns then setFlow .next

/-- Runs something and puts variables back to what they were. -/
def keepingVariables (names : List Octets) (body : Run Unit) : Run Unit := do
  let s ← get
  body
  if !(← isEnding) then restoreVariables (names.map fun name => (name, s.variableOf? name))

/-- Gives a variable a value, unless it may not be changed, which ends the shell. -/
def assign (name value : Octets) : Run Unit := do
  match (← get).assign name value with
  | some s => set s
  | none => abort (Builtin.isReadOnly name) 2

/-- Gives a variable a value in the environment of programs. -/
def assignExported (name value : Octets) : Run Unit := do
  assign name value
  modify fun s => match s.variableOf? name with
    | some v => s.setVariable name { v with exported := true }
    | none => s

/-! ### Descriptors -/

/-- Why a file cannot be opened, in words. -/
def openReason (makes : Bool) (cause : OsError) : String :=
  if cause = .notFound || cause = .notDirectory then
    if makes then "Directory nonexistent" else "No such file"
  else Utility.reason cause

/-- Opens a file for a descriptor. -/
def redirectTo (fd : Nat) (mode : OpenMode) (target : Octets) : ExceptT String Run Unit := do
  let p ← getProcess
  let path : Path := ⟨Text.ofOctets target⟩
  let opened := match mode with
    | .read => p.openToRead path
    | .write => p.openToWrite path false true false
    | .append => p.openToWrite path false false true
    | .readWrite => p.openToWrite path true false false
  match opened with
  | .ok (number, p) => setProcess (p.setDescriptor fd number)
  | .error cause =>
    let makes := mode != .read
    throw ((if makes then "cannot create " else "cannot open ") ++ String.ofList target ++ ": " ++
      openReason makes cause)

/-- Makes a descriptor another name for one that is open, or closes it. -/
def redirectLike (fd : Nat) (target : Octets) : ExceptT String Run Unit := do
  let p ← getProcess
  if target = ['-'] then setProcess (p.close fd)
  else match (Utility.natural? target).bind p.descriptor? with
    | some number => setProcess (p.setDescriptor fd number)
    | none =>
      if (Utility.natural? target).isSome then throw (String.ofList target ++ ": Bad file descriptor")
      else throw "Bad fd number"

/-- Lets a descriptor read from a text. -/
def redirectFrom (fd : Nat) (text : Octets) : Run Unit := do
  let ends ← makePipe
  modifyProcess fun p =>
    let data := Text.ofOctets text
    let system := p.system.setPipe ends.pipe
      ⟨[⟨p.system.clock, p.pid, data⟩], data.length, 0, true, p.system.clock⟩
    { p with system := system }.setDescriptor fd ends.reader

/-- Puts descriptors back, unless the shell is at its end. -/
def restoreDescriptors (descriptors : List (Nat × Nat)) : Run Unit := do
  if !(← isEnding) then modifyProcess fun p => { p with descriptors := descriptors }

/-! ### Programs -/

/-- The status and the text for a program that cannot be launched. -/
def launchFailure (cause : OsError) : Nat × String :=
  if cause = .notFound || cause = .notDirectory then (127, "not found")
  else if cause = .nameTooLong || cause = .tooManyLinks then (127, Utility.reason cause)
  else (126, Utility.reason cause)

/-- Looks for a program in the directories of a search path. -/
def findIn (files : FileTree) (here : Location) (name : Octets) :
    OsError → List Octets → Except OsError Path
  | failure, [] => .error failure
  | failure, dir :: more =>
    let path : Path := ⟨Text.ofOctets (if dir.isEmpty then name else dir ++ '/' :: name)⟩
    match files.entry here true path with
    | .ok (_, .file _ true) => .ok path
    | .ok _ => findIn files here name .denied more
    | .error cause =>
      findIn files here name
        (if cause = .notFound || cause = .notDirectory then failure else cause) more

/-- The program that a command names, or the status and text if there is none. -/
def programOf (s : State) (name : Octets) : Except (Nat × String) Path :=
  if '/' ∈ name then .ok ⟨Text.ofOctets name⟩
  else match findIn s.process.files s.process.here name .notFound (pieces ':' s.searchPath) with
    | .ok path => .ok path
    | .error cause => .error (127, (launchFailure cause).2)

/-- The path of the shell itself. -/
def ownPath : Bytes := Text.utf8 "/bin/sh"

/-- What comes to run for a program. A file of no known format is run as a script. -/
def imageOf (s : State) (path : Path) (arguments : List Octets) : Except (Nat × String) Image :=
  let arguments := arguments.map Text.ofOctets
  let load (path : Path) (arguments : List Bytes) : Except OsError Image :=
    Image.load s.process.files s.process.here Image.maxNesting path arguments
  match load path arguments with
  | .ok image => .ok image
  | .error cause =>
    if cause = .badFormat then
      (load ⟨ownPath⟩ (ownPath :: path.bytes :: arguments.drop 1)).mapError launchFailure
    else .error (launchFailure cause)

/-- The program that a command names, ready to run. -/
def imageFor (s : State) (name : Octets) (arguments : List Octets) : Except (Nat × String) Image := do
  imageOf s (← programOf s name) (name :: arguments)

end Crosscheck.Shell
