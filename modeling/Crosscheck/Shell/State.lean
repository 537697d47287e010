import Crosscheck.Machine.Process
import Crosscheck.Shell.Tree

/-!
# The state of a shell

What a shell knows while it runs a script: its process, its parameters, variables and functions,
the status of the last command, its traps, and where the run goes next. Commands after one that
leaves a loop, a function or the shell are passed over until what is left has been left.
-/

namespace Crosscheck.Shell

/-- Where the run of a script goes next. -/
inductive Flow where
  | next
  /-- Leaves loops, the innermost first. -/
  | breaks (loops : Nat)
  /-- Leaves all of the loops but the last, which goes on. -/
  | continues (loops : Nat)
  | returns
  | exits
  | killed (signal : Nat)
  deriving DecidableEq, Repr

structure Variable where
  value : Option Octets
  exported : Bool
  readonly : Bool
  deriving DecidableEq, Repr

structure State where
  process : Process
  /-- How the shell was called. -/
  name : Octets
  /-- The process that the script began in. -/
  mainPid : Nat
  arguments : List Octets
  bindings : List (Octets × Variable)
  functions : List (Octets × Tree)
  status : Nat
  /-- The status of the last command put in place of its text, in the current command. -/
  substituted : Nat
  lastBackground : Option Nat
  /-- The commands to run on signals; number zero is the end of the shell. -/
  traps : List (Nat × Octets)
  /-- Signals whose commands are still to be run. -/
  pending : List Nat
  options : List Char
  line : Nat
  /-- The built-in command that is being run. -/
  within : Option Octets
  flow : Flow
  /-- How many loops are being run. -/
  loops : Nat
  /-- For each function being run, the variables that it hides. -/
  hidden : List (List (Octets × Option Variable))

/-- What a shell does. -/
abbrev Run := StateM State

namespace State

variable (s : State)

/-- Whether the next command is not run. -/
def isLeaving : Bool := s.flow != .next || s.process.system.isOver

def variableOf? (name : Octets) : Option Variable := s.bindings.lookup name

def value? (name : Octets) : Option Octets := (s.variableOf? name).bind Variable.value

def setVariable (name : Octets) (v : Variable) : State :=
  let rec go : List (Octets × Variable) → List (Octets × Variable)
    | [] => [(name, v)]
    | (n, old) :: rest => if n = name then (n, v) :: rest else (n, old) :: go rest
  { s with bindings := go s.bindings }

def removeVariable (name : Octets) : State :=
  { s with bindings := s.bindings.filter (·.1 ≠ name) }

def hasOption (c : Char) : Bool := c ∈ s.options

/-- Gives a variable a value. A new variable is exported if option `a` is set. -/
def assign (name value : Octets) : Option State :=
  match s.variableOf? name with
  | some v => if v.readonly then none else some (s.setVariable name { v with value := some value })
  | none => some (s.setVariable name ⟨some value, s.hasOption 'a', false⟩)

/-- The environment of programs that are launched. -/
def environment : List (Bytes × Bytes) :=
  s.bindings.filterMap fun (name, v) =>
    match v.exported, v.value with
    | true, some value => some (Text.ofOctets name, Text.ofOctets value)
    | _, _ => none

/-- The search path of a shell that got none. -/
def initialSearchPath : Octets :=
  "/usr/local/sbin:/usr/local/bin:/usr/sbin:/usr/bin:/sbin:/bin".toList

def searchPath : Octets := (s.value? "PATH".toList).getD []

/-- A shell at its start. -/
def start (process : Process) (name : Octets) (arguments : List Octets) (options : List Char) :
    State :=
  let isName (n : Octets) : Bool :=
    match n with
    | c :: _ => (c.isAlpha || c == '_') && n.all fun c => c.isAlphanum || c == '_'
    | [] => false
  let inherited := process.environment.filterMap fun (n, v) =>
    let n := Text.octets n
    if isName n && n ≠ "IFS".toList then some (n, (⟨some (Text.octets v), true, false⟩ : Variable))
    else none
  let own (n : String) (v : Octets) (all : List (Octets × Variable)) : List (Octets × Variable) :=
    if (all.lookup n.toList).isSome then all else all ++ [(n.toList, ⟨some v, false, false⟩)]
  let bindings := own "PATH" initialSearchPath (own "IFS" [' ', '\t', '\n']
    (own "OPTIND" ['1'] (own "PS4" ['+', ' '] inherited)))
  let here := Text.octets (Location.path process.here).bytes
  let bindings := (bindings.filter (·.1 ≠ "PWD".toList)) ++
    [("PWD".toList, ⟨some here, (bindings.lookup "PWD".toList).isSome, false⟩)]
  { process, name, mainPid := process.pid, arguments, bindings, functions := [], status := 0,
    substituted := 0, lastBackground := none, traps := [], pending := [], options, line := 1,
    within := none, flow := .next, loops := 0, hidden := [] }

/-- A copy of a shell that runs on its own. It has no traps but the signals that are ignored. -/
def fork : State :=
  let (pid, system) := s.process.system.takeFresh
  { s with
    process := { s.process with system := system, pid := pid }
    traps := s.traps.filter (·.2.isEmpty)
    pending := []
    loops := 0 }

/-- The shell after another one of the same system has run. -/
def after (system : System) : State := { s with process := { s.process with system := system } }

end State

/-! ### Simple actions -/

def setFlow (flow : Flow) : Run Unit := modify fun s => { s with flow := flow }

def setStatus (status : Nat) : Run Unit := modify fun s => { s with status := status }

def getProcess : Run Process := return (← get).process

def setProcess (p : Process) : Run Unit := modify fun s => { s with process := p }

def modifyProcess (f : Process → Process) : Run Unit :=
  modify fun s => { s with process := f s.process }

/-- Writes to a descriptor. -/
def put (fd : Nat) (text : Octets) : Run Unit :=
  modifyProcess fun p => p.write fd (Text.ofOctets text)

/-- Writes a message to the error stream. A failure to write it has no consequence. -/
def putMessage (message : Octets) : Run Unit := do
  put 2 (message ++ ['\n'])
  modifyProcess fun p => { p with trouble := none }

/-- Writes a message with the name of the shell, a line and the built-in command in front. -/
def complainAt (line : Nat) (message : String) : Run Unit := do
  let s ← get
  let within := match s.within with
    | some name => name ++ [':', ' ']
    | none => []
  putMessage (s.name ++ [':', ' '] ++ (toString line).toList ++ [':', ' '] ++ within ++ message.toList)

/-- Writes a message at the current line. -/
def complain (message : String) : Run Unit := do complainAt (← get).line message

/-- Ends the shell with a message. -/
def abort (message : String) (status : Nat) : Run Unit := do
  complain message
  setStatus status
  setFlow .exits

def isLeaving : Run Bool := return (← get).isLeaving

/-! ### Signals -/

/-- The names of the signals by number. -/
def signalNames : List (Nat × String) := [
  (1, "HUP"), (2, "INT"), (3, "QUIT"), (4, "ILL"), (5, "TRAP"), (6, "ABRT"), (7, "BUS"), (8, "FPE"),
  (9, "KILL"), (10, "USR1"), (11, "SEGV"), (12, "USR2"), (13, "PIPE"), (14, "ALRM"), (15, "TERM"),
  (16, "STKFLT"), (17, "CHLD"), (18, "CONT"), (19, "STOP"), (20, "TSTP"), (21, "TTIN"), (22, "TTOU"),
  (23, "URG"), (24, "XCPU"), (25, "XFSZ"), (26, "VTALRM"), (27, "PROF"), (28, "WINCH"), (29, "IO"),
  (30, "PWR"), (31, "SYS")]

/-- How the death by a signal is described. -/
def deathText : Nat → String
  | 1 => "Hangup"
  | 2 => "Interrupt"
  | 3 => "Quit"
  | 4 => "Illegal instruction"
  | 5 => "Trace/breakpoint trap"
  | 6 => "Aborted"
  | 7 => "Bus error"
  | 8 => "Floating point exception"
  | 9 => "Killed"
  | 10 => "User defined signal 1"
  | 11 => "Segmentation fault"
  | 12 => "User defined signal 2"
  | 13 => "Broken pipe"
  | 14 => "Alarm clock"
  | 15 => "Terminated"
  | 16 => "Stack fault"
  | 24 => "CPU time limit exceeded"
  | 25 => "File size limit exceeded"
  | 26 => "Virtual timer expired"
  | 27 => "Profiling timer expired"
  | 29 => "I/O possible"
  | 30 => "Power failure"
  | 31 => "Bad system call"
  | n => "Unknown signal " ++ toString n

/-- The signals that do nothing unless there is a trap for them. -/
def isHarmless (signal : Nat) : Bool := signal ∈ [0, 17, 18, 23, 28]

/-- The signals that stop a process. -/
def isStopping (signal : Nat) : Bool := signal ∈ [19, 20, 21, 22]

/-- Takes in a signal: it kills the shell, or its trap is to be run. -/
def receive (signal : Nat) : Run Unit := do
  let s ← get
  if signal = 9 then setFlow (.killed 9)
  else match s.traps.lookup signal with
    | some [] => return
    | some _ => set { s with pending := s.pending ++ [signal] }
    | none =>
      if isHarmless signal then return
      else if isStopping signal then
        match s.process.system.horizon with
        | some h => modifyProcess fun p => { p with system := p.system.waitUntil h }
        | none => setFlow (.killed signal)
      else setFlow (.killed signal)

/-- Takes in the signals that others have sent. -/
def receiveAll : Run Unit := do
  let s ← get
  let system := s.process.system
  let mine := system.signals.filter fun m => m.target = s.process.pid
  set (s.after { system with signals := system.signals.filter fun m => m.target ≠ s.process.pid })
  mine.forM fun m => receive m.number

/-- Looks whether a write of a built-in command has failed. Writing to a pipe without a reader kills
the shell. -/
def checkOutput (name : Octets) : Run Unit := do
  match (← getProcess).trouble with
  | none => return
  | some failure =>
    modifyProcess fun p => { p with trouble := none }
    match failure with
    | .broken => receive 13
    | .closed =>
      complain (String.ofList name ++ ": I/O error")
      setStatus 1

/-- The status that stands for the end of a process. -/
def statusOf : ExitStatus → Nat
  | .exited code => code % 256
  | .killed signal => 128 + signal

/-- Writes how a process was killed, if it was and the signal is worth it. -/
def reportDeath (e : ExitStatus) : Run Unit :=
  match e with
  | .killed signal => if signal = 2 || signal = 13 then return else putMessage (deathText signal).toList
  | .exited _ => return

end Crosscheck.Shell
