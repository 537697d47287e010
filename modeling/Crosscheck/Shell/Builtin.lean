import Crosscheck.Machine.Image
import Crosscheck.Shell.Field
import Crosscheck.Shell.State
import Crosscheck.Utility.Condition
import Crosscheck.Utility.Formats

/-!
# Built-in commands

The commands that a shell carries out itself and that run no others. A command ends with a status,
or fails with a message; the failure of a special one ends the shell.
-/

namespace Crosscheck.Shell

abbrev Builtin := List Octets → ExceptT String Run Nat

namespace Builtin

def ok : ExceptT String Run Nat := return 0

/-- The number that an operand is. -/
def number (operand : Octets) : ExceptT String Run Nat :=
  match Utility.natural? operand with
  | some n => return n
  | none => throw ("Illegal number: " ++ String.ofList operand)

def illegalOption (c : Char) : String := "Illegal option -" ++ String.ofList [c]

/-- Splits one-letter options from the operands; another option is refused. -/
def takeOptions (letters : List Char) : List Octets → List Char →
    ExceptT String Run (List Char × List Octets)
  | ['-', '-'] :: rest, seen => return (seen, rest)
  | ('-' :: c :: cs) :: rest, seen =>
    match (c :: cs).find? (· ∉ letters) with
    | some bad => throw (illegalOption bad)
    | none => takeOptions letters rest (seen ++ c :: cs)
  | args, seen => return (seen, args)

/-! ### Writing and deciding -/

def echo : Builtin := fun args => do
  put 1 (Utility.echoText args)
  ok

def printf : Builtin := fun args => do
  let (text, complaints, failure) := Utility.printText args
  put 1 text
  complaints.forM fun m => complain m
  match failure with
  | some failure => throw failure.message
  | none => return Utility.codeOf complaints.isEmpty

def test (bracket : Bool) : Builtin := fun args => do
  match Utility.condition bracket args (← getProcess) with
  | .ok holds => return Utility.codeOf holds
  | .error failure => throw failure.message

/-! ### Leaving -/

def exit : Builtin := fun args => do
  let status ← match args with
    | a :: _ => number a
    | [] => pure (← get).status
  setFlow .exits
  return status

def leave : Builtin := fun args => do
  let status ← match args with
    | a :: _ => number a
    | [] => pure (← get).status
  setFlow .returns
  return status

/-- Leaves or goes on with loops, at most as many as there are. -/
def leaveLoops (flow : Nat → Flow) : Builtin := fun args => do
  let n ← match args with
    | a :: _ => number a
    | [] => pure 1
  if n = 0 then throw ("Illegal number: " ++ String.ofList (args.headD []))
  let loops := (← get).loops
  if loops ≠ 0 then setFlow (flow (min n loops))
  ok

/-! ### Parameters and variables -/

def shift : Builtin := fun args => do
  let n ← match args with
    | a :: _ => number a
    | [] => pure 1
  let s ← get
  if s.arguments.length < n then throw "can't shift that many"
  set { s with arguments := s.arguments.drop n }
  ok

/-- The options of the shell by name. -/
def optionNames : List (String × Char) := [
  ("errexit", 'e'), ("noglob", 'f'), ("ignoreeof", 'I'), ("interactive", 'i'), ("monitor", 'm'),
  ("noexec", 'n'), ("stdin", 's'), ("xtrace", 'x'), ("verbose", 'v'), ("vi", 'V'), ("emacs", 'E'),
  ("noclobber", 'C'), ("allexport", 'a'), ("notify", 'b'), ("nounset", 'u'), ("nolog", 'l'),
  ("debug", 'd')]

def setOption (on : Bool) (c : Char) : Run Unit :=
  modify fun s => { s with options := if on then c :: s.options.erase c else s.options.erase c }

def setOptions (on : Bool) (letters : List Char) : ExceptT String Run Unit :=
  letters.forM fun c =>
    if (optionNames.any fun o => o.2 == c) then setOption on c else throw (illegalOption c)

/-- Takes the options that begin some arguments. The result is what is left, and whether that is to
be taken as the arguments of the shell even if it is empty. -/
def takeSettings : Nat → List Octets → ExceptT String Run (List Octets × Bool)
  | 0, args => return (args, false)
  | _, ['-', '-'] :: rest => return (rest, true)
  | _, ['-'] :: rest => return (rest, false)
  | fuel + 1, ['-', 'o'] :: name :: rest => named fuel true name rest
  | fuel + 1, ['+', 'o'] :: name :: rest => named fuel false name rest
  | fuel + 1, ('-' :: c :: cs) :: rest => do
    setOptions true (c :: cs)
    takeSettings fuel rest
  | fuel + 1, ('+' :: c :: cs) :: rest => do
    setOptions false (c :: cs)
    takeSettings fuel rest
  | _, args => return (args, false)
where
  named (fuel : Nat) (on : Bool) (name : Octets) (rest : List Octets) :
      ExceptT String Run (List Octets × Bool) := do
    match optionNames.lookup (String.ofList name) with
    | some c =>
      setOption on c
      takeSettings fuel rest
    | none => throw ("Illegal option -o " ++ String.ofList name)

def setBuiltin : Builtin := fun args => do
  let (rest, all) ← takeSettings (args.length + 1) args
  if all || !rest.isEmpty then modify fun s => { s with arguments := rest }
  ok

def isName (n : Octets) : Bool :=
  match n with
  | c :: _ => isNameStart c && n.all isNameChar
  | [] => false

/-- The name and the value of an operand that may assign. -/
def assignmentOf (operand : Octets) : Octets × Option Octets :=
  let name := operand.takeWhile (· ≠ '=')
  match operand.drop name.length with
  | _ :: value => (name, some value)
  | [] => (name, none)

def isReadOnly (name : Octets) : String := String.ofList name ++ ": is read only"

def badName (name : Octets) : String := String.ofList name ++ ": bad variable name"

/-- Gives a variable a value. -/
def assign (name value : Octets) : ExceptT String Run Unit := do
  match (← get).assign name value with
  | some s => set s
  | none => throw (isReadOnly name)

/-- A text in single quotes. -/
def inQuotes (text : Octets) : Octets :=
  '\'' :: text.flatMap (fun c => if c = '\'' then ['\'', '"', '\'', '"', '\''] else [c]) ++ ['\'']

/-- Marks variables, which may get a value first; without operands the marked ones are listed. -/
def mark (verb : String) (isMarked : Variable → Bool) (change : Variable → Variable) : Builtin :=
  fun args => do
    let (flags, operands) ← takeOptions ['p'] args []
    if operands.isEmpty || 'p' ∈ flags then
      let s ← get
      let marked := (s.bindings.filter fun v => isMarked v.2).mergeSort fun a b => !(b.1 < a.1)
      marked.forM fun (name, v) =>
        put 1 (verb.toList ++ ' ' :: name ++
          (match v.value with
            | some value => '=' :: inQuotes value
            | none => []) ++ ['\n'])
    else operands.forM fun operand => do
      let (name, value) := assignmentOf operand
      if !isName name then throw (badName name)
      match value with
      | some value => assign name value
      | none => pure ()
      modify fun s => s.setVariable name (change ((s.variableOf? name).getD ⟨none, false, false⟩))
    ok

def unset : Builtin := fun args => do
  let (flags, operands) ← takeOptions ['f', 'v'] args []
  operands.forM fun name => do
    let s ← get
    if 'f' ∈ flags then set { s with functions := s.functions.filter (·.1 ≠ name) }
    else
      if !isName name then throw (badName name)
      match s.variableOf? name with
      | some v =>
        if v.readonly then throw (isReadOnly name)
        set (s.removeVariable name)
      | none => pure ()
  ok

/-- Makes variables local to the function being run. -/
def localBuiltin : Builtin := fun args => do
  match (← get).hidden with
  | [] => throw "not in a function"
  | frame :: frames =>
    let rec hide : List Octets → List (Octets × Option Variable) → ExceptT String Run Nat
      | [], _ => ok
      | operand :: rest, frame => do
        let (name, value) := assignmentOf operand
        if !isName name then throw (badName name)
        let s ← get
        let frame := if (frame.lookup name).isSome then frame else (name, s.variableOf? name) :: frame
        set { s with hidden := frame :: frames }
        match value with
        | some value => assign name value
        | none => pure ()
        hide rest frame
    hide args frame

/-! ### Reading -/

/-- A line as characters, each with whether a backslash was in front of it, and the count of bytes
that belong to it; the flag says whether it has an end. -/
def readLine (raw : Bool) : Nat → Octets → Field → Nat → Field × Nat × Bool
  | 0, _, seen, n => (seen.reverse, n, false)
  | _, [], seen, n => (seen.reverse, n, false)
  | _ + 1, '\n' :: _, seen, n => (seen.reverse, n + 1, true)
  | fuel + 1, '\\' :: c :: rest, seen, n =>
    if raw then readLine raw fuel (c :: rest) (('\\', false) :: seen) (n + 1)
    else if c = '\n' then readLine raw fuel rest seen (n + 2)
    else readLine raw fuel rest ((c, true) :: seen) (n + 2)
  | fuel + 1, c :: rest, seen, n =>
    readLine raw fuel rest (if c = '\x00' then seen else (c, false) :: seen) (n + 1)

/-- The values of variables that share a line; the last one gets all that is left. -/
def shares (separators : Octets) : List Octets → Field → List (Octets × Octets)
  | [], _ => []
  | [name], f =>
    let whole := trimEnd f
    let isOnly := (whole.filter isSeparator).length == 1 && whole.getLast?.any isSeparator
    [(name, Field.text (if isOnly then trimEnd whole.dropLast else whole))]
  | name :: more, f =>
    let share := f.takeWhile fun c => !isSeparator c
    let rest := dropBlanks (f.drop share.length)
    let rest := match rest with
      | c :: after => if isSeparator c && !Field.isBlank c.1 then dropBlanks after else rest
      | [] => rest
    (name, Field.text share) :: shares separators more rest
where
  isSeparator (c : Char × Bool) : Bool := !c.2 && c.1 ∈ separators
  dropBlanks (f : Field) : Field := f.dropWhile fun c => !c.2 && c.1 ∈ separators && Field.isBlank c.1
  trimEnd (f : Field) : Field := (dropBlanks f.reverse).reverse

def read : Builtin := fun args => do
  let (flags, names) ← takeOptions ['r'] args []
  if names.isEmpty then throw "arg count"
  match (← getProcess).readable 0 with
  | .failed _ => return 1
  | .zeros =>
    modifyProcess Utility.hang
    return 1
  | .bytes data =>
    let text := Text.octets data
    let (line, count, hasEnd) := readLine ('r' ∈ flags) (text.length + 1) text [] 0
    modifyProcess fun p => p.skip 0 count (!hasEnd)
    let separators := ((← get).value? "IFS".toList).getD [' ', '\t', '\n']
    let line := line.dropWhile fun c => !c.2 && c.1 ∈ separators && Field.isBlank c.1
    (shares separators names line).forM fun (name, value) => do
      if !isName name then throw (badName name)
      assign name value
    return Utility.codeOf hasEnd

/-! ### Directories -/

/-- A path without dots in it, by its text. -/
def simplify (path : Octets) : Octets :=
  let names := (pieces '/' path).foldl (fun (names : List Octets) n =>
    if n.isEmpty || n = ['.'] then names
    else if n = ['.', '.'] then names.drop 1
    else n :: names) []
  if names.isEmpty then ['/'] else names.reverse.flatMap ('/' :: ·)

def cd : Builtin := fun args => do
  let args := args.filter fun a => a ≠ ['-', 'P'] && a ≠ ['-', 'L'] && a ≠ ['-', '-']
  let s ← get
  let old := (s.value? "PWD".toList).getD ['/']
  let (target, shows) := match args with
    | ['-'] :: _ => ((s.value? "OLDPWD".toList).getD old, true)
    | a :: _ => (a, false)
    | [] => ((s.value? "HOME".toList).getD [], false)
  let full := if target.head? = some '/' then target else old ++ '/' :: target
  match s.process.files.entry s.process.here true ⟨Text.ofOctets (simplify full)⟩ with
  | .ok (l, .directory) =>
    let new := simplify full
    set { s with process := { s.process with here := l } }
    assign "OLDPWD".toList old
    assign "PWD".toList new
    if shows then put 1 (new ++ ['\n'])
    ok
  | _ => throw ("can't cd to " ++ String.ofList target)

def pwd : Builtin := fun args => do
  let s ← get
  let here :=
    if args.head? = some ['-', 'P'] then Text.octets (Location.path s.process.here).bytes
    else (s.value? "PWD".toList).getD []
  put 1 (here ++ ['\n'])
  ok

/-! ### Signals -/

/-- The number of a signal by its name or digits. -/
def signal? (text : Octets) : Option Nat :=
  match Utility.natural? text with
  | some n => if n < 65 then some n else none
  | none =>
    let name := (String.ofList text).toUpper
    if name = "EXIT" then some 0 else (signalNames.find? fun s => s.2 == name).map (·.1)

def trap : Builtin := fun args => do
  let args := if args.head? = some ['-', '-'] then args.drop 1 else args
  let put1 (signals : List Octets) (change : Nat → State → State) : ExceptT String Run Nat := do
    let rec go : List Octets → ExceptT String Run Nat
      | [] => ok
      | name :: rest => do
        match signal? name with
        | some n =>
          modify (change n)
          go rest
        | none =>
          putMessage ("trap: ".toList ++ name ++ ": bad trap".toList)
          return 1
    go signals
  let reset (n : Nat) (s : State) : State := { s with traps := s.traps.filter (·.1 ≠ n) }
  match args with
  | [] =>
    let s ← get
    s.traps.forM fun (n, action) =>
      let name := if n = 0 then "EXIT" else (signalNames.lookup n).getD (toString n)
      put 1 ("trap -- ".toList ++ inQuotes action ++ ' ' :: name.toList ++ ['\n'])
    ok
  | action :: signals =>
    if signals.isEmpty then put1 args reset
    else if action = ['-'] then put1 signals reset
    else put1 signals fun n s => { s with traps := (reset n s).traps ++ [(n, action)] }

def killUsage : String :=
  "Usage: kill [-s sigspec | -signum | -sigspec] [pid | job]... or\nkill -l [exitstatus]"

/-- Sends a signal to a process; whether there is such a process. -/
def send (signal pid : Nat) : Run Bool := do
  let s ← get
  let system := s.process.system
  if pid = s.process.pid || pid = 0 then
    if signal ≠ 0 then receive signal
    return true
  else if pid = s.mainPid then
    if signal ≠ 0 then
      set (s.after { system with signals := system.signals ++ [⟨pid, signal⟩] })
    return true
  else match system.backgrounds.find? fun b => b.pid = pid with
    | some _ =>
      if signal ≠ 0 then set (s.after (system.killBackground pid signal))
      return true
    | none => return false

def kill : Builtin := fun args => do
  let (signal, targets) ← match args with
    | [] => throw killUsage
    | ['-', 'l'] :: codes =>
      match codes with
      | [] => put 1 (('0' :: '\n' :: signalNames.flatMap fun s => s.2.toList ++ ['\n']))
      | code :: _ =>
        let n ← number code
        put 1 (((signalNames.lookup (if 128 < n then n - 128 else n)).getD "").toList ++ ['\n'])
      return 0
    | ['-', 's'] :: name :: rest =>
      match signal? name with
      | some n => pure (n, rest)
      | none => throw ("invalid signal number or name: " ++ String.ofList name)
    | ['-', '-'] :: rest => pure (15, rest)
    | ('-' :: name) :: rest =>
      match signal? name with
      | some n => pure (n, rest)
      | none => throw (illegalOption (name.headD ' '))
    | _ => pure (15, args)
  let targets := if targets.head? = some ['-', '-'] then targets.drop 1 else targets
  if targets.isEmpty then throw killUsage
  let rec go : List Octets → Nat → ExceptT String Run Nat
    | [], status => return status
    | t :: rest, status => do
      let pid ← number (if t.head? = some '-' then t.drop 1 else t)
      if ← send signal pid then go rest status
      else
        complain "No such process\n"
        go rest 1
  go targets 0

/-- Waits for the end of background processes. -/
def wait : Builtin := fun args => do
  let waitFor (b : Background) : Run Unit :=
    modifyProcess fun p => { p with system := match b.ended, p.system.horizon with
      | some instant, _ => p.system.waitUntil instant
      | none, some h => p.system.waitUntil h
      | none, none => p.system }
  match args with
  | [] =>
    let s ← get
    (s.process.system.backgrounds.filter fun b => b.parent = s.process.pid).forM fun b => waitFor b
    ok
  | _ =>
    let rec go : List Octets → Nat → ExceptT String Run Nat
      | [], status => return status
      | t :: rest, _ => do
        let pid ← number t
        let s ← get
        match s.process.system.backgrounds.find? fun b => b.pid = pid && b.parent = s.process.pid with
        | some b =>
          waitFor b
          reportDeath b.status
          go rest (statusOf b.status)
        | none => go rest 127
    go args 0

/-! ### The rest -/

def umask : Builtin := fun args => do
  if args.isEmpty then put 1 "0022\n".toList
  ok

/-- The commands that run no others, by name. -/
def table : List (String × Builtin) := [
  (":", fun _ => ok),
  ("true", fun _ => ok),
  ("false", fun _ => return 1),
  ("echo", echo),
  ("printf", printf),
  ("test", test false),
  ("[", test true),
  ("exit", exit),
  ("return", leave),
  ("break", leaveLoops .breaks),
  ("continue", leaveLoops .continues),
  ("shift", shift),
  ("set", setBuiltin),
  ("export", mark "export" Variable.exported fun v => { v with exported := true }),
  ("readonly", mark "readonly" Variable.readonly fun v => { v with readonly := true }),
  ("unset", unset),
  ("local", localBuiltin),
  ("read", read),
  ("cd", cd),
  ("chdir", cd),
  ("pwd", pwd),
  ("trap", trap),
  ("kill", kill),
  ("wait", wait),
  ("umask", umask),
  ("times", fun _ => ok)]

def find? (name : Octets) : Option Builtin := table.lookup (String.ofList name)

/-- The commands whose failure ends the shell and whose assignments stay. -/
def isSpecial (name : Octets) : Bool :=
  String.ofList name ∈ ["break", ":", "continue", ".", "eval", "exec", "exit", "export", "readonly",
    "return", "set", "shift", "times", "trap", "unset", "local"]

/-- The commands whose operands may be assignments. -/
def assigns (name : Octets) : Bool := String.ofList name ∈ ["export", "readonly", "local"]

/-- The built-in commands that run others. -/
def runners : List String := ["eval", ".", "exec", "command", "type"]

def isBuiltin (name : Octets) : Bool :=
  (find? name).isSome || String.ofList name ∈ runners

end Builtin

end Crosscheck.Shell
