import Crosscheck.Shell.Control
import Crosscheck.Shell.Arithmetic
import Crosscheck.Shell.Reader
import Crosscheck.Utility.Catalog

/-!
# Running scripts

A script is run command by command: words are expanded, descriptors put in place, and then a
function, a built-in command or a program is run. The first argument of each function bounds how
deep and how long a run can be; the clock, which every command moves on, ends runs that go on for
ever.

Where a command is `tested`, its failure is no reason to leave a shell that leaves on failures. The
`last` command of a shell takes its place instead of running beside it.
-/

namespace Crosscheck.Shell

/-! ### What needs no commands -/

/-- The value of a parameter that is not the list of all arguments. -/
def State.parameter? (s : State) (name : Octets) : Option Octets :=
  match name with
  | ['#'] => some (toString s.arguments.length).toList
  | ['?'] => some (toString s.status).toList
  | ['$'] => some (toString s.mainPid).toList
  | ['!'] => s.lastBackground.map fun pid => (toString pid).toList
  | ['-'] => some s.options
  | ['@'] | ['*'] =>
    if s.arguments.isEmpty then none else some (List.intercalate [' '] s.arguments)
  | _ =>
    match Utility.natural? name with
    | some 0 => some s.name
    | some (n + 1) => s.arguments[n]?
    | none => s.value? name

def State.separators (s : State) : Octets := (s.value? "IFS".toList).getD [' ', '\t', '\n']

/-- A text put in place; a quoted one is kept even if it is empty. -/
def placed (text : Octets) (quoted : Bool) : List Glyph :=
  if quoted && text.isEmpty then [.mark] else Glyph.ofText text quoted (!quoted)

/-- The arguments put in place, each a field of its own. -/
def placedAll (arguments : List Octets) (quoted : Bool) : List Glyph :=
  (arguments.map fun a => placed a quoted).intersperse [.gap] |>.flatten

/-- The value of a parameter put in place. -/
def parameterGlyphs (name : Octets) (quoted : Bool) : Run (List Glyph) := do
  let s ← get
  match name with
  | ['@'] => return placedAll s.arguments quoted
  | ['*'] =>
    if quoted then return placed (List.intercalate (s.separators.take 1) s.arguments) true
    else return placedAll s.arguments false
  | _ =>
    match s.parameter? name with
    | some value => return placed value quoted
    | none =>
      if s.hasOption 'u' then abort (String.ofList name ++ ": parameter not set") 2
      return placed [] quoted

/-- The word of a change as if it came in without quotes. -/
def asPlaced (gs : List Glyph) : List Glyph :=
  gs.map fun
    | .char c false _ => .char c false true
    | g => g

/-- A word with a tilde at its start replaced by the home directory. -/
def withHome (s : State) (w : Word) : Word :=
  match w, s.value? "HOME".toList with
  | .char '~' false :: rest, some home =>
    match rest with
    | [] | .char '/' _ :: _ => home.map (Piece.char · true) ++ rest
    | _ => w
  | _, _ => w

/-- Without zero bytes, and without the line feeds at the end. -/
def trimOutput (text : Octets) : Octets :=
  ((text.filter (· ≠ '\x00')).reverse.dropWhile (· == '\n')).reverse

/-- Shows a command that is about to be run, if the shell is to do so. -/
def trace (values : List (Octets × Octets)) (words : List Octets) : Run Unit := do
  let s ← get
  if s.hasOption 'x' then
    let shown := values.map (fun (name, value) => name ++ '=' :: value) ++ words
    putMessage ((s.value? "PS4".toList).getD [] ++ List.intercalate [' '] shown)

/-- Leaves the shell after a failure, if it leaves on failures. -/
def checkFailure (tested : Bool) : Run Unit := do
  let s ← get
  if !tested && s.status ≠ 0 && s.hasOption 'e' && s.flow = .next then setFlow .exits

/-- Says what a name stands for. -/
def describe (name : Octets) : Run Nat := do
  let s ← get
  if (s.functions.lookup name).isSome then put 1 (name ++ " is a shell function\n".toList)
  else if Builtin.isSpecial name then put 1 (name ++ " is a special shell builtin\n".toList)
  else if Builtin.isBuiltin name then put 1 (name ++ " is a shell builtin\n".toList)
  else match programOf s name with
    | .ok path =>
      put 1 (name ++ " is ".toList ++ Text.octets path.bytes ++ ['\n'])
    | .error _ =>
      put 1 (name ++ ": not found\n".toList)
      return 127
  return 0

/-- Writes what a name stands for in a form that can be run. -/
def identify (name : Octets) : Run Nat := do
  let s ← get
  if (s.functions.lookup name).isSome || Builtin.isBuiltin name then put 1 (name ++ ['\n'])
  else match programOf s name with
    | .ok path =>
      if s.process.files.isFile s.process.here path then put 1 (Text.octets path.bytes ++ ['\n'])
      else return 127
    | .error _ => return 127
  return 0

/-- What `.` reads: a file by its path, or the first one in the search path. -/
def sourced (s : State) (name : Octets) : Option Bytes :=
  let read (text : Octets) : Option Bytes :=
    (s.process.files.read s.process.here ⟨Text.ofOctets text⟩).toOption
  if '/' ∈ name then read name
  else (pieces ':' s.searchPath).findSome? fun dir =>
    read (if dir.isEmpty then name else dir ++ '/' :: name)

/-- How a shell is called: its options, and where its commands come from. -/
inductive Commands where
  | text (cs : Octets)
  | file (path : Octets)
  | input
  deriving DecidableEq, Repr

structure Invocation where
  name : Octets
  arguments : List Octets
  options : List Char
  commands : Commands

/-- Takes the options of a shell from its arguments: the letters, whether the commands are an
argument, and what is left. -/
def takeShellOptions : List Octets → List Char → Bool → List Char × Bool × List Octets
  | ['-', '-'] :: rest, options, isText => (options, isText, rest)
  | ['-'] :: rest, options, isText => (options, isText, rest)
  | ('-' :: letters) :: rest, options, isText =>
    takeShellOptions rest (letters.filter (· ≠ 'c') ++ options) (isText || 'c' ∈ letters)
  | ('+' :: letters) :: rest, options, isText =>
    takeShellOptions rest (options.filter (· ∉ letters)) isText
  | args, options, isText => (options, isText, args)

/-- Reads the arguments of a shell, of which the first is its own name. -/
def Invocation.read (args : List Octets) : Except String Invocation :=
  let own := args.headD []
  let (options, isText, rest) := takeShellOptions (args.drop 1) [] false
  match options.find? fun c => c ≠ 's' && !(Builtin.optionNames.any fun o => o.2 == c) with
  | some c => .error (Builtin.illegalOption c)
  | none =>
    match isText, rest with
    | true, [] => .error "-c requires an argument"
    | true, text :: [] => .ok ⟨own, [], options, .text text⟩
    | true, text :: name :: arguments => .ok ⟨name, arguments, options, .text text⟩
    | false, file :: arguments =>
      if 's' ∈ options then .ok ⟨own, file :: arguments, options, .input⟩
      else .ok ⟨file, arguments, options, .file file⟩
    | false, [] => .ok ⟨own, [], options, .input⟩

/-- The environment with the assignments in front of some arguments, and what is left. -/
def takeAssignments : List Octets → List (Bytes × Bytes) → List (Bytes × Bytes) × List Octets
  | a :: rest, environment =>
    match Builtin.assignmentOf a with
    | (c :: name, some value) =>
      let name := Text.ofOctets (c :: name)
      takeAssignments rest (environment.filter (·.1 ≠ name) ++ [(name, Text.ofOctets value)])
    | _ => (environment, a :: rest)
  | [], environment => (environment, [])

/-- How a utility ends, by its exit code and by whether it could write its output. -/
def utilityEnd (name : String) (code : Nat) (p : Process) : ExitStatus × Process :=
  match p.trouble with
  | none => (.exited code, p)
  | some .broken => (.killed 13, { p with trouble := none })
  | some .closed =>
    let p := Utility.complain name
      ((if name = "cat" then "standard output: " else "write error: ") ++ Utility.reason (.code 9)) p
    (.exited 1, { p with trouble := none })

/-! ### Running -/

mutual

/-- Runs a command. -/
def runTree : Nat → Bool → Bool → Tree → Run Unit
  | 0, _, _, _ => return
  | fuel + 1, tested, last, t => do
    if ← isLeaving then return
    match t with
    | .skip => setStatus 0
    | .simple line assignments words redirections =>
      runSimple fuel tested last line assignments words redirections
      runPending fuel
      checkFailure tested
    | .pipeline parts =>
      runPipeline fuel tested parts
      checkFailure tested
    | .negated t =>
      runTree fuel true false t
      if (← get).flow = .next then setStatus (if (← get).status = 0 then 1 else 0)
    | .both a b =>
      runTree fuel true false a
      if (← get).status = 0 then runTree fuel tested last b
    | .either a b =>
      runTree fuel true false a
      if (← get).status ≠ 0 then runTree fuel tested last b
    | .sequence a b =>
      runTree fuel tested false a
      runTree fuel tested last b
    | .background t =>
      let start := (← getProcess).system.clock
      let (e, child) ← inFork (fun s => s) (runDetached fuel t)
      enterBackground start e child
    | .subshell t =>
      runSubshell fuel tested last t []
      checkFailure tested
    | .redirected line t redirections =>
      modify fun s => { s with line := line }
      match t with
      | .subshell t =>
        runSubshell fuel tested last t redirections
        checkFailure tested
      | t =>
        let descriptors := (← getProcess).descriptors
        if ← applyRedirections fuel redirections then runTree fuel tested false t
        else
          setStatus 2
          checkFailure tested
        restoreDescriptors descriptors
    | .branch condition yes no =>
      runTree fuel true false condition
      if (← get).status = 0 then runTree fuel tested last yes else runTree fuel tested last no
    | .loop untilTrue condition body =>
      inLoop (runLoop fuel untilTrue tested condition body 0)
    | .each line name words body =>
      modify fun s => { s with line := line }
      let values ← match words with
        | some words => expandWords fuel words
        | none => pure (← get).arguments
      if !(← isLeaving) then
        setStatus 0
        inLoop (runEach fuel tested name body values)
    | .select line subject arms =>
      modify fun s => { s with line := line }
      let text ← expandText fuel subject
      let arm ← arms.findM? fun (patterns, _) => patterns.anyM fun w => do
        if ← isLeaving then return false
        return (Pattern.ofChars (Glyph.chars (← expand fuel w))).matchesText text
      match arm with
      | some (_, body) => runTree fuel tested last body
      | none => setStatus 0
    | .define name body =>
      modify fun s => { s with functions := (name, body) :: s.functions.filter (·.1 ≠ name) }
      setStatus 0

/-- Runs a loop; `result` is the status of the body in the round before. -/
def runLoop : Nat → Bool → Bool → Tree → Tree → Nat → Run Unit
  | 0, _, _, _, _, _ => return
  | fuel + 1, untilTrue, tested, condition, body, result => do
    runTree fuel true false condition
    if !(← goesOn) then return
    if ((← get).status == 0) == untilTrue then setStatus result
    else
      runTree fuel tested false body
      if !(← goesOn) then return
      runLoop fuel untilTrue tested condition body (← get).status

/-- Runs a loop over values. -/
def runEach : Nat → Bool → Octets → Tree → List Octets → Run Unit
  | 0, _, _, _, _ => return
  | _, _, _, _, [] => return
  | fuel + 1, tested, name, body, value :: rest => do
    assign name value
    runTree fuel tested false body
    if !(← goesOn) then return
    runEach fuel tested name body rest

/-- Runs commands as a shell of their own, to its end. -/
def runApart : Nat → Bool → Tree → List Redirection → Run ExitStatus
  | 0, _, _, _ => return .exited 0
  | fuel + 1, tested, t, redirections => do
    if ← applyRedirections fuel redirections then runTree fuel tested true t
    else setStatus 2
    endShell fuel

/-- Runs commands as a shell that reads nothing. -/
def runDetached : Nat → Tree → Run ExitStatus
  | 0, _ => return .exited 0
  | fuel + 1, t => do
    modifyProcess fun p =>
      let (number, system) := p.system.openChannel ⟨.device .null, 0, true, false, false⟩
      { p with system := system }.setDescriptor 0 number
    match t with
    | .redirected _ t redirections => runApart fuel false t redirections
    | .subshell t => runApart fuel false t []
    | t => runApart fuel false t []

def runSubshell : Nat → Bool → Bool → Tree → List Redirection → Run Unit
  | 0, _, _, _, _ => return
  | fuel + 1, tested, last, t, redirections => do
    if last && !hasTraps (← get) then
      if ← applyRedirections fuel redirections then runTree fuel tested true t
      else setStatus 2
    else
      let (e, _) ← inFork (fun s => s) (runApart fuel tested t redirections)
      join e

/-- Runs commands that are joined by pipes, each from the same instant on. -/
def runPipeline : Nat → Bool → List Tree → Run Unit
  | 0, _, _ => return
  | fuel + 1, tested, parts => do
    let start := (← getProcess).system.clock
    let atTime (instant : Nat) : Run Unit :=
      modifyProcess fun p => { p with system := { p.system with clock := instant } }
    let count := parts.length
    let (_, ends, latest) ← parts.zipIdx.foldlM
      (fun ((input : Option Nat), (ends : List ExitStatus), (latest : Nat)) (t, i) => do
        let pipe ← if i + 1 < count then some <$> makePipe else pure none
        atTime start
        let connect (s : State) : State :=
          let p := match input with
            | some number => s.process.setDescriptor 0 number
            | none => s.process
          { s with process := match pipe with
            | some ends => p.setDescriptor 1 ends.writer
            | none => p }
        let (e, _) ← inFork connect (runApart fuel tested t [])
        let now := (← getProcess).system.clock
        match pipe with
        | some ends => closePipe ends.pipe
        | none => pure ()
        return (pipe.map PipeEnds.reader, ends ++ [e], max latest now)) (none, [], start)
    atTime latest
    receiveAll
    ends.forM reportDeath
    setStatus ((ends.getLast?.map statusOf).getD 0)

/-- Runs a simple command. -/
def runSimple : Nat → Bool → Bool → Nat → List (Octets × Word) → List Word → List Redirection →
    Run Unit
  | 0, _, _, _, _, _, _ => return
  | fuel + 1, tested, last, line, assignments, words, redirections => do
    modify fun s => { s with line := line, substituted := 0 }
    modifyProcess fun p => p.sleep commandTime
    let words ← expandWords fuel words
    if ← isEnding then return
    let descriptors := (← getProcess).descriptors
    let isOpen ← applyRedirections fuel redirections
    if ← isEnding then return
    if !isOpen then
      setStatus 2
      if words.head?.any Builtin.isSpecial then setFlow .exits
      restoreDescriptors descriptors
    else match words with
      | [] =>
        runWith fuel assignments assign [] (return)
        if !(← isEnding) then setStatus (← get).substituted
        restoreDescriptors descriptors
      | name :: arguments =>
        let body := runNamed fuel tested last name arguments
        if Builtin.isSpecial name then runWith fuel assignments assign words body
        else
          keepingVariables (assignments.map (·.1))
            (runWith fuel assignments assignExported words body)
        if !(name = "exec".toList && arguments.isEmpty) then restoreDescriptors descriptors

/-- Gives variables their values, one after the other, and then runs something. -/
def runWith : Nat → List (Octets × Word) → (Octets → Octets → Run Unit) → List Octets → Run Unit →
    Run Unit
  | 0, _, _, _, _ => return
  | fuel + 1, assignments, give, words, body => do
    let values ← assignments.mapM fun (name, w) => do
      if ← isEnding then return (name, [])
      let value ← expandText fuel w
      if !(← isEnding) then give name value
      return (name, value)
    if !(← isEnding) then
      trace values words
      body

/-- Runs what a name stands for. -/
def runNamed : Nat → Bool → Bool → Octets → List Octets → Run Unit
  | 0, _, _, _, _ => return
  | fuel + 1, tested, last, name, arguments => do
    if Builtin.isSpecial name then runBuiltin fuel tested name arguments
    else match (← get).functions.lookup name with
      | some body => inCall arguments (runTree fuel tested false body)
      | none =>
        if Builtin.isBuiltin name then runBuiltin fuel tested name arguments
        else runProgram fuel last name arguments

/-- Runs a program, in place of the shell if it is the last thing that the shell does. -/
def runProgram : Nat → Bool → Octets → List Octets → Run Unit
  | 0, _, _, _ => return
  | fuel + 1, last, name, arguments => do
    let s ← get
    if s.isLeaving then return
    match imageFor s name arguments with
    | .error (status, text) =>
      complain (String.ofList name ++ ": " ++ text)
      setStatus status
    | .ok image =>
      if last && !hasTraps s then takePlace fuel image
      else
        let (pid, system) := s.process.system.takeFresh
        let (e, p) := runImage fuel image { s.process with
          pid := pid
          system := system
          environment := s.environment }
        set (s.after p.system)
        join e

/-- Lets a program take the place of the shell. -/
def takePlace : Nat → Image → Run Unit
  | 0, _ => return
  | fuel + 1, image => do
    let s ← get
    let (e, p) := runImage fuel image { s.process with environment := s.environment }
    set { s with process := p, traps := [] }
    leaveAs e

/-- Runs a built-in command. -/
def runBuiltin : Nat → Bool → Octets → List Octets → Run Unit
  | 0, _, _, _ => return
  | fuel + 1, tested, name, arguments => do
    let outer := (← get).within
    modify fun s => { s with within := some name }
    let result ← runBuiltinIn fuel tested name arguments
    match result with
    | .ok status => setStatus status
    | .error message =>
      complain message
      setStatus 2
      if Builtin.isSpecial name then setFlow .exits
    checkOutput name
    modify fun s => { s with within := outer }

/-- What a built-in command comes to. -/
def runBuiltinIn : Nat → Bool → Octets → List Octets → ExceptT String Run Nat
  | 0, _, _, _ => return 0
  | fuel + 1, tested, name, arguments => do
    match String.ofList name with
    | "eval" =>
      ExceptT.lift (runSource fuel tested false true (.start (List.intercalate [' '] arguments)))
      return (← get).status
    | "." =>
      match arguments with
      | [] => return 0
      | file :: _ =>
        match sourced (← get) file with
        | none => throw ("cannot open " ++ String.ofList file ++ ": No such file")
        | some data =>
          modify fun s => { s with within := some file }
          ExceptT.lift (runSource fuel false false true (.start (Text.octets data)))
          if (← get).flow = .returns then setFlow .next
          return (← get).status
    | "exec" =>
      match arguments with
      | [] => return 0
      | program :: _ =>
        match imageFor (← get) program (arguments.drop 1) with
        | .ok image =>
          ExceptT.lift (takePlace fuel image)
          return (← get).status
        | .error (status, text) =>
          complain (String.ofList program ++ ": " ++ text)
          setFlow .exits
          return status
    | "command" =>
      match arguments with
      | ['-', 'v'] :: program :: _ => identify program
      | ['-', 'V'] :: program :: _ => describe program
      | [] => return 0
      | program :: rest =>
        modify fun s => { s with within := none }
        if Builtin.isBuiltin program then ExceptT.lift (runBuiltin fuel tested program rest)
        else ExceptT.lift (runProgram fuel false program rest)
        return (← get).status
    | "type" =>
      arguments.foldlM (fun status a => return max status (← describe a)) 0
    | _ =>
      match Builtin.find? name with
      | some builtin => builtin arguments
      | none => return 127

/-- Runs the commands of signals that have come. -/
def runPending : Nat → Run Unit
  | 0 => return
  | fuel + 1 => do
    let s ← get
    match s.pending with
    | [] => return
    | signal :: rest =>
      set { s with pending := rest }
      runSource fuel false false true (.start ((s.traps.lookup signal).getD []))
      if (← get).flow = .next then setStatus s.status
      runPending fuel

/-- Runs commands as long as there are any in a source. `last` says that the shell ends with them,
and `fresh` that none has been run yet. -/
def runSource : Nat → Bool → Bool → Bool → Source → Run Unit
  | 0, _, _, _, _ => return
  | fuel + 1, tested, last, fresh, source => do
    if ← isLeaving then return
    match readComplete source with
    | .error refusal =>
      complainAt refusal.line ("Syntax error: " ++ refusal.fault.message)
      setStatus 2
      setFlow .exits
    | .ok (none, _) => if fresh then setStatus 0
    | .ok (some (t, isFinal), source) =>
      runTree fuel tested (last && isFinal) t
      if isFinal then return
      runSource fuel tested last false source

/-- Runs the command for the end of a shell, if there is one. -/
def endShell : Nat → Run ExitStatus
  | 0 => return .exited 0
  | fuel + 1 => do
    let s ← get
    match s.flow, s.traps.lookup 0 with
    | .killed signal, _ => return .killed signal
    | _, some (c :: cs) =>
      set { s with flow := .next, traps := s.traps.filter (·.1 ≠ 0), within := none }
      runSource fuel false false true (.start (c :: cs))
      let t ← get
      if t.flow = .next then return endOf s else return endOf t
    | _, _ => return endOf s

/-- Opens what redirections name, in order; whether all could be opened. -/
def applyRedirections : Nat → List Redirection → Run Bool
  | 0, _ => return true
  | fuel + 1, redirections =>
    redirections.foldlM (fun isOpen r => do
      if !isOpen || (← isEnding) then return false
      let opened ← match r with
        | .file fd mode target => do
          let target ← expandText fuel target
          redirectTo fd mode target
        | .duplicate fd target => do
          let target ← expandText fuel target
          redirectLike fd target
        | .document fd body => do
          let body ← expandText fuel body
          let r : ExceptT String Run Unit := ExceptT.lift (redirectFrom fd body)
          r
      match opened with
      | .ok () => return !(← isEnding)
      | .error message =>
        complain message
        return false) true

/-- The texts that words stand for. -/
def expandWords : Nat → List Word → Run (List Octets)
  | 0, _ => return []
  | fuel + 1, words =>
    words.foldlM (fun seen w => do
      if ← isEnding then return seen
      let w := withHome (← get) w
      if seen.head?.any Builtin.assigns && w.assignment?.isSome then
        return seen ++ [← expandText fuel w]
      let gs ← expand fuel w
      let s ← get
      let fields := Field.split s.separators gs
      if s.hasOption 'f' then return seen ++ fields.map Field.text
      return seen ++ fields.flatMap (Field.expand s.process.files s.process.here)) []

/-- The text that a word stands for where it is not split. -/
def expandText : Nat → Word → Run Octets
  | 0, _ => return []
  | fuel + 1, w => do return Glyph.text (← expand fuel (withHome (← get) w))

/-- A word with everything put in place. -/
def expand : Nat → Word → Run (List Glyph)
  | 0, _ => return []
  | fuel + 1, w => do
    let parts ← w.foldlM (fun (seen : List (List Glyph)) piece => do
      if ← isEnding then return seen
      return (← expandPiece fuel piece) :: seen) []
    return parts.reverse.flatten

/-- Reads a text as a word and puts everything in place. -/
def expandRead : Nat → Context → Octets → Run (List Glyph)
  | 0, _, _ => return []
  | fuel + 1, context, text => do
    match wordOfText context text with
    | .ok w => expand fuel w
    | .error fault =>
      abort ("Syntax error: " ++ fault.message) 2
      return []

def expandPiece : Nat → Piece → Run (List Glyph)
  | 0, _ => return []
  | fuel + 1, piece => do
    match piece with
    | .char c quoted => return [.char c quoted false]
    | .nothing => return [.mark]
    | .parameter name quoted => parameterGlyphs name quoted
    | .size name =>
      let s ← get
      match s.parameter? name with
      | some value => return placed (toString value.length).toList false
      | none =>
        if s.hasOption 'u' then abort (String.ofList name ++ ": parameter not set") 2
        return placed ['0'] false
    | .changed name change whenEmpty word quoted =>
      expandChanged fuel name change whenEmpty word quoted
    | .command text line quoted => return placed (← substitute fuel text line) quoted
    | .arithmetic text quoted =>
      let text := Glyph.text (← expandRead fuel .quotedText text)
      if ← isEnding then return []
      let s ← get
      match Arithmetic.run (fun name => (s.value? name).getD []) text with
      | .ok (n, assigned) =>
        assigned.reverse.forM fun (name, n) => assign name (toString n).toList
        return placed (toString n).toList quoted
      | .error failure =>
        abort (failure.message text) 2
        return []
    | .bad =>
      abort "Bad substitution" 2
      return []

/-- The value of a parameter as it is changed. -/
def expandChanged : Nat → Octets → Change → Bool → Octets → Bool → Run (List Glyph)
  | 0, _, _, _, _, _ => return []
  | fuel + 1, name, change, whenEmpty, word, quoted => do
    let value := (← get).parameter? name
    let isSet := match value with
      | some v => !(whenEmpty && v.isEmpty)
      | none => false
    let other : Run (List Glyph) := do
      let gs ← expandRead fuel (if quoted then .quotedBraces else .text) word
      if quoted then return if gs.isEmpty then [.mark] else gs else return asPlaced gs
    let pattern : Run Pattern := do
      return Pattern.ofChars (Glyph.chars (← expandRead fuel .text word))
    match change with
    | .default => if isSet then parameterGlyphs name quoted else other
    | .alternative => if isSet then other else return placed [] quoted
    | .assign =>
      if isSet then parameterGlyphs name quoted
      else if !Builtin.isName name then
        abort (Builtin.badName name) 2
        return []
      else
        let text := Glyph.text (← other)
        assign name text
        return placed text quoted
    | .complain =>
      if isSet then parameterGlyphs name quoted
      else
        let message ← if word.isEmpty then
            pure (if whenEmpty then "parameter not set or null" else "parameter not set").toList
          else Glyph.text <$> other
        if !(← isEnding) then abort (String.ofList (name ++ ": ".toList ++ message)) 2
        return []
    | .cutShortStart => return placed ((← pattern).cutStart false (value.getD [])) quoted
    | .cutLongStart => return placed ((← pattern).cutStart true (value.getD [])) quoted
    | .cutShortEnd => return placed ((← pattern).cutEnd false (value.getD [])) quoted
    | .cutLongEnd => return placed ((← pattern).cutEnd true (value.getD [])) quoted

/-- What commands write, put in place of them. -/
def substitute : Nat → Octets → Nat → Run Octets
  | 0, _, _ => return []
  | fuel + 1, text, line => do
    let ends ← makePipe
    let connect (s : State) : State :=
      { s with process := s.process.setDescriptor 1 ends.writer }
    let (e, _) ← inFork connect (do
      runSource fuel false true true ⟨text, line, 0⟩
      endShell fuel)
    closePipe ends.pipe
    let output ← drain ends.pipe
    receiveAll
    reportDeath e
    modify fun s => { s with substituted := statusOf e }
    return trimOutput output

/-- Runs an image as a process. -/
def runImage : Nat → Image → Process → ExitStatus × Process
  | 0, _, p => (.exited 0, p)
  | fuel + 1, image, p =>
    if p.system.isOver then (.exited 0, p)
    else
      let p := { p.sleep launchTime with trouble := none }
      let arguments := image.arguments.map Text.octets
      let name := String.ofList (Text.octets image.utility)
      if name = "sh" || name = "dash" then runShell fuel arguments p
      else if name = "env" then runEnvironment fuel (arguments.drop 1) p
      else match Utility.find? name with
        | some utility =>
          let (code, p) := utility (arguments.drop 1) p
          utilityEnd name code p
        | none => (.exited 127, p)

/-- Runs a shell as a process. -/
def runShell : Nat → List Octets → Process → ExitStatus × Process
  | 0, _, p => (.exited 0, p)
  | fuel + 1, arguments, p =>
    match Invocation.read arguments with
    | .error message =>
      (.exited 2, Utility.complain (String.ofList (arguments.headD [])) ("0: " ++ message) p)
    | .ok call =>
      let own := State.start p call.name call.arguments call.options
      let fromText (last : Bool) (text : Octets) : ExitStatus × Process :=
        let (e, s) := (do
          runSource fuel false last true (.start text)
          endShell fuel : Run ExitStatus).run own
        (e, s.process)
      match call.commands with
      | .text text => fromText true text
      | .input =>
        match p.readable 0 with
        | .bytes data =>
          let p := p.skip 0 data.length true
          let (e, s) := (do
            runSource fuel false false true (.start (Text.octets data))
            endShell fuel : Run ExitStatus).run { own with process := p }
          (e, s.process)
        | _ => (.exited 0, p)
      | .file path =>
        match p.files.read p.here ⟨Text.ofOctets path⟩ with
        | .ok data => fromText false (Text.octets data)
        | .error cause =>
          let message := "0: cannot open " ++ String.ofList path ++ ": " ++ openReason false cause
          (.exited 2, Utility.complain (String.ofList (arguments.headD [])) message p)

/-- Runs a program with a changed environment, or writes the environment. -/
def runEnvironment : Nat → List Octets → Process → ExitStatus × Process
  | 0, _, p => (.exited 0, p)
  | fuel + 1, arguments, p =>
    let (start, arguments) := match arguments with
      | ['-', 'i'] :: rest | ['-'] :: rest => ([], rest)
      | rest => (p.environment, rest)
    let (environment, rest) := takeAssignments arguments start
    let p := { p with environment := environment }
    match rest with
    | [] =>
      let lines := environment.flatMap fun (name, value) => name ++ 0x3D :: value ++ [Image.newline]
      utilityEnd "env" 0 (p.write 1 lines)
    | program :: arguments =>
      let image := Image.ofProgram p.files p.here (p.environment? (Text.utf8 "PATH"))
        ⟨Text.ofOctets program⟩ (arguments.map Text.ofOctets)
      match image with
      | .ok image => runImage fuel image p
      | .error cause =>
        let code := if cause = .notFound then 127 else 126
        (.exited code, Utility.complain "env" (Utility.quoted program ++ ": " ++ Utility.reason cause) p)

end

end Crosscheck.Shell
