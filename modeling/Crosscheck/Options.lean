import Crosscheck.Settings

/-!
# The command line

An option has a long name, perhaps a second one, perhaps a letter, and takes no value, a text, a
path or a number. Options may come in any order, each at most once. A value follows its option as
the next argument or behind an equals sign; behind a letter it may also follow at once. Letters
without values may share one dash. There are no other arguments.

An option whose value is still to come, or has come as the next argument, is looked at when the
next option comes or the line ends; until then an unknown argument is the error that counts.
-/

namespace Crosscheck

inductive OptionName where
  | target | kind | file | root | workDir | jobs | timeout | strictDiagnostics
  | compiler | referenceCompiler | riscvDriver | aarch64Driver | simulator | simulatorShim
  | metrics | verbose | silent | help | version
  deriving DecidableEq, Repr

/-- What an option takes. -/
inductive OptionValueType where
  | nothing
  | text
  | path
  | number
  deriving DecidableEq, Repr

/-- What an option was given. -/
inductive OptionValue where
  | on
  | text (s : String)
  | path (p : Path)
  | number (n : Nat)
  deriving DecidableEq, Repr

/-- Why a command line is not carried out. -/
inductive UsageError where
  | unknownArgument
  /-- A value is missing, or empty where it must not be. -/
  | missingValue
  /-- A value is no number, or too large a one. -/
  | badNumber
  /-- An option is given twice, or two options exclude each other. -/
  | conflict
  /-- A value is given to an option that takes none. -/
  | unwantedValue
  /-- A text is not well-formed. -/
  | badText
  | helpRequested
  | versionRequested
  deriving DecidableEq, Repr

def UsageError.message : UsageError → String
  | unknownArgument => "unknown argument"
  | missingValue => "a value is missing"
  | badNumber => "a value is no number"
  | conflict => "options exclude each other or are given twice"
  | unwantedValue => "a value is given to an option that takes none"
  | badText => "a value is no text"
  | helpRequested => "help is asked for"
  | versionRequested => "the version is asked for"

structure OptionRule where
  name : OptionName
  longNames : List String
  letter : Option UInt8
  takes : OptionValueType
  deriving DecidableEq, Repr

def optionRules : List OptionRule := [
  ⟨.target, ["target"], none, .text⟩,
  ⟨.kind, ["type", "kind"], none, .text⟩,
  ⟨.file, ["file"], some 0x66, .path⟩,
  ⟨.root, ["root"], none, .path⟩,
  ⟨.workDir, ["work-dir"], none, .path⟩,
  ⟨.jobs, ["jobs"], some 0x6A, .number⟩,
  ⟨.timeout, ["timeout"], none, .number⟩,
  ⟨.strictDiagnostics, ["strict-diagnostics"], none, .nothing⟩,
  ⟨.compiler, ["compiler"], none, .path⟩,
  ⟨.referenceCompiler, ["reference-cc"], none, .path⟩,
  ⟨.riscvDriver, ["riscv-cc"], none, .path⟩,
  ⟨.aarch64Driver, ["aarch64-cc"], none, .path⟩,
  ⟨.simulator, ["simulator"], none, .path⟩,
  ⟨.simulatorShim, ["simulator-shim"], none, .text⟩,
  ⟨.metrics, ["metrics"], none, .nothing⟩,
  ⟨.verbose, ["verbose"], some 0x76, .nothing⟩,
  ⟨.silent, ["silent"], some 0x73, .nothing⟩,
  ⟨.help, ["help"], some 0x68, .nothing⟩,
  ⟨.version, ["version"], some 0x56, .nothing⟩]

/-- One line on an option: its letter, its first long name, and what it takes. -/
def OptionRule.line (r : OptionRule) : String :=
  "  " ++ (match r.letter with
    | some b => "-" ++ String.singleton (Char.ofNat b.toNat) ++ ", "
    | none => "    ") ++
    "--" ++ r.longNames.headD "" ++
    (match r.takes with
      | .nothing => ""
      | .text => " <text>"
      | .path => " <path>"
      | .number => " <number>") ++ "\n"

/-- The largest number an option takes. -/
def maxNumber : Nat := UInt64.size - 1

/-- A number in decimal digits, perhaps with a plus sign in front. -/
def parseNumber? (s : String) : Option Nat :=
  let digits := match s.toList with
    | '+' :: rest => rest
    | all => all
  if digits.isEmpty || !digits.all Char.isDigit then none
  else
    let n := digits.foldl (fun n c => n * 10 + (c.toNat - '0'.toNat)) 0
    if n ≤ maxNumber then some n else none

def OptionValueType.read : OptionValueType → Bytes → Except UsageError OptionValue
  | .nothing, _ => .ok .on
  | .text, raw =>
    match Text.strict? raw with
    | some s => .ok (.text s)
    | none => .error .badText
  | .path, raw => if raw.isEmpty then .error .missingValue else .ok (.path ⟨raw⟩)
  | .number, raw =>
    match Text.strict? raw with
    | none => .error .badText
    | some s =>
      match parseNumber? s with
      | some n => .ok (.number n)
      | none => .error .badNumber

/-- A command line read so far. -/
structure LineState where
  given : List (OptionName × OptionValue)
  /-- An option not looked at yet, with its value if that has come. -/
  pending : Option (OptionRule × Option Bytes)
  /-- Whether a lone `--` has come. -/
  closed : Bool

namespace LineState

def start : LineState := ⟨[], none, false⟩

/-- Takes an option in, with its value if it has one. -/
def take (s : LineState) (rule : OptionRule) (raw : Option Bytes) :
    Except UsageError LineState :=
  if rule.name = .help then .error .helpRequested
  else if rule.name = .version then .error .versionRequested
  else if rule.takes ≠ .nothing && raw.isNone then .error .missingValue
  else if (s.given.lookup rule.name).isSome then .error .conflict
  else do
    let value ← rule.takes.read (raw.getD [])
    return { s with given := s.given ++ [(rule.name, value)] }

/-- Looks at the option that is pending. -/
def settle (s : LineState) : Except UsageError LineState :=
  match s.pending with
  | none => .ok s
  | some (rule, raw) => { s with pending := none }.take rule raw

/-- An option with the value that came in the same argument, if any. -/
def meet (s : LineState) (rule : OptionRule) (attached : Option Bytes) :
    Except UsageError LineState := do
  let s ← s.settle
  if rule.takes = .nothing || attached.isSome then s.take rule attached
  else return { s with pending := some (rule, none) }

def equalsSign : UInt8 := 0x3D

def dash : UInt8 := 0x2D

/-- The bytes before the first equals sign, and those after it if there is one. -/
def splitEquals (bytes : Bytes) : Bytes × Option Bytes :=
  match bytes.dropWhile (· ≠ equalsSign) with
  | [] => (bytes, none)
  | _ :: value => (bytes.takeWhile (· ≠ equalsSign), some value)

/-- What follows two dashes. -/
def long (s : LineState) (body : Bytes) : Except UsageError LineState :=
  let (name, attached) := splitEquals body
  match optionRules.find? fun r => r.longNames.any fun n => Text.utf8 n == name with
  | none => .error .unknownArgument
  | some rule =>
    if rule.takes = .nothing && attached.isSome then .error .unwantedValue
    else s.meet rule attached

/-- What follows one dash: letters, and perhaps the value of the last one. -/
def short (s : LineState) : Bytes → Except UsageError LineState
  | [] => .ok s
  | b :: rest =>
    match optionRules.find? fun r => r.letter == some b with
    | none => .error .unknownArgument
    | some rule =>
      if rule.takes = .nothing then do
        let s ← s.meet rule none
        s.short rest
      else
        s.meet rule (match rest with
          | [] => none
          | b :: value => if b = equalsSign then some value else some (b :: value))

/-- An argument that is no option is the value that an option waits for, or nothing. -/
def plain (s : LineState) (arg : Bytes) : Except UsageError LineState :=
  match s.pending with
  | some (rule, none) => .ok { s with pending := some (rule, some arg) }
  | _ => .error .unknownArgument

/-- One argument. -/
def step (s : LineState) (arg : Bytes) : Except UsageError LineState :=
  if s.closed then .error .unknownArgument
  else if arg = [dash, dash] then .ok { s with closed := true }
  else if arg.take 2 = [dash, dash] then s.long (arg.drop 2)
  else if arg.head? = some dash && arg ≠ [dash] then s.short arg.tail
  else s.plain arg

end LineState

/-- What the command line asks for. -/
structure Options where
  target : String
  kind : String
  file : Option Path
  root : Path
  workDir : Option Path
  jobs : Nat
  timeout : Nat
  strictDiagnostics : Bool
  compiler : Option Path
  referenceCompiler : Option Path
  riscvDriver : Option Path
  aarch64Driver : Option Path
  simulator : Option Path
  simulatorShim : Option String
  metrics : Bool
  verbose : Bool
  silent : Bool
  deriving DecidableEq, Repr

namespace Options

/-- What the program is called. -/
def program : String := "crosscheck"

def usage : String :=
  "Usage: " ++ program ++ " [options]\n\n" ++ String.join (optionRules.map OptionRule.line)

def standard : Options where
  target := "all"
  kind := "all"
  file := none
  root := .ofText "."
  workDir := none
  jobs := 1
  timeout := Settings.defaultTimeoutSeconds
  strictDiagnostics := false
  compiler := none
  referenceCompiler := none
  riscvDriver := none
  aarch64Driver := none
  simulator := none
  simulatorShim := none
  metrics := false
  verbose := false
  silent := false

def set (o : Options) : OptionName × OptionValue → Options
  | (.target, .text s) => { o with target := s }
  | (.kind, .text s) => { o with kind := s }
  | (.file, .path p) => { o with file := some p }
  | (.root, .path p) => { o with root := p }
  | (.workDir, .path p) => { o with workDir := some p }
  | (.jobs, .number n) => { o with jobs := n }
  | (.timeout, .number n) => { o with timeout := n }
  | (.strictDiagnostics, _) => { o with strictDiagnostics := true }
  | (.compiler, .path p) => { o with compiler := some p }
  | (.referenceCompiler, .path p) => { o with referenceCompiler := some p }
  | (.riscvDriver, .path p) => { o with riscvDriver := some p }
  | (.aarch64Driver, .path p) => { o with aarch64Driver := some p }
  | (.simulator, .path p) => { o with simulator := some p }
  | (.simulatorShim, .text s) => { o with simulatorShim := some s }
  | (.metrics, _) => { o with metrics := true }
  | (.verbose, _) => { o with verbose := true }
  | (.silent, _) => { o with silent := true }
  | _ => o

/-- Reads the arguments after the program's name. -/
def parse (args : List Bytes) : Except UsageError Options := do
  let s ← args.foldlM LineState.step .start
  let s ← s.settle
  if (s.given.lookup .verbose).isSome && (s.given.lookup .silent).isSome then .error .conflict
  else return s.given.foldl set standard

/-- The tools with those that were given in place of the ones found. -/
def tools (o : Options) (found : Tools) : Tools where
  compiler := o.compiler.getD found.compiler
  referenceCompiler := o.referenceCompiler.getD found.referenceCompiler
  riscvDriver := o.riscvDriver.getD found.riscvDriver
  aarch64Driver := o.aarch64Driver.getD found.aarch64Driver
  simulator := o.simulator.getD found.simulator
  simulatorShim := o.simulatorShim.getD found.simulatorShim
  linkFlags := found.linkFlags

/-- The settings of a run in which `found` are the tools of the machine. -/
def settings (o : Options) (found : Tools) : Settings :=
  { Settings.standard with
    root := o.root
    workDir := o.workDir
    tools := o.tools found
    timeout := Settings.timeoutOfSeconds o.timeout
    jobs := o.jobs
    strictDiagnostics := o.strictDiagnostics }

end Options

end Crosscheck
