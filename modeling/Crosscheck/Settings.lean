import Crosscheck.Case
import Crosscheck.Duration

/-!
# Settings

Where the sources, runtimes and answers of each kind lie, which programs are used, and how a run
goes about its work. Paths of the settings are relative to the root unless they are absolute.
-/

namespace Crosscheck

/-- Where the files of one kind lie. -/
structure Corpus where
  sourceDir : Path
  /-- The file linked into every executable. -/
  runtime : Path
  /-- What stands between the compiler and its `--file`. -/
  compilerArguments : List String
  /-- Where the recorded answers lie. Without them a reference binary is built. -/
  answerDir : Option Path
  deriving DecidableEq, Repr

namespace Corpus

def launcher (package : String) : List String := ["run", package, "--"]

def standard : Kind → Corpus
  | .c => {
    sourceDir := .ofText "real_tests/C"
    runtime := .ofText "real_tests/cruntime.c"
    compilerArguments := launcher "mbtcc"
    answerDir := none }
  | .miniMoonBit => {
    sourceDir := .ofText "real_tests/MiniMoonBit"
    runtime := .ofText "real_tests/mbtruntime.c"
    compilerArguments := launcher "minimbt"
    answerDir := some (.ofText "real_tests/MiniMoonBitAns") }

end Corpus

/-- The external programs. -/
structure Tools where
  /-- Launches the compiler under test. -/
  compiler : Path
  /-- Builds the reference binaries. -/
  referenceCompiler : Path
  riscvDriver : Path
  aarch64Driver : Path
  simulator : Path
  /-- What the simulator loads before the binary. -/
  simulatorShim : String
  /-- What every link command ends with. -/
  linkFlags : List String
  deriving DecidableEq, Repr

def Tools.standard : Tools where
  compiler := .ofText "moon"
  referenceCompiler := .ofText "clang"
  riscvDriver := .ofText "riscv64-unknown-elf-gcc"
  aarch64Driver := .ofText "clang"
  simulator := .ofText "spike"
  simulatorShim := "pk"
  linkFlags := ["-lm"]

structure Settings where
  root : Path
  /-- Where artifacts are put; the root if not given. -/
  workDir : Option Path
  cCorpus : Corpus
  miniMoonBitCorpus : Corpus
  tools : Tools
  /-- How long one command may take. -/
  timeout : Option Duration
  /-- The number of workers; zero stands for one per processor. -/
  jobs : Nat
  /-- Whether a compiler that succeeds must be silent. -/
  strictDiagnostics : Bool
  deriving DecidableEq, Repr

namespace Settings

def defaultTimeoutSeconds : Nat := 10

def standard : Settings where
  root := .ofText "."
  workDir := none
  cCorpus := .standard .c
  miniMoonBitCorpus := .standard .miniMoonBit
  tools := .standard
  timeout := some (.ofSeconds defaultTimeoutSeconds)
  jobs := 1
  strictDiagnostics := false

/-- A time limit in seconds, where zero stands for none. -/
def timeoutOfSeconds (seconds : Nat) : Option Duration :=
  if seconds = 0 then none else some (.ofSeconds seconds)

variable (s : Settings)

def corpus : Kind → Corpus
  | .c => s.cCorpus
  | .miniMoonBit => s.miniMoonBitCorpus

def withCorpus (kind : Kind) (corpus : Corpus) : Settings :=
  match kind with
  | .c => { s with cCorpus := corpus }
  | .miniMoonBit => { s with miniMoonBitCorpus := corpus }

/-- A configured path, seen from the root. -/
def resolve (p : Path) : Path :=
  if p.isAbsolute then p else s.root.join p

def workPath : Path :=
  match s.workDir with
  | some dir => s.resolve dir
  | none => s.root

/-- The number of workers on a machine with `processors` processors. -/
def workers (processors : Nat) : Nat :=
  if s.jobs = 0 then max processors 1 else s.jobs

end Settings

end Crosscheck
