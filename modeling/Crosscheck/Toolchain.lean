import Crosscheck.Command
import Crosscheck.Settings
import Crosscheck.Target

/-!
# Commands of the toolchain

Every command that a run launches is put together here from the configured programs. `required`
lists the programs that a run over some targets and kinds needs.
-/

namespace Crosscheck.Tools

variable (tools : Tools)

def linkDriver (target : Target) : Path :=
  match target.linkDriver with
  | .cross => tools.riscvDriver
  | .host => tools.aarch64Driver

/-- Compiles a source to assembly with the compiler under test. -/
def compile (corpus : Corpus) (source : Path) (target : Target) (assembly : Path) : Command where
  program := tools.compiler
  arguments := corpus.compilerArguments.map Text.utf8 ++
    [Text.utf8 "--file", source.bytes, Text.utf8 ("--target=" ++ target.token), Text.utf8 "-o",
      assembly.bytes]

/-- `<program> -o <output> <input> <runtime> <link flags>` -/
def build (program input runtime output : Path) : Command where
  program := program
  arguments := [Text.utf8 "-o", output.bytes, input.bytes, runtime.bytes] ++
    tools.linkFlags.map Text.utf8

/-- Assembles and links generated assembly. -/
def link (target : Target) (assembly runtime output : Path) : Command :=
  tools.build (tools.linkDriver target) assembly runtime output

/-- Builds the reference binary, always for the host. -/
def buildReference (source runtime output : Path) : Command :=
  tools.build tools.referenceCompiler source runtime output

/-- Runs a binary built from generated assembly. -/
def runUnderTest (target : Target) (binary : Path) : Command :=
  match target.execution with
  | .simulated => {
    program := tools.simulator
    arguments := [Text.utf8 tools.simulatorShim, binary.bytes] }
  | .native => { program := binary, arguments := [] }

/-- Runs a reference binary, which needs no simulator. -/
def runReference (binary : Path) : Command where
  program := binary
  arguments := []

/-- The programs that one target needs besides the compilers. -/
def requiredFor (target : Target) : List Path :=
  tools.linkDriver target :: match target.execution with
    | .simulated => [tools.simulator]
    | .native => []

/-- The programs that a run needs, in the order in which they are looked up. -/
def required (settings : Settings) (targets : List Target) (kinds : List Kind) : List Path :=
  [tools.compiler] ++
    (if kinds.any fun k => (settings.corpus k).answerDir.isNone then [tools.referenceCompiler]
      else []) ++
    targets.flatMap tools.requiredFor

end Crosscheck.Tools
