import Crosscheck.Error
import Crosscheck.Toolchain
import Crosscheck.World

/-!
# Finding programs

A program whose path has more than one component is where its path says. Any other is looked for in
the directories of the search path, in their order. Tools are detected and checked by these rules
alone; nothing is launched.
-/

namespace Crosscheck

namespace Lookup

def colon : UInt8 := 0x3A

/-- The directories of a search path. -/
def directories (searchPath : Bytes) : List Path :=
  (pieces colon searchPath).map Path.mk

/-- Where a program may be, in the order of preference. -/
def candidates (w : World) (program : Path) : List Path :=
  if 1 < program.components.length then [program]
  else match w.searchPath with
    | some searchPath => (directories searchPath).map fun dir => dir.join program
    | none => []

/-- The file that a program is found as. -/
def find? (w : World) (program : Path) : Option Path :=
  (candidates w program).find? w.isFile

/-- How the names of a cross compiler's programs may begin, in the order of preference. -/
def crossNames : List String :=
  ["riscv64-unknown-elf-", "riscv64-linux-gnu-", "riscv64-unknown-linux-gnu-"]

def crossDriver (start : String) : Path := .ofText (start ++ "gcc")

/-- How the names of the installed cross compiler begin. -/
def crossName? (w : World) : Option String :=
  crossNames.find? fun start => (find? w (crossDriver start)).isSome

end Lookup

namespace Tools

/-- The standard tools with the cross compiler that is installed. -/
def detect (w : World) : Tools :=
  match Lookup.crossName? w with
  | some start => { standard with riscvDriver := Lookup.crossDriver start }
  | none => standard

/-- Whether every program that a run needs can be found; the first that cannot is the error. -/
def verify (w : World) (settings : Settings) (targets : List Target) (kinds : List Kind) :
    Except Error Unit :=
  match (settings.tools.required settings targets kinds).find? fun program =>
      (Lookup.find? w program).isNone with
  | some program => .error (.toolUnavailable program.display "not found in PATH")
  | none => .ok ()

end Tools

end Crosscheck
