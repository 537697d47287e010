import Crosscheck.Vocabulary

/-!
# Targets

The instruction sets that generated assembly is checked on. What depends on the target is in its
profile: which driver assembles and links for it, and whether a linked binary runs by itself or
under a simulator. Reference binaries are always built for the host.
-/

namespace Crosscheck

inductive Target where
  | riscv64
  | aarch64
  deriving DecidableEq, Repr

/-- Who assembles and links generated assembly. -/
inductive LinkDriver where
  /-- A cross compiler; its binaries do not run on the host. -/
  | cross
  /-- A compiler driver of the host. -/
  | host
  deriving DecidableEq, Repr

/-- How a binary built for a target is run. -/
inductive Execution where
  | simulated
  | native
  deriving DecidableEq, Repr

namespace Target

def all : List Target := [riscv64, aarch64]

theorem mem_all (t : Target) : t ∈ all := by cases t <;> decide

def token : Target → String
  | riscv64 => "riscv64"
  | aarch64 => "aarch64"

def vocabulary : Vocabulary Target where
  noun := "target"
  spellings := [("riscv64", riscv64), ("rv64", riscv64), ("aarch64", aarch64), ("arm64", aarch64)]
  all := all
  expected := "riscv64, aarch64"

/-- Position in reports. -/
def rank : Target → Nat
  | riscv64 => 0
  | aarch64 => 1

def linkDriver : Target → LinkDriver
  | riscv64 => .cross
  | aarch64 => .host

def execution : Target → Execution
  | riscv64 => .simulated
  | aarch64 => .native

/-- The instruction set of the machine that the harness runs on. -/
def hostArchitecture : String := "x86_64"

def isHostNative (t : Target) : Bool := t.token == hostArchitecture

end Target

end Crosscheck
