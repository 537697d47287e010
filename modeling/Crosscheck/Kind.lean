import Crosscheck.Path
import Crosscheck.Vocabulary

/-!
# Kinds of test

The kind of a case is the source language of its corpus. A file belongs to a kind by its last
extension, whatever the case of its letters.
-/

namespace Crosscheck

inductive Kind where
  /-- C sources, checked against a reference compiler. -/
  | c
  /-- MiniMoonBit sources, checked against recorded answers. -/
  | miniMoonBit
  deriving DecidableEq, Repr

namespace Kind

def all : List Kind := [c, miniMoonBit]

theorem mem_all (k : Kind) : k ∈ all := by cases k <;> decide

/-- The name in reports. -/
def label : Kind → String
  | c => "C"
  | miniMoonBit => "MiniMoonBit"

/-- The short name in progress lines. -/
def tag : Kind → String
  | c => "C"
  | miniMoonBit => "MBT"

/-- The extension of source files, without the dot. -/
def extension : Kind → String
  | c => "c"
  | miniMoonBit => "mbt"

def vocabulary : Vocabulary Kind where
  noun := "test kind"
  spellings := [("c", c), ("mbt", miniMoonBit), ("minimoonbit", miniMoonBit)]
  all := all
  expected := "c, minimoonbit"

/-- Position in reports. -/
def rank : Kind → Nat
  | c => 0
  | miniMoonBit => 1

/-- An ASCII capital made small; any other byte stands for itself. -/
def lowerByte (b : UInt8) : UInt8 :=
  if 0x41 ≤ b && b ≤ 0x5A then b + 0x20 else b

def ofPath? (p : Path) : Option Kind :=
  match p.extension? with
  | none => none
  | some ext => all.find? fun k => ext.map lowerByte == Text.utf8 k.extension

end Kind

end Crosscheck
