import Crosscheck.Plan
import Crosscheck.Target

/-!
# Artifacts

The files that a trial makes: where they are put, and the set of those made so far. A path is put
into the set before the command that makes it is launched, so a file left by a command that fails
is in the set too. The set holds each path once, in the order of tracking; releasing it removes
every path from the disk, and what cannot be removed stays.
-/

namespace Crosscheck

/-- The places of what is made for one case on one target. -/
structure Products where
  assembly : Path
  underTest : Path
  reference : Path
  deriving DecidableEq, Repr

namespace Products

/-- `<directory>/<case>.<target>.<suffix>` -/
def place (workDir : Path) (name : String) (target : Target) (suffix : String) : Path :=
  workDir.join (.ofText (name ++ "." ++ target.token ++ "." ++ suffix))

def ofCase (workDir : Path) (name : String) (target : Target) : Products where
  assembly := place workDir name target "s"
  underTest := place workDir name target "moon"
  reference := place workDir name target "std"

def toList (p : Products) : List Path := [p.assembly, p.underTest, p.reference]

end Products

/-- Paths to be removed. No two of them have the same components. -/
structure Artifacts where
  paths : List Path
  distinct : paths.Pairwise fun p q => ¬p.Same q

namespace Artifacts

def empty : Artifacts := ⟨[], .nil⟩

/-- Whether a path, in this or another spelling, is in the set. -/
def Holds (a : Artifacts) (p : Path) : Prop := ∃ q ∈ a.paths, q.Same p

instance (a : Artifacts) (p : Path) : Decidable (a.Holds p) :=
  inferInstanceAs (Decidable (∃ q ∈ a.paths, q.Same p))

theorem distinct_append {ps : List Path} (h : ps.Pairwise fun p q => ¬p.Same q) {p : Path}
    (hp : ¬∃ q ∈ ps, q.Same p) : (ps ++ [p]).Pairwise fun p q => ¬p.Same q := by
  refine List.pairwise_append.2 ⟨h, List.pairwise_singleton .., fun a ha b hb => ?_⟩
  rw [List.mem_singleton.1 hb]
  exact fun hs => hp ⟨a, ha, hs⟩

def track (a : Artifacts) (p : Path) : Artifacts :=
  if h : a.Holds p then a else ⟨a.paths ++ [p], distinct_append a.distinct h⟩

theorem paths_track (a : Artifacts) (p : Path) :
    (a.track p).paths = if a.Holds p then a.paths else a.paths ++ [p] := by
  unfold track; split <;> rfl

/-- Removes paths one after the other and counts the removals that succeed. -/
def removeAll : List Path → Plan Nat
  | [] => return 0
  | p :: ps => do
    let removed ← Plan.request (.remove p)
    let more ← removeAll ps
    return (if removed.toBool then 1 else 0) + more

/-- Removes what the set holds, as far as it can be removed. -/
def release (a : Artifacts) : Plan Nat := removeAll a.paths

/-- What is done with a set. It is dropped where its scope ends, also when a panic unwinds. -/
inductive Action where
  | track (p : Path)
  | release
  | drop
  deriving DecidableEq, Repr

/-- The count that an action gives, if it gives one, and the set and the world after it. Once
released, the set is empty, whatever could be removed. -/
def act (programs : Behaviour) (s : Artifacts × World) : Action → Option Nat × Artifacts × World
  | .track p => (none, s.1.track p, s.2)
  | .release => (some (s.1.release.run programs s.2).1, empty, (s.1.release.run programs s.2).2)
  | .drop => (none, empty, (s.1.release.run programs s.2).2)

end Artifacts

end Crosscheck
