import Crosscheck.Pieces
import Crosscheck.Text.Utf8

/-!
# Paths

A path is the bytes it was given as; nothing is normalised. Its components say where it leads by
its text alone: repeated and trailing slashes do not count, and neither does a `.`, unless it is
the first component of a relative path. Two spellings with the same components are the same path.
-/

namespace Crosscheck

structure Path where
  bytes : Bytes
  deriving DecidableEq, Repr

/-- One step of a path. -/
inductive Component where
  | root
  | current
  | parent
  | normal (name : Bytes)
  deriving DecidableEq, Repr

def slash : UInt8 := 0x2F

def dot : UInt8 := 0x2E

namespace Component

def bytes : Component → Bytes
  | root => [slash]
  | current => [dot]
  | parent => [dot, dot]
  | normal name => name

/-- Components are ordered by what they are, names by their bytes. -/
def key : Component → List Nat
  | root => [0]
  | current => [1]
  | parent => [2]
  | normal name => 3 :: name.map UInt8.toNat

/-- The component that a piece between slashes stands for; an empty piece and `.` stand for
none. -/
def ofPiece? (piece : Bytes) : Option Component :=
  if piece = [] || piece = [dot] then none
  else if piece = [dot, dot] then some parent
  else some (normal piece)

end Component

namespace Path

def ofText (s : String) : Path := ⟨Text.utf8 s⟩

/-- The path as readable text. -/
def display (p : Path) : String := Text.lossy p.bytes

def isAbsolute (p : Path) : Bool := p.bytes.head? = some slash

def endsInSlash (p : Path) : Bool := p.bytes.getLast? = some slash

def components (p : Path) : List Component :=
  let parts := pieces slash p.bytes
  let steps := parts.filterMap Component.ofPiece?
  if p.isAbsolute then .root :: steps
  else if parts.head? = some [dot] then .current :: steps
  else steps

/-- Two spellings of one path. -/
def Same (p q : Path) : Prop := p.components = q.components

instance (p q : Path) : Decidable (p.Same q) :=
  inferInstanceAs (Decidable (p.components = q.components))

theorem Same.refl (p : Path) : p.Same p := rfl

theorem Same.symm {p q : Path} (h : p.Same q) : q.Same p := Eq.symm h

theorem Same.trans {p q r : Path} (h : p.Same q) (h' : q.Same r) : p.Same r := Eq.trans h h'

/-- The order by components. -/
def le (p q : Path) : Bool :=
  !decide (q.components.map Component.key < p.components.map Component.key)

/-- `q` seen from `p`; an absolute `q` stands for itself. -/
def join (p q : Path) : Path :=
  if q.isAbsolute then q
  else if p.bytes = [] || p.endsInSlash then ⟨p.bytes ++ q.bytes⟩
  else ⟨p.bytes ++ slash :: q.bytes⟩

/-- The last component, if it is a name. -/
def fileName? (p : Path) : Option Bytes :=
  match p.components.getLast? with
  | some (.normal name) => some name
  | _ => none

/-- The parts before and after the last dot, if there is one. -/
def splitLastDot? (name : Bytes) : Option (Bytes × Bytes) :=
  if dot ∈ name then
    let rev := name.reverse
    some ((rev.dropWhile (· ≠ dot)).tail.reverse, (rev.takeWhile (· ≠ dot)).reverse)
  else none

/-- The name without its extension. A dot in front starts no extension. -/
def stem (name : Bytes) : Bytes :=
  match splitLastDot? name with
  | some (b :: bs, _) => b :: bs
  | _ => name

/-- What follows the last dot of a name, unless only that dot comes before it. -/
def suffix? (name : Bytes) : Option Bytes :=
  match splitLastDot? name with
  | some (_ :: _, ext) => some ext
  | _ => none

def fileStem? (p : Path) : Option Bytes := p.fileName?.map stem

def extension? (p : Path) : Option Bytes := p.fileName?.bind suffix?

/-- The path put together from components. -/
def ofComponents (start : Path) (cs : List Component) : Path :=
  cs.foldl (fun p c => p.join ⟨c.bytes⟩) start

/-- The path without its last component, if it has one that is not the root. -/
def parent? (p : Path) : Option Path :=
  match p.components.getLast? with
  | none | some .root => none
  | some _ => some (ofComponents ⟨[]⟩ p.components.dropLast)

/-- Two slashes in front, and not three: the one case in which they are kept. -/
def startsInTwoSlashes (p : Path) : Bool :=
  match p.bytes with
  | a :: b :: rest => a = slash && b = slash && rest.head? ≠ some slash
  | _ => false

/-- The path seen from the directory `cwd`, by its text alone: a `.` is dropped and a `..` is
kept. An empty path has no absolute form. -/
def absolute? (cwd p : Path) : Option Path :=
  if p.bytes = [] then none
  else
    let steps := p.components.filter (· ≠ .current)
    let full :=
      if p.startsInTwoSlashes then ofComponents ⟨[slash, slash]⟩ (steps.drop 1)
      else if p.isAbsolute then ofComponents ⟨[]⟩ steps
      else ofComponents cwd steps
    some (if p.endsInSlash then full.join ⟨[]⟩ else full)

end Path

end Crosscheck
