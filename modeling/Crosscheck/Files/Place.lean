import Crosscheck.Files.Tree
import Crosscheck.OsError

/-!
# Where a path leads

A path is followed name by name from the root or from a current directory. A link on the way is
replaced by its target; a link at the end is followed only where the caller asks for it. The path
leads to an entry, or to a free name in a directory, or nowhere: a name on the way is missing or no
directory, a name is too long, or there are too many links.
-/

namespace Crosscheck

inductive Place where
  | found (l : Location) (e : Entry)
  | vacant (parent : Location) (name : Bytes)
  deriving DecidableEq, Repr

/-- The path of a location from the root. -/
def Location.path (l : Location) : Path := ⟨if l = [] then [slash] else l.flatMap (slash :: ·)⟩

namespace FileTree

/-- The longest name of an entry, in bytes. -/
def maxName : Nat := 255

/-- Paths of this many bytes are too long. -/
def pathLimit : Nat := 4096

/-- How many links one path may lead through. -/
def maxLinks : Nat := 40

/-- The names that a path consists of. A slash at the end asks for a directory, as a dot would. -/
def steps (p : Path) : List Bytes :=
  (pieces slash p.bytes).filter (· ≠ []) ++ if p.endsInSlash then [[dot]] else []

/-- Where a path starts. -/
def startOf (here : Location) (p : Path) : Location :=
  if p.isAbsolute then [] else here

variable (t : FileTree)

/-- Follows names from a directory; `onLink` goes on from where a link leads. -/
def walkWith (follow : Bool) (onLink : Location → List Bytes → Except OsError Place) :
    Location → List Bytes → Except OsError Place
  | here, [] => .ok (.found here .directory)
  | here, step :: rest =>
    if step = [dot] then walkWith follow onLink here rest
    else if step = [dot, dot] then walkWith follow onLink here.dropLast rest
    else if maxName < step.length then .error .nameTooLong
    else match t.get? (here ++ [step]) with
      | none => if rest.isEmpty then .ok (.vacant here step) else .error .notFound
      | some .directory => walkWith follow onLink (here ++ [step]) rest
      | some (.symlink target) =>
        if rest.isEmpty && !follow then .ok (.found (here ++ [step]) (.symlink target))
        else onLink (startOf here target) (steps target ++ rest)
      | some e =>
        if rest.isEmpty then .ok (.found (here ++ [step]) e) else .error .notDirectory

/-- Follows names through at most `links` links. -/
def walk (follow : Bool) : Nat → Location → List Bytes → Except OsError Place
  | 0 => t.walkWith follow fun _ _ => .error .tooManyLinks
  | links + 1 => t.walkWith follow (walk follow links)

def locate (here : Location) (follow : Bool) (p : Path) : Except OsError Place :=
  if 0 ∈ p.bytes then .error .zeroInPath
  else if p.bytes = [] then .error .notFound
  else if pathLimit ≤ p.bytes.length then .error .nameTooLong
  else t.walk follow maxLinks (startOf here p) (steps p)

/-- The entry that a path leads to. -/
def entry (here : Location) (follow : Bool) (p : Path) : Except OsError (Location × Entry) :=
  match t.locate here follow p with
  | .ok (.found l e) => .ok (l, e)
  | .ok (.vacant ..) => .error .notFound
  | .error cause => .error cause

def isFile (here : Location) (p : Path) : Bool :=
  match t.entry here true p with
  | .ok (_, .file ..) => true
  | _ => false

def isDirectory (here : Location) (p : Path) : Bool :=
  match t.entry here true p with
  | .ok (_, .directory) => true
  | _ => false

/-- Whether a path leads to anything. -/
def isPresent (here : Location) (p : Path) : Bool :=
  match t.entry here true p with
  | .ok _ => true
  | .error _ => false

/-- The bytes of a file. An endless device is not read. -/
def read (here : Location) (p : Path) : Except OsError Bytes :=
  match t.entry here true p with
  | .ok (_, .file data _) => .ok data
  | .ok (_, .directory) => .error .isDirectory
  | .ok (_, .symlink _) => .error .tooManyLinks
  | .ok (_, .device _) => .ok []
  | .error cause => .error cause

/-- The names in the directory that a path leads to. -/
def list (here : Location) (p : Path) : Except OsError (List Bytes) :=
  match t.entry here true p with
  | .ok (l, .directory) => .ok ((t.children l).map (·.1))
  | .ok _ => .error .notDirectory
  | .error cause => .error cause

end FileTree

end Crosscheck
