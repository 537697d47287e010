import Crosscheck.Files.Place

/-!
# Changes of a file tree

What can be done to the files: write, make directories and links, remove. A change that fails
leaves the tree as it was.
-/

namespace Crosscheck.FileTree

variable (t : FileTree) (here : Location)

/-- Puts a file where a path leads; what a link at its end points to is written, not the link.
A file that is there keeps its mode. -/
def write (p : Path) (data : Bytes) (executable : Bool) : Except OsError FileTree :=
  match t.locate here true p with
  | .ok (.found l (.file _ mode)) => .ok (t.insert l (.file data mode))
  | .ok (.found _ .directory) => .error .isDirectory
  | .ok (.found ..) => .ok t
  | .ok (.vacant parent name) => .ok (t.insert (parent ++ [name]) (.file data executable))
  | .error cause => if p.endsInSlash && cause = .notFound then .error .isDirectory else .error cause

/-- The path without the slashes at its end. -/
def withoutSlashes (p : Path) : Path :=
  match (p.bytes.reverse.dropWhile (· = slash)).reverse with
  | [] => p
  | bytes => ⟨bytes⟩

def makeDirectory (p : Path) : Except OsError FileTree :=
  match t.locate here false (withoutSlashes p) with
  | .ok (.found ..) => .error .exists_
  | .ok (.vacant parent name) => .ok (t.insert (parent ++ [name]) .directory)
  | .error cause => .error cause

def makeLink (p target : Path) : Except OsError FileTree :=
  match t.locate here false p with
  | .ok (.found ..) => .error .exists_
  | .ok (.vacant parent name) => .ok (t.insert (parent ++ [name]) (.symlink target))
  | .error cause => .error cause

/-- Makes the first of some directories, and where its parent is missing the others first, each of
which is the parent of the one before it. A directory that is there is no error. -/
def makeWithParents : List Path → FileTree → Except OsError FileTree
  | [], t => .ok t
  | p :: more, t =>
    match t.makeDirectory here p with
    | .ok t => .ok t
    | .error .notFound => do
      let t ← makeWithParents more t
      match t.makeDirectory here p with
      | .ok t => .ok t
      | .error cause => if t.isDirectory here p then .ok t else .error cause
    | .error cause => if t.isDirectory here p then .ok t else .error cause

/-- The directories that a path lies in by its text, innermost first. -/
def parents (p : Path) : List Path :=
  (List.range (p.components.length - 1)).reverse.map fun n =>
    Path.ofComponents ⟨[]⟩ (p.components.take (n + 1))

/-- Makes a directory and those it lies in. -/
def makeDirectories (p : Path) : Except OsError FileTree :=
  if p.bytes = [] then .ok t else makeWithParents here (p :: parents p) t

/-- Removes what a path leads to, unless it is a directory. A link is removed, not its target. -/
def removeFile (p : Path) : Except OsError FileTree :=
  match t.entry here false p with
  | .ok (_, .directory) => .error .isDirectory
  | .ok (l, _) => .ok (t.erase l)
  | .error cause => .error cause

/-- Removes a directory without entries. -/
def removeDirectory (p : Path) : Except OsError FileTree :=
  match t.entry here false p with
  | .ok (l, .directory) =>
    if l = [] then .error (.code 16)
    else if (t.children l).isEmpty then .ok (t.erase l) else .error .notEmpty
  | .ok _ => .error .notDirectory
  | .error cause => .error cause

/-- Removes what a path leads to with all that lies below it. -/
def removeTree (p : Path) : Except OsError FileTree :=
  match t.entry here false p with
  | .ok ([], _) => .error (.code 16)
  | .ok (l, _) => .ok (t.eraseBelow l)
  | .error cause => .error cause

theorem removeFile_eq_erase {t t' : FileTree} {p : Path} (h : t.removeFile here p = .ok t') :
    ∃ l e, t.entry here false p = .ok (l, e) ∧ e ≠ .directory ∧ t' = t.erase l := by
  unfold removeFile at h
  split at h
  · cases h
  · next l e hne heq =>
    injection h with h
    exact ⟨l, e, heq, hne, h.symm⟩
  · cases h

end Crosscheck.FileTree
