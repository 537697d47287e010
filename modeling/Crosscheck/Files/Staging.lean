import Crosscheck.World

/-!
# Staging

Putting files where programs will look for them, and looking at what is there afterwards. Entries
are put with the directories they lie in, over what was there before.
-/

namespace Crosscheck

namespace FileTree

variable (t : FileTree) (here : Location)

/-- Gives a file its mode. -/
def setMode (p : Path) (executable : Bool) : FileTree :=
  match t.entry here true p with
  | .ok (l, .file data _) => t.insert l (.file data executable)
  | _ => t

/-- Puts an entry where a path leads. -/
def stage (p : Path) (e : Entry) : Except OsError FileTree := do
  let t ← match (parents p).head? with
    | some dir => t.makeDirectories here dir
    | none => pure t
  match e with
  | .file data executable => return (← t.write here p data executable).setMode here p executable
  | .directory => t.makeDirectories here p
  | .symlink target => t.makeLink here p target
  | .device d =>
    match ← t.locate here false p with
    | .vacant parent name => return t.insert (parent ++ [name]) (.device d)
    | .found .. => throw .exists_

/-- How an entry is listed: a directory has a slash at its end. -/
def listed (names : Location) (e : Entry) : Bytes :=
  joinWith slash names ++ if e = .directory then [slash] else []

/-- All that lies below a directory at any depth, in the order of the bytes. -/
def listing (p : Path) : List Bytes :=
  match t.entry here true p with
  | .ok (l, .directory) =>
    ((t.below l).map fun (names, e) => listed names e).mergeSort fun a b => !(b < a)
  | _ => []

end FileTree

namespace World

variable (w : World)

def stage (p : Path) (e : Entry) : Except OsError Unit × World :=
  w.changed (w.files.stage w.here p e)

/-- Removes whatever a path leads to. -/
def clear (p : Path) : Except OsError Unit × World :=
  w.changed (w.files.removeTree w.here p)

def listing (p : Path) : List Bytes := w.files.listing w.here p

end World

end Crosscheck
