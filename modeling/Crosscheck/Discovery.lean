import Crosscheck.Error
import Crosscheck.Settings
import Crosscheck.World

/-!
# Finding cases

The cases of a kind are the files of that kind in its corpus directory, in the order of their names.
A single file may be given by its path, or by its name alone if it lies in the corpus of its kind
and not in the current directory.
-/

namespace Crosscheck.Discovery

/-- The sources of a kind among the names in a directory, in order. -/
def sources (w : World) (dir : Path) (kind : Kind) (names : List Bytes) : List Path :=
  ((names.map fun name => dir.join ⟨name⟩).filter fun p =>
    w.isFile p && Kind.ofPath? p == some kind).mergeSort Path.le

def cases (w : World) (dir : Path) (kind : Kind) : Except Error (List Case) :=
  if w.isDirectory dir then
    match w.list dir with
    | .ok names => .ok ((sources w dir kind names).map fun p => .ofPath p kind)
    | .error cause => .error (.io cause)
  else .error (.missing "corpus directory" dir)

def runtimePath (settings : Settings) (kind : Kind) : Path :=
  settings.resolve (settings.corpus kind).runtime

/-- Whether the runtime of every kind is there; the first that is not is the error. -/
def checkRuntimes (w : World) (settings : Settings) (kinds : List Kind) : Except Error Unit :=
  match (kinds.map (runtimePath settings)).find? fun p => !w.isFile p with
  | some p => .error (.missing "runtime file" p)
  | none => .ok ()

def corpusPath (settings : Settings) (kind : Kind) : Path :=
  settings.resolve (settings.corpus kind).sourceDir

/-- Where the source of a single file is. -/
def singleSource (w : World) (settings : Settings) (kind : Kind) (file : Path) : Path :=
  let candidate := (corpusPath settings kind).join file
  if !w.isPresent file && file.components.length == 1 && w.isPresent candidate then candidate
  else file

/-- The case of a single file. -/
def single (w : World) (settings : Settings) (file : Path) : Except Error Case :=
  match Kind.ofPath? file with
  | none => .error (.invalidInput (file.display ++ ": file must be .c or .mbt"))
  | some kind => .ok (.ofPath (singleSource w settings kind file) kind)

end Crosscheck.Discovery
