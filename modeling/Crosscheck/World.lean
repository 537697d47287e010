import Crosscheck.Command
import Crosscheck.Files.Changes

/-!
# The world of a run

What a run can see and change: the files, the directory it works in, the search path, the clock,
and the programs that it launches. How programs behave is not fixed here: a behaviour says for each
world what a launched command leaves behind.
-/

namespace Crosscheck

structure World where
  files : FileTree
  /-- The current directory. -/
  here : Location
  /-- Where programs without a slash in their name are looked up, if that is set. -/
  searchPath : Option Bytes
  /-- Nanoseconds since the machine was started. -/
  clock : Nat
  processors : Nat
  /-- Every command handed to the system, whether or not it could be launched. -/
  launched : List Command

namespace World

variable (w : World)

def herePath : Path := Location.path w.here

def isFile (p : Path) : Bool := w.files.isFile w.here p

def isDirectory (p : Path) : Bool := w.files.isDirectory w.here p

def isPresent (p : Path) : Bool := w.files.isPresent w.here p

def read (p : Path) : Except OsError Bytes := w.files.read w.here p

def list (p : Path) : Except OsError (List Bytes) := w.files.list w.here p

/-- The world after a change of its files, which may have failed. -/
def changed : Except OsError FileTree → Except OsError Unit × World
  | .ok files => (.ok (), { w with files := files })
  | .error cause => (.error cause, w)

def remove (p : Path) : Except OsError Unit × World :=
  w.changed (w.files.removeFile w.here p)

def makeDirectories (p : Path) : Except OsError Unit × World :=
  w.changed (w.files.makeDirectories w.here p)

end World

/-- What a launched command leaves behind, and when it is over. -/
structure Launch where
  result : Except LaunchError Capture
  files : FileTree
  clock : Nat

/-- What comes of a command under a time limit in a given world. -/
abbrev Behaviour := World → Command → Option Duration → Launch

/-- Hands a command to the system. -/
def World.launch (programs : Behaviour) (w : World) (command : Command) (limit : Option Duration) :
    Except LaunchError Capture × World :=
  let l := programs w command limit
  (l.result,
    { w with files := l.files, clock := l.clock, launched := w.launched ++ [command] })

end Crosscheck
