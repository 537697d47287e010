import Crosscheck.Machine.Launching

/-!
# A new machine

A machine as it is before anything is put on it: the utilities in their directory, the devices, and
an empty directory to work in.
-/

namespace Crosscheck.Machine

def names (path : List String) : Location := path.map Text.utf8

/-- The directories that are there from the start, outer ones first. -/
def directories : List (List String) := [
  ["dev"], ["etc"], ["home"], ["root"], ["tmp"], ["usr"], ["usr", "bin"], ["usr", "lib"],
  ["usr", "local"], ["usr", "local", "bin"], ["usr", "local", "sbin"], ["usr", "sbin"], ["var"]]

/-- Links from the root to where programs are. -/
def links : List (String × String) := [("bin", "usr/bin"), ("lib", "usr/lib"), ("sbin", "usr/sbin")]

/-- The files of a new machine. -/
def files : FileTree :=
  let t := directories.foldl (fun t d => t.insert (names d) .directory) FileTree.empty
  let t := links.foldl (fun t (name, target) => t.insert (names [name]) (.symlink (.ofText target))) t
  let t := t.insert (names ["dev", "null"]) (.device .null)
  let t := t.insert (names ["dev", "zero"]) (.device .zero)
  (Utility.table.map (·.1) ++ Utility.runners).foldl
    (fun t name => t.insert (names ["usr", "bin", name]) (Image.ofUtility name)) t

/-- The search path of a new machine. -/
def searchPath : Bytes :=
  Text.utf8 "/usr/local/sbin:/usr/local/bin:/usr/sbin:/usr/bin:/sbin:/bin"

/-- The clock of a new machine stands at one day. -/
def clock : Nat := 86400 * Duration.nanosecondsPerSecond

/-- A new machine, at work in an empty directory. -/
def start (here : Location) : World := {
  files := files.insert here .directory
  here := here
  searchPath := some searchPath
  clock := clock
  processors := 1
  launched := [] }

end Crosscheck.Machine
