import Crosscheck.Files.Place

/-!
# Launching a file

A file that may be executed is either one of the built-in utilities or a script whose first line
names its interpreter; anything else has the wrong format. A script is run by launching its
interpreter with the rest of that line, if any, and the path of the script put before the
arguments.

A program without a slash in its name is tried in each directory of the search path until one can
be launched; a file that is there but may not be executed is remembered as the error.
-/

namespace Crosscheck

/-- A utility about to run: its name, and its arguments with the name it was called by first. -/
structure Image where
  utility : Bytes
  arguments : List Bytes
  deriving DecidableEq, Repr

namespace Image

/-- How the file of a utility begins. -/
def mark : Bytes := [0x7F, 0x45, 0x4C, 0x46]

/-- The file of a utility. -/
def ofUtility (name : String) : Entry := .file (mark ++ Text.utf8 name) true

def newline : UInt8 := 0x0A

def isSpace (b : UInt8) : Bool := b == 0x20 || b == 0x09

/-- How much of a script is looked at for its interpreter. -/
def firstLineLimit : Nat := 256

/-- Without spaces and zero bytes at the end. -/
def trimRight (bytes : Bytes) : Bytes :=
  (bytes.reverse.dropWhile fun b => isSpace b || b == 0).reverse

/-- The interpreter that the first line of a script names, with its argument if it has one. -/
def interpreter? (data : Bytes) : Option (Bytes × Option Bytes) :=
  if data.take 2 ≠ [0x23, 0x21] then none
  else
    let line := ((data.take firstLineLimit).drop 2).takeWhile (· ≠ newline)
    let body := line.dropWhile isSpace
    let ends (b : UInt8) : Bool := isSpace b || b == 0
    let name := body.takeWhile fun b => !ends b
    let rest := body.drop name.length
    if name.isEmpty || (rest.isEmpty && firstLineLimit ≤ line.length + 2) then none
    else
      let argument := ((trimRight rest).dropWhile isSpace).takeWhile (· ≠ 0)
      some (name, if argument.isEmpty then none else some argument)

/-- How many interpreters may be scripts themselves. -/
def maxNesting : Nat := 5

/-- The utility that comes to run when a file is launched with some arguments. -/
def load (files : FileTree) (here : Location) : Nat → Path → List Bytes → Except OsError Image
  | nesting, path, arguments =>
    match files.entry here true path with
    | .error cause => .error cause
    | .ok (_, .file data true) =>
      if data.take 4 = mark then .ok ⟨data.drop 4, arguments⟩
      else match interpreter? data, nesting with
        | none, _ => .error .badFormat
        | some _, 0 => .error .tooManyLinks
        | some (name, argument), nesting + 1 =>
          load files here nesting ⟨name⟩
            (name :: argument.toList ++ path.bytes :: arguments.drop 1)
    | .ok _ => .error .denied

/-- The search path where none is set. -/
def defaultSearchPath : Bytes := Text.utf8 "/bin:/usr/bin"

/-- Errors after which the next directory is tried. -/
def isPassedOver (cause : OsError) : Bool :=
  cause == .notFound || cause == .notDirectory || cause == .denied

/-- The errors of a search, the latest last, as one: a file that may not be executed counts for
more than one that is not there. -/
def combine (old new : OsError) : OsError := if old = .denied then old else new

/-- Tries the candidates in order. -/
def loadFirst (files : FileTree) (here : Location) (arguments : List Bytes) :
    OsError → List Path → Except OsError Image
  | failure, [] => .error failure
  | failure, path :: more =>
    match load files here maxNesting path arguments with
    | .ok image => .ok image
    | .error cause =>
      if isPassedOver cause then loadFirst files here arguments (combine failure cause) more
      else .error cause

/-- The files that a program may be. -/
def candidates (searchPath : Bytes) (program : Bytes) : List Path :=
  (pieces 0x3A searchPath).map fun dir =>
    if dir.isEmpty then ⟨program⟩ else ⟨dir ++ slash :: program⟩

/-- The utility that comes to run when a program is launched; `arguments` are all but the name. -/
def ofProgram (files : FileTree) (here : Location) (searchPath : Option Bytes) (program : Path)
    (arguments : List Bytes) : Except OsError Image :=
  if 0 ∈ program.bytes || arguments.any (0 ∈ ·) then .error .zeroInArgument
  else if slash ∈ program.bytes then
    load files here maxNesting program (program.bytes :: arguments)
  else if program.bytes.isEmpty then .error .notFound
  else if FileTree.maxName < program.bytes.length then .error .nameTooLong
  else
    loadFirst files here (program.bytes :: arguments) .notFound
      (candidates (searchPath.getD defaultSearchPath) program.bytes)

end Image

end Crosscheck
