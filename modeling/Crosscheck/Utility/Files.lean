import Crosscheck.Utility.Basic

/-!
# Utilities on files

Making, copying, moving and removing files, and changing their modes.
-/

namespace Crosscheck.Utility

def quoted (operand : Octets) : String := "'" ++ shown operand ++ "'"

/-- The last name of an operand. -/
def baseName (operand : Octets) : Octets :=
  let trimmed := (operand.reverse.dropWhile (· == '/')).reverse
  if trimmed.isEmpty then (if operand.isEmpty then [] else ['/'])
  else (trimmed.reverse.takeWhile (· ≠ '/')).reverse

/-- An operand without its last name. -/
def dirName (operand : Octets) : Octets :=
  let trimmed := (operand.reverse.dropWhile (· == '/'))
  if trimmed.isEmpty then (if operand.isEmpty then ['.'] else ['/'])
  else
    let dir := (trimmed.dropWhile (· ≠ '/'))
    if dir.isEmpty then ['.']
    else
      let dir := (dir.dropWhile (· == '/')).reverse
      if dir.isEmpty then ['/'] else dir

/-- A name in a directory. -/
def inDir (dir name : Octets) : Octets :=
  if dir.getLast? = some '/' then dir ++ name else dir ++ '/' :: name

/-- Applies a change to each operand; one that fails is complained about with `complaint`. -/
def overFiles (name : String) (change : Octets → Process → Except OsError FileTree)
    (complaint : Octets → String) (operands : List Octets) (p : Process) : Nat × Process :=
  operands.foldl (fun (code, p) operand =>
    match change operand p with
    | .ok files => (code, p.withFiles files)
    | .error cause => (1, complain name (complaint operand ++ ": " ++ reason cause) p)) (0, p)

def isDir (operand : Octets) (p : Process) : Bool := p.files.isDirectory p.here (pathOf operand)

def mkdir : Utility := fun args p =>
  let (flags, operands) := takeFlags ['p', 'v'] args []
  if operands.isEmpty then (1, complainUsage "mkdir" "missing operand" p)
  else overFiles "mkdir" (fun operand p =>
    if 'p' ∈ flags then p.files.makeDirectories p.here (pathOf operand)
    else p.files.makeDirectory p.here (pathOf operand))
    (fun operand => "cannot create directory " ++ quoted operand) operands p

def rmdir : Utility := fun args p =>
  let (_, operands) := takeFlags ['p', 'v'] args []
  if operands.isEmpty then (1, complainUsage "rmdir" "missing operand" p)
  else overFiles "rmdir" (fun operand p => p.files.removeDirectory p.here (pathOf operand))
    (fun operand => "failed to remove " ++ quoted operand) operands p

def rm : Utility := fun args p =>
  let (flags, operands) := takeFlags ['r', 'R', 'f', 'v', 'd'] args []
  let recursive := 'r' ∈ flags || 'R' ∈ flags
  let forced := 'f' ∈ flags
  if operands.isEmpty then
    if forced then (0, p) else (1, complainUsage "rm" "missing operand" p)
  else overFiles "rm" (fun operand p =>
    let path := pathOf operand
    let change := if recursive then p.files.removeTree p.here path else p.files.removeFile p.here path
    match change with
    | .error .notFound => if forced then .ok p.files else .error .notFound
    | .error .notDirectory => if forced then .ok p.files else .error .notDirectory
    | other => other)
    (fun operand => "cannot remove " ++ quoted operand) operands p

def touch : Utility := fun args p =>
  let (flags, operands) := takeFlags ['a', 'm', 'c'] args []
  if operands.isEmpty then (1, complainUsage "touch" "missing file operand" p)
  else overFiles "touch" (fun operand p =>
    if p.files.isPresent p.here (pathOf operand) || 'c' ∈ flags then .ok p.files
    else p.files.write p.here (pathOf operand) [] false)
    (fun operand => "cannot touch " ++ quoted operand) operands p

/-- What a mode makes of whether a file may be executed. -/
def applyMode? (mode : Octets) (old : Bool) : Option Bool :=
  if !mode.isEmpty && mode.all Char.isDigit then
    if mode.all fun c => c ≤ '7' then
      some ((mode.reverse.take 3).any fun c => (c.toNat - '0'.toNat) % 2 == 1)
    else none
  else
    (pieces ',' mode).foldlM (fun old clause =>
      let who := clause.takeWhile fun c => c ∈ ['u', 'g', 'o', 'a']
      match clause.drop who.length with
      | op :: bits =>
        if !bits.all (· ∈ ['r', 'w', 'x', 'X', 's', 't']) then none
        else
          let everyone := who.isEmpty || 'a' ∈ who || who.length ≥ 3
          let executes := 'x' ∈ bits || ('X' ∈ bits && old)
          if op = '+' then some (old || executes)
          else if op = '-' then some (old && !(executes && everyone))
          else if op = '=' then some (executes || (old && !everyone))
          else none
      | [] => none) old

def chmod : Utility := fun args p =>
  let args := args.dropWhile fun a => a ∈ [['-', 'R'], ['-', 'f'], ['-', 'v'], ['-', '-']]
  match args with
  | mode :: operand :: more =>
    match applyMode? mode false with
    | none => (1, complainUsage "chmod" ("invalid mode: " ++ quoted mode) p)
    | some _ => overFiles "chmod" (fun operand p =>
        match p.files.entry p.here true (pathOf operand) with
        | .ok (l, .file data old) =>
          .ok (p.files.insert l (.file data ((applyMode? mode old).getD old)))
        | .ok _ => .ok p.files
        | .error cause => .error cause)
        (fun operand => "cannot access " ++ quoted operand) (operand :: more) p
  | [mode] => (1, complainUsage "chmod" ("missing operand after " ++ quoted mode) p)
  | [] => (1, complainUsage "chmod" "missing operand" p)

/-! ### Copying -/

/-- Copies one file to a path that names a file or nothing. -/
def copyFile (source target : Octets) (p : Process) : Except String Process :=
  let cannotStat := "cannot stat " ++ quoted source ++ ": "
  match p.files.entry p.here true (pathOf source) with
  | .error cause => .error (cannotStat ++ reason cause)
  | .ok (_, .directory) => .error ("-r not specified; omitting directory " ++ quoted source)
  | .ok (l, e) =>
    let (data, mode) := match e with
      | .file data mode => (data, mode)
      | _ => ([], false)
    match p.files.entry p.here true (pathOf target) with
    | .ok (l', .file ..) =>
      if l = l' then .error (quoted source ++ " and " ++ quoted target ++ " are the same file")
      else match p.files.write p.here (pathOf target) data mode with
        | .ok files => .ok (p.withFiles files)
        | .error cause => .error ("cannot create regular file " ++ quoted target ++ ": " ++ reason cause)
    | _ =>
      match p.files.write p.here (pathOf target) data mode with
      | .ok files => .ok (p.withFiles files)
      | .error cause => .error ("cannot create regular file " ++ quoted target ++ ": " ++ reason cause)

/-- Copies all that lies below a directory. -/
def copyTree (source target : Location) (files : FileTree) : FileTree :=
  (files.below source).foldl (fun files (names, e) => files.insert (target ++ names) e)
    (files.insert target .directory)

/-- Copies a file, or a directory if that is asked for. -/
def copyAny (recursive : Bool) (source target : Octets) (p : Process) : Except String Process :=
  match recursive, p.files.entry p.here true (pathOf source) with
  | true, .ok (l, .directory) =>
    match p.files.locate p.here true (pathOf target) with
    | .ok (.vacant parent name) => .ok (p.withFiles (copyTree l (parent ++ [name]) p.files))
    | .ok (.found l' .directory) => .ok (p.withFiles (copyTree l l' p.files))
    | .ok _ => .error ("cannot overwrite non-directory " ++ quoted target ++ " with directory " ++
        quoted source)
    | .error cause => .error ("cannot create directory " ++ quoted target ++ ": " ++ reason cause)
  | _, _ => copyFile source target p

/-- Where a source goes: into the target if that is a directory. -/
def destination (source target : Octets) (p : Process) : Octets :=
  if isDir target p then inDir target (baseName source) else target

/-- Does something with each source and the last operand, which must be a directory if there are
several sources. -/
def ontoLast (name : String) (act : Octets → Octets → Process → Except String Process)
    (operands : List Octets) (p : Process) : Nat × Process :=
  match operands.reverse with
  | [] => (1, complainUsage name "missing file operand" p)
  | [only] => (1, complainUsage name ("missing destination file operand after " ++ quoted only) p)
  | target :: sources =>
    if 1 < sources.length && !isDir target p then
      (1, complain name ("target " ++ quoted target ++ ": No such file or directory") p)
    else sources.reverse.foldl (fun (code, p) source =>
      match act source (destination source target p) p with
      | .ok p => (code, p)
      | .error message => (1, complain name message p)) (0, p)

def cp : Utility := fun args p =>
  let (flags, operands) := takeFlags ['r', 'R', 'a', 'f', 'p', 'v', 'L', 'P', 'd'] args []
  ontoLast "cp" (copyAny ('r' ∈ flags || 'R' ∈ flags || 'a' ∈ flags)) operands p

/-- Moves whatever a path leads to. -/
def moveOne (source target : Octets) (p : Process) : Except String Process :=
  match p.files.entry p.here false (pathOf source) with
  | .error cause => .error ("cannot stat " ++ quoted source ++ ": " ++ reason cause)
  | .ok (l, e) =>
    let place : Except OsError Location :=
      match p.files.locate p.here false (pathOf target) with
      | .ok (.vacant parent name) => .ok (parent ++ [name])
      | .ok (.found l' _) => .ok l'
      | .error cause => .error cause
    match place with
    | .error cause => .error ("cannot move " ++ quoted source ++ " to " ++ quoted target ++ ": " ++
        reason cause)
    | .ok l' =>
      if l = l' then
        .error (quoted source ++ " and " ++ quoted target ++ " are the same file")
      else if l.isPrefixOf l' then
        .error ("cannot move " ++ quoted source ++ " to a subdirectory of itself, " ++ quoted target)
      else
        let below := p.files.below l
        let files := (p.files.eraseBelow l).insert l' e
        .ok (p.withFiles (below.foldl (fun files (names, e) => files.insert (l' ++ names) e) files))

def mv : Utility := fun args p =>
  let (_, operands) := takeFlags ['f', 'v', 'n'] args []
  ontoLast "mv" moveOne operands p

/-- Makes a link, or a second copy of a file. -/
def linkOne (symbolic forced : Bool) (source target : Octets) (p : Process) : Except String Process :=
  let files := match forced, p.files.removeFile p.here (pathOf target) with
    | true, .ok files => files
    | _, _ => p.files
  if symbolic then
    match files.makeLink p.here (pathOf target) (pathOf source) with
    | .ok files => .ok (p.withFiles files)
    | .error cause => .error ("failed to create symbolic link " ++ quoted target ++ ": " ++ reason cause)
  else match files.entry p.here false (pathOf source) with
    | .error cause => .error ("failed to access " ++ quoted source ++ ": " ++ reason cause)
    | .ok (_, .directory) => .error (quoted source ++ ": hard link not allowed for directory")
    | .ok (_, e) =>
      match files.locate p.here false (pathOf target) with
      | .ok (.vacant parent name) => .ok (p.withFiles (files.insert (parent ++ [name]) e))
      | .ok _ => .error ("failed to create hard link " ++ quoted target ++ ": File exists")
      | .error cause => .error ("failed to create hard link " ++ quoted target ++ ": " ++ reason cause)

def ln : Utility := fun args p =>
  let (flags, operands) := takeFlags ['s', 'f', 'n', 'v'] args []
  let operands := match operands with
    | [source] => [source, baseName source]
    | other => other
  ontoLast "ln" (linkOne ('s' ∈ flags) ('f' ∈ flags)) operands p

/-! ### Listing -/

def ls : Utility := fun args p =>
  let (flags, operands) := takeFlags ['1', 'a', 'A', 'd'] args []
  let operands := if operands.isEmpty then [['.']] else operands
  operands.foldl (fun (code, p) operand =>
    match p.files.entry p.here true (pathOf operand) with
    | .error cause => (2, complain "ls" ("cannot access " ++ quoted operand ++ ": " ++ reason cause) p)
    | .ok (l, .directory) =>
      if 'd' ∈ flags then (code, put 1 (operand ++ ['\n']) p)
      else
        let names := (p.files.children l).map fun c => Text.octets c.1
        let hidden := if 'a' ∈ flags then [['.'], ['.', '.']] else []
        let visible := names.filter fun n => 'a' ∈ flags || 'A' ∈ flags || n.head? ≠ some '.'
        let title := if 1 < operands.length then operand ++ [':', '\n'] else []
        (code, put 1 (title ++ (hidden ++ visible).flatMap (· ++ ['\n'])) p)
    | .ok _ => (code, put 1 (operand ++ ['\n']) p)) (0, p)

def basename : Utility := fun args p =>
  match args with
  | [operand] => (0, put 1 (baseName operand ++ ['\n']) p)
  | [operand, ending] =>
    let base := baseName operand
    let cut := if base ≠ ending && ending.isSuffixOf base then base.take (base.length - ending.length)
      else base
    (0, put 1 (cut ++ ['\n']) p)
  | _ => (1, complainUsage "basename" "missing operand" p)

def dirname : Utility := fun args p =>
  if args.isEmpty then (1, complainUsage "dirname" "missing operand" p)
  else (0, put 1 (args.flatMap fun a => dirName a ++ ['\n']) p)

end Crosscheck.Utility
