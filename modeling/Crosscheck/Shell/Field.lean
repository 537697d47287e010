import Crosscheck.Files.Place
import Crosscheck.Shell.Pattern

/-!
# Fields

Once everything in a word has been put in place it is a row of glyphs: characters, breaks between
fields, and marks of empty quotations. The characters that came in without quotes are where the row
is split; a field with unquoted signs of a pattern then stands for the paths that match it.
-/

namespace Crosscheck.Shell

inductive Glyph where
  /-- `splits` says that the character may separate fields. -/
  | char (c : Char) (quoted splits : Bool)
  /-- A break between fields. -/
  | gap
  /-- Keeps a field that is empty. -/
  | mark
  deriving DecidableEq, Repr

namespace Glyph

def ofText (text : Octets) (quoted splits : Bool) : List Glyph :=
  text.map fun c => .char c quoted splits

/-- The characters, each with whether it is quoted, and a blank for each break. -/
def chars (gs : List Glyph) : List (Char × Bool) :=
  gs.filterMap fun
    | .char c quoted _ => some (c, quoted)
    | .gap => some (' ', true)
    | .mark => none

def text (gs : List Glyph) : Octets := (chars gs).map (·.1)

end Glyph

abbrev Field := List (Char × Bool)

namespace Field

/-- Fields that have been split off, and what is known of the one that follows. -/
structure Split where
  /-- The fields, the last first. -/
  fields : List Field
  /-- The current field, its last character first. -/
  current : Option Field
  /-- Whether blanks have ended a field, so that a separator after them adds none. -/
  afterBlank : Bool

def Split.finish (s : Split) : List Field :=
  match s.current with
  | some f => f.reverse :: s.fields
  | none => s.fields

def isBlank (c : Char) : Bool := c == ' ' || c == '\t' || c == '\n'

/-- One glyph more; `separators` are the characters that separate fields. -/
def Split.next (separators : Octets) (s : Split) : Glyph → Split
  | .gap => ⟨s.finish, none, false⟩
  | .mark => { s with current := some (s.current.getD []), afterBlank := false }
  | .char c quoted splits =>
    if splits && c ∈ separators then
      if isBlank c then ⟨s.finish, none, s.current.isSome || s.afterBlank⟩
      else match s.current with
        | some f => ⟨f.reverse :: s.fields, none, false⟩
        | none => ⟨if s.afterBlank then s.fields else [] :: s.fields, none, false⟩
    else ⟨s.fields, some ((c, quoted) :: s.current.getD []), false⟩

def split (separators : Octets) (gs : List Glyph) : List Field :=
  (gs.foldl (Split.next separators) ⟨[], none, false⟩).finish.reverse

def text (f : Field) : Octets := f.map (·.1)

/-! ### Paths that match -/

/-- The parts of a field between slashes; a run of slashes is kept with the part before it. -/
def parts (f : Field) : List (Field × Nat) :=
  f.foldr (fun (c, q) parts =>
    if c = '/' then
      match parts with
      | ([], n) :: rest => ([], n + 1) :: rest
      | parts => ([], 1) :: parts
    else match parts with
      | (part, n) :: rest => ((c, q) :: part, n) :: rest
      | [] => [([(c, q)], 0)]) []

/-- The names in a directory that match a part, sorted. A dot in front has to be matched by itself. -/
def matchingNames (files : FileTree) (l : Location) (part : Field) : List Octets :=
  let pattern := Pattern.ofChars part
  let wantsDot := (part.head?.map (·.1)) = some '.'
  let names := (files.children l).map fun c => Text.octets c.1
  let names := if wantsDot then ['.'] :: ['.', '.'] :: names else names
  names.filter fun n => (wantsDot || n.head? ≠ some '.') && pattern.matchesText n

/-- The paths that match the parts, each after the text `before`. -/
def matching (files : FileTree) (here : Location) : Octets → List (Field × Nat) → List Octets
  | before, [] => if before.isEmpty then [] else [before]
  | before, (part, slashes) :: rest =>
    let ending := List.replicate slashes '/'
    let pathOf (text : Octets) : Path := ⟨Text.ofOctets (if text.isEmpty then ['.'] else text)⟩
    if Pattern.isWild part then
      match files.entry here true (pathOf before) with
      | .ok (l, .directory) =>
        (matchingNames files l part).flatMap fun n =>
          if slashes = 0 || files.isDirectory here (pathOf (before ++ n)) then
            matching files here (before ++ n ++ ending) rest
          else []
      | _ => []
    else
      let before := before ++ text part ++ ending
      if rest.isEmpty then
        match files.entry here false (pathOf before) with
        | .ok _ => [before]
        | .error _ => []
      else matching files here before rest

/-- The texts that a field stands for: the paths that match it in order, or itself. -/
def expand (files : FileTree) (here : Location) (f : Field) : List Octets :=
  if Pattern.isWild f then
    match matching files here [] (parts f) with
    | [] => [text f]
    | paths => paths.mergeSort fun a b => !(b < a)
  else [text f]

end Field

end Crosscheck.Shell
