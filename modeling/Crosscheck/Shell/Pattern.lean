import Crosscheck.Text.Octets

/-!
# Patterns of the shell

A pattern matches whole texts: a star stands for any text, a question mark for any character, and
brackets for one character of a set. A quoted character stands for itself.
-/

namespace Crosscheck.Shell

/-- The characters of a set, as ranges. -/
structure CharSet where
  negated : Bool
  ranges : List (Char × Char)
  deriving DecidableEq, Repr

def CharSet.holds (s : CharSet) (c : Char) : Bool :=
  (s.ranges.any fun r => r.1 ≤ c && c ≤ r.2) != s.negated

inductive Matcher where
  | char (c : Char)
  | any
  | star
  | oneOf (s : CharSet)
  deriving DecidableEq, Repr

abbrev Pattern := List Matcher

/-- The ends of a text, the whole text first. -/
def ends : Octets → List Octets
  | [] => [[]]
  | c :: cs => (c :: cs) :: ends cs

namespace Pattern

def matchesText : Pattern → Octets → Bool
  | [], text => text.isEmpty
  | .star :: rest, text => (ends text).any (matchesText rest)
  | .any :: rest, text =>
    match text with
    | _ :: more => matchesText rest more
    | [] => false
  | .char c :: rest, text =>
    match text with
    | d :: more => c == d && matchesText rest more
    | [] => false
  | .oneOf s :: rest, text =>
    match text with
    | d :: more => s.holds d && matchesText rest more
    | [] => false

/-- The named classes of characters. -/
def classRanges (name : Octets) : List (Char × Char) :=
  let lower := ('a', 'z')
  let upper := ('A', 'Z')
  let digit := ('0', '9')
  match String.ofList name with
  | "alpha" => [lower, upper]
  | "lower" => [lower]
  | "upper" => [upper]
  | "digit" => [digit]
  | "alnum" => [lower, upper, digit]
  | "xdigit" => [('a', 'f'), ('A', 'F'), digit]
  | "space" => [('\t', '\r'), (' ', ' ')]
  | "blank" => [('\t', '\t'), (' ', ' ')]
  | "cntrl" => [('\x00', '\x1f'), ('\x7f', '\x7f')]
  | "print" => [(' ', '~')]
  | "graph" => [('!', '~')]
  | "punct" => [('!', '/'), (':', '@'), ('[', '\x60'), ('\x7b', '~')]
  | _ => []

/-- The ranges of a set up to its closing bracket, and what follows it. `first` says that a bracket
stands for itself. -/
def readSet : Nat → Bool → List (Char × Char) → List (Char × Bool) →
    Option (List (Char × Char) × List (Char × Bool))
  | 0, _, _, _ => none
  | fuel + 1, first, seen, text =>
    match text with
    | [] => none
    | (']', false) :: rest => if first then readTail fuel ']' seen rest else some (seen, rest)
    | ('[', false) :: (':', _) :: rest =>
      let name := (rest.map (·.1)).takeWhile Char.isAlpha
      match rest.drop name.length with
      | (':', _) :: (']', _) :: more => readSet fuel false (seen ++ classRanges name) more
      | _ => readTail fuel '[' seen ((':', false) :: rest)
    | (c, _) :: rest => readTail fuel c seen rest
where
  /-- What follows the first character of a range or a single character. -/
  readTail (fuel : Nat) (c : Char) (seen : List (Char × Char)) (rest : List (Char × Bool)) :
      Option (List (Char × Char) × List (Char × Bool)) :=
    match rest with
    | ('-', false) :: (d, q) :: more =>
      if d = ']' && !q then readSet fuel false (seen ++ [(c, c)]) rest
      else readSet fuel false (seen ++ [(c, d)]) more
    | _ => readSet fuel false (seen ++ [(c, c)]) rest

/-- A set after its opening bracket, and what follows it. -/
def readOneOf (text : List (Char × Bool)) : Option (CharSet × List (Char × Bool)) :=
  let (negated, body) := match text with
    | ('!', false) :: rest => (true, rest)
    | ('^', false) :: rest => (true, rest)
    | _ => (false, text)
  (readSet (body.length + 1) true [] body).map fun (ranges, rest) => (⟨negated, ranges⟩, rest)

/-- Reads a pattern from characters, each quoted or not. -/
def read : Nat → List (Char × Bool) → Pattern
  | 0, _ => []
  | _, [] => []
  | fuel + 1, (c, quoted) :: rest =>
    if quoted then .char c :: read fuel rest
    else if c = '*' then .star :: read fuel rest
    else if c = '?' then .any :: read fuel rest
    else if c = '[' then
      match readOneOf rest with
      | some (s, more) => .oneOf s :: read fuel more
      | none => .char c :: read fuel rest
    else if c = '\\' then
      match rest with
      | (d, _) :: more => .char d :: read fuel more
      | [] => [.char c]
    else .char c :: read fuel rest

def ofChars (text : List (Char × Bool)) : Pattern := read (text.length + 1) text

/-- Whether unquoted characters make the text more than itself. -/
def isWild (text : List (Char × Bool)) : Bool :=
  text.any fun (c, quoted) => !quoted && (c == '*' || c == '?' || c == '[')

/-- The text without its shortest or longest start that matches. -/
def cutStart (p : Pattern) (longest : Bool) (text : Octets) : Octets :=
  let lengths := List.range (text.length + 1)
  match (if longest then lengths.reverse else lengths).find? fun n => p.matchesText (text.take n) with
  | some n => text.drop n
  | none => text

/-- The text without its shortest or longest end that matches. -/
def cutEnd (p : Pattern) (longest : Bool) (text : Octets) : Octets :=
  let lengths := List.range (text.length + 1)
  match (if longest then lengths else lengths.reverse).find? fun n => p.matchesText (text.drop n) with
  | some n => text.take n
  | none => text

end Pattern

end Crosscheck.Shell
