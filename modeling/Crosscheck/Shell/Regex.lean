import Crosscheck.Shell.Pattern

/-!
# Regular expressions

The expressions that line editors use, basic or extended. A match is looked for from the left; each
repetition takes as much as leads to a match. What the groups of a match hold can be referred to.
-/

namespace Crosscheck.Shell

/-- One part of an expression. -/
inductive Node where
  | char (c : Char)
  | any
  | oneOf (s : CharSet)
  | lineStart
  | lineEnd
  | group (number : Nat) (choices : List (List Node))
  | repeated (n : Node) (least : Nat) (most : Option Nat)
  | back (number : Nat)
  /-- The end of a group, with the text from its start on. -/
  | close (number : Nat) (start : Octets)

/-- What the groups hold. -/
abbrev Groups := List (Nat × Octets)

namespace Regex

def foldCase (ignoreCase : Bool) (c : Char) : Char := if ignoreCase then c.toLower else c

/-- The rest of the text after the first match of all of `todo` at its start. -/
def matchAt (ignoreCase : Bool) : Nat → List Node → Bool → Octets → Groups → Option (Octets × Groups)
  | 0, _, _, _, _ => none
  | _, [], _, text, groups => some (text, groups)
  | fuel + 1, node :: todo, first, text, groups =>
    match node with
    | .char c =>
      match text with
      | d :: rest =>
        if foldCase ignoreCase c = foldCase ignoreCase d then
          matchAt ignoreCase fuel todo false rest groups
        else none
      | [] => none
    | .any =>
      match text with
      | _ :: rest => matchAt ignoreCase fuel todo false rest groups
      | [] => none
    | .oneOf s =>
      match text with
      | d :: rest =>
        if s.holds d || (ignoreCase && (s.holds d.toLower || s.holds d.toUpper)) then
          matchAt ignoreCase fuel todo false rest groups
        else none
      | [] => none
    | .lineStart => if first then matchAt ignoreCase fuel todo first text groups else none
    | .lineEnd => if text.isEmpty then matchAt ignoreCase fuel todo first text groups else none
    | .group number choices =>
      choices.findSome? fun choice =>
        matchAt ignoreCase fuel (choice ++ .close number text :: todo) first text groups
    | .close number start =>
      matchAt ignoreCase fuel todo first text
        ((number, start.take (start.length - text.length)) :: groups)
    | .back number =>
      let held := (groups.lookup number).getD []
      if held.isPrefixOf text then
        matchAt ignoreCase fuel todo (first && held.isEmpty) (text.drop held.length) groups
      else none
    | .repeated n least most =>
      let more :=
        if most = some 0 then none
        else match matchAt ignoreCase fuel
            [n] first text groups with
          | some (rest, _) =>
            if rest.length = text.length && least = 0 then none
            else matchAt ignoreCase fuel (n :: .repeated n (least - 1) (most.map (· - 1)) :: todo)
              first text groups
          | none => none
      match more with
      | some found => some found
      | none => if least = 0 then matchAt ignoreCase fuel todo first text groups else none

/-- The parts of a text around its first match. -/
structure Found where
  before : Octets
  matched : Octets
  after : Octets
  groups : Groups

/-- Looks for a match from the left; `seen` is what has been passed, last character first. -/
def findFrom (ignoreCase : Bool) (nodes : List Node) : Octets → Octets → Option Found
  | seen, text =>
    match matchAt ignoreCase (200 * (text.length + 20)) nodes seen.isEmpty text [] with
    | some (rest, groups) =>
      some ⟨seen.reverse, text.take (text.length - rest.length), rest, groups⟩
    | none =>
      match text with
      | [] => none
      | c :: rest => findFrom ignoreCase nodes (c :: seen) rest

/-! ### Reading expressions -/

/-- A set after its opening bracket, in which a backslash stands for itself. -/
def readSet (text : Octets) : Option (CharSet × Octets) :=
  (Pattern.readOneOf (text.map (·, false))).map fun (s, rest) => (s, rest.map (·.1))

def numberAt (text : Octets) : Option Nat × Octets :=
  let digits := text.takeWhile Char.isDigit
  (if digits.isEmpty then none
    else some (digits.foldl (fun n c => n * 10 + (c.toNat - '0'.toNat)) 0), text.drop digits.length)

/-- The bounds of a repetition after its brace, up to `closing`. -/
def readBounds (closing text : Octets) : Option ((Nat × Option Nat) × Octets) :=
  match numberAt text with
  | (least, ',' :: rest) =>
    let (most, rest) := numberAt rest
    if closing.isPrefixOf rest then some ((least.getD 0, most), rest.drop closing.length) else none
  | (some n, rest) =>
    if closing.isPrefixOf rest then some ((n, some n), rest.drop closing.length) else none
  | _ => none

/-- An expression being read: finished choices, and the current one with its last part first. -/
structure Partial where
  choices : List (List Node)
  current : List Node

def Partial.close (p : Partial) : List (List Node) := p.choices ++ [p.current.reverse]

def Partial.push (p : Partial) (n : Node) : Partial := { p with current := n :: p.current }

/-- Makes the last part a repetition. -/
def Partial.repeatLast (p : Partial) (least : Nat) (most : Option Nat) : Partial :=
  match p.current with
  | n :: rest => { p with current := .repeated n least most :: rest }
  | [] => p

/-- Reads choices up to the end or a closing parenthesis; `groups` counts the groups begun. -/
def readChoices (extended : Bool) : Nat → Nat → Partial → Octets →
    Option (List (List Node) × Nat × Octets)
  | 0, _, _, _ => none
  | fuel + 1, groups, p, text =>
    let go := readChoices extended fuel
    let openGroup (rest : Octets) : Option (List (List Node) × Nat × Octets) := do
      let (inside, groups', rest) ← go (groups + 1) ⟨[], []⟩ rest
      let rest ← match extended, rest with
        | true, ')' :: rest => some rest
        | false, '\\' :: ')' :: rest => some rest
        | _, _ => none
      go groups' (p.push (.group (groups + 1) inside)) rest
    let bounded (closing rest : Octets) : Option (List (List Node) × Nat × Octets) := do
      let ((least, most), rest) ← readBounds closing rest
      go groups (p.repeatLast least most) rest
    match text with
    | [] => some (p.close, groups, [])
    | '\\' :: '(' :: rest => if extended then go groups (p.push (.char '(')) rest else openGroup rest
    | '\\' :: ')' :: rest =>
      if extended then go groups (p.push (.char ')')) rest else some (p.close, groups, text)
    | '\\' :: '\x7b' :: rest =>
      if extended then go groups (p.push (.char '\x7b')) rest else bounded ['\\', '\x7d'] rest
    | '\\' :: '|' :: rest =>
      if extended then go groups (p.push (.char '|')) rest else go groups ⟨p.close, []⟩ rest
    | '\\' :: '+' :: rest =>
      if extended then go groups (p.push (.char '+')) rest
      else go groups (p.repeatLast 1 none) rest
    | '\\' :: '?' :: rest =>
      if extended then go groups (p.push (.char '?')) rest
      else go groups (p.repeatLast 0 (some 1)) rest
    | '\\' :: 'n' :: rest => go groups (p.push (.char '\n')) rest
    | '\\' :: 't' :: rest => go groups (p.push (.char '\t')) rest
    | '\\' :: c :: rest =>
      if '1' ≤ c && c ≤ '9' then go groups (p.push (.back (c.toNat - '0'.toNat))) rest
      else go groups (p.push (.char c)) rest
    | '.' :: rest => go groups (p.push .any) rest
    | '[' :: rest => do
      let (s, rest) ← readSet rest
      go groups (p.push (.oneOf s)) rest
    | '*' :: rest =>
      if p.current.isEmpty && !extended then go groups (p.push (.char '*')) rest
      else match p.current with
        | [.lineStart] => if extended then go groups p rest else go groups (p.push (.char '*')) rest
        | _ => go groups (p.repeatLast 0 none) rest
    | '^' :: rest =>
      if p.current.isEmpty || extended then go groups (p.push .lineStart) rest
      else go groups (p.push (.char '^')) rest
    | '$' :: rest =>
      if rest.isEmpty || extended || ['\\', ')'].isPrefixOf rest || ['\\', '|'].isPrefixOf rest then
        go groups (p.push .lineEnd) rest
      else go groups (p.push (.char '$')) rest
    | c :: rest =>
      if extended then
        if c = '(' then openGroup rest
        else if c = ')' && groups ≠ 0 then some (p.close, groups, text)
        else if c = '|' then go groups ⟨p.close, []⟩ rest
        else if c = '+' then go groups (p.repeatLast 1 none) rest
        else if c = '?' then go groups (p.repeatLast 0 (some 1)) rest
        else if c = '\x7b' then bounded ['\x7d'] rest
        else go groups (p.push (.char c)) rest
      else go groups (p.push (.char c)) rest

/-- Reads an expression; group zero is the whole match. -/
def read (extended : Bool) (text : Octets) : Option (List Node) :=
  match readChoices extended (text.length + 1) 0 ⟨[], []⟩ text with
  | some ([single], _, []) => some single
  | some (choices, _, []) => some [.group 0 choices]
  | _ => none

end Regex

end Crosscheck.Shell
