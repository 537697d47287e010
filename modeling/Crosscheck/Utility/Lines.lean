import Crosscheck.Shell.Regex
import Crosscheck.Utility.Basic

/-!
# Editing lines

The line editor `sed`: a script of commands, each for the lines that its addresses choose, is run
on every line of the input. Unless that is turned off, the line is written at the end of the script.
A last line without a line feed is written without one.
-/

namespace Crosscheck.Utility.Lines

open Shell (Node Regex.Found)

inductive Address where
  | line (n : Nat)
  | last
  | holds (ignoreCase : Bool) (nodes : List Node)

/-- Which lines a command is for. -/
inductive Choice where
  | all
  | one (a : Address)
  | between (first second : Address)

/-- A part of what is put in place of a match. -/
inductive Part where
  | char (c : Char)
  | group (number : Nat)

structure Substitution where
  nodes : List Node
  parts : List Part
  ignoreCase : Bool
  /-- The first match that is replaced, counted from one. -/
  first : Nat
  /-- Whether the matches after it are replaced, too. -/
  global : Bool
  prints : Bool

inductive Action where
  | substitute (s : Substitution)
  | translate (pairs : List (Char × Char))
  | print
  | delete
  | quit (code : Nat)
  | number
  /-- Skips as many of the next commands. -/
  | skip (count : Nat)

structure Command where
  choice : Choice
  negated : Bool
  action : Action

/-! ### Reading scripts -/

/-- Text up to a separator without a backslash; a separator behind a backslash stands for itself. -/
def upTo (separator : Char) : Octets → Octets → Option (Octets × Octets)
  | _, [] => none
  | seen, '\\' :: c :: rest =>
    if c = separator then upTo separator (c :: seen) rest
    else upTo separator (c :: '\\' :: seen) rest
  | seen, c :: rest => if c = separator then some (seen.reverse, rest) else upTo separator (c :: seen) rest

/-- An expression up to a separator, which may also stand in brackets. -/
def upToOutside (separator : Char) : Nat → Octets → Octets → Option (Octets × Octets)
  | 0, _, _ => none
  | _, _, [] => none
  | fuel + 1, seen, '\\' :: c :: rest =>
    if c = separator then upToOutside separator fuel (c :: seen) rest
    else upToOutside separator fuel (c :: '\\' :: seen) rest
  | fuel + 1, seen, '[' :: rest =>
    match Shell.Regex.readSet rest with
    | some (_, after) =>
      let inside := rest.take (rest.length - after.length)
      upToOutside separator fuel (inside.reverse ++ '[' :: seen) after
    | none => upToOutside separator fuel ('[' :: seen) rest
  | fuel + 1, seen, c :: rest =>
    if c = separator then some (seen.reverse, rest) else upToOutside separator fuel (c :: seen) rest

def expression (separator : Char) (text : Octets) : Option (Octets × Octets) :=
  upToOutside separator (text.length + 1) [] text

def parts : Octets → List Part
  | '\\' :: c :: rest =>
    if c.isDigit then .group (c.toNat - '0'.toNat) :: parts rest
    else if c = 'n' then .char '\n' :: parts rest
    else if c = 't' then .char '\t' :: parts rest
    else .char c :: parts rest
  | '&' :: rest => .group 0 :: parts rest
  | c :: rest => .char c :: parts rest
  | [] => []

def number? (text : Octets) : Option (Nat × Octets) :=
  let digits := text.takeWhile Char.isDigit
  (natural? digits).map (·, text.drop digits.length)

def address? (extended : Bool) (text : Octets) : Option (Option Address × Octets) :=
  match text with
  | '$' :: rest => some (some .last, rest)
  | '/' :: rest => do
    let (e, rest) ← expression '/' rest
    let nodes ← Shell.Regex.read extended e
    match rest with
    | 'I' :: rest => return (some (.holds true nodes), rest)
    | _ => return (some (.holds false nodes), rest)
  | _ =>
    match number? text with
    | some (n, rest) => some (some (.line n), rest)
    | none => some (none, text)

def choice? (extended : Bool) (text : Octets) : Option (Choice × Octets) := do
  match ← address? extended text with
  | (none, rest) => return (.all, rest)
  | (some a, ',' :: rest) =>
    match ← address? extended (rest.dropWhile (· == ' ')) with
    | (some b, rest) => return (.between a b, rest)
    | (none, _) => none
  | (some a, rest) => return (.one a, rest)

/-- The flags of a substitution. -/
def takeSubstitutionFlags : Octets → Substitution → Substitution × Octets
  | [], s => (s, [])
  | c :: rest, s =>
    if c = 'g' then takeSubstitutionFlags rest { s with global := true }
    else if c = 'p' then takeSubstitutionFlags rest { s with prints := true }
    else if c = 'i' || c = 'I' then takeSubstitutionFlags rest { s with ignoreCase := true }
    else if c.isDigit then
      takeSubstitutionFlags rest { s with first := c.toNat - '0'.toNat }
    else (s, c :: rest)

def isBetween (c : Char) : Bool := c == ' ' || c == '\t' || c == '\n' || c == ';'

/-- Reads commands up to the end or a closing brace. -/
def readCommands (extended : Bool) : Nat → Octets → Option (List Command × Octets)
  | 0, _ => none
  | fuel + 1, text => do
    match text.dropWhile isBetween with
    | [] => return ([], [])
    | '\x7d' :: rest => return ([], '\x7d' :: rest)
    | '#' :: rest => readCommands extended fuel (rest.dropWhile (· ≠ '\n'))
    | text =>
      let (choice, rest) ← choice? extended text
      let rest := rest.dropWhile (· == ' ')
      let (negated, rest) := match rest with
        | '!' :: rest => (true, rest.dropWhile (· == ' '))
        | _ => (false, rest)
      let simple (a : Action) (rest : Octets) : Option (List Command × Octets) := do
        let (more, rest) ← readCommands extended fuel rest
        return (⟨choice, negated, a⟩ :: more, rest)
      match rest with
      | 'p' :: rest => simple .print rest
      | 'd' :: rest => simple .delete rest
      | '=' :: rest => simple .number rest
      | 'q' :: rest =>
        match number? (rest.dropWhile (· == ' ')) with
        | some (n, rest) => simple (.quit n) rest
        | none => simple (.quit 0) rest
      | 's' :: separator :: rest =>
        let (e, rest) ← expression separator rest
        let (replacement, rest) ← upTo separator [] rest
        let nodes ← Shell.Regex.read extended e
        let (s, rest) := takeSubstitutionFlags rest ⟨nodes, parts replacement, false, 1, false, false⟩
        simple (.substitute s) rest
      | 'y' :: separator :: rest =>
        let (a, rest) ← upTo separator [] rest
        let (b, rest) ← upTo separator [] rest
        if a.length = b.length then simple (.translate (a.zip b)) rest else none
      | '\x7b' :: rest =>
        let (inner, rest) ← readCommands extended fuel rest
        match rest with
        | '\x7d' :: rest =>
          let (more, rest) ← readCommands extended fuel rest
          return (⟨choice, !negated, .skip inner.length⟩ :: inner ++ more, rest)
        | _ => none
      | _ => none

def readScript (extended : Bool) (text : Octets) : Option (List Command) :=
  match readCommands extended (text.length + 1) text with
  | some (commands, []) => some commands
  | _ => none

/-! ### Running scripts -/

def fill (parts : List Part) (found : Shell.Regex.Found) : Octets :=
  parts.flatMap fun
    | .char c => [c]
    | .group 0 => found.matched
    | .group n => (found.groups.lookup n).getD []

/-- Replaces matches from a point on, if there is one to replace; `count` is the number of the next
match. Right after a match (`follows`) an empty match does not count. -/
def replaceFrom (s : Substitution) : Nat → Nat → Bool → Octets → Octets → Option Octets
  | 0, _, _, _, _ => none
  | fuel + 1, count, follows, passed, text =>
    match Shell.Regex.findFrom s.ignoreCase s.nodes passed text with
    | none => none
    | some found =>
      let before := found.before.drop passed.length
      if follows && before.isEmpty && found.matched.isEmpty then
        match text with
        | [] => none
        | c :: rest => (replaceFrom s fuel count false (c :: passed) rest).map (c :: ·)
      else
      let wanted := s.first ≤ count
      let new := if wanted then fill s.parts found else found.matched
      let seen := (found.before ++ found.matched).reverse
      let goOn : Option Octets :=
        if wanted && !s.global then none
        else match found.matched, found.after with
          | [], [] => none
          | [], c :: rest => (replaceFrom s fuel (count + 1) false (c :: seen) rest).map (c :: ·)
          | _, after => replaceFrom s fuel (count + 1) true seen after
      match goOn with
      | some rest => some (before ++ new ++ rest)
      | none => if wanted then some (before ++ new ++ found.after) else none

structure State where
  /-- What has been written, the latest first. -/
  out : List Octets
  /-- Whether the last line written still lacks its line feed. -/
  owes : Bool
  line : Octets
  hasEnd : Bool
  number : Nat
  isLast : Bool
  /-- Which ranges have begun, by the position of their command. -/
  begun : List Nat

/-- Writes a line. -/
def State.emit (s : State) (line : Octets) (hasEnd : Bool) : State :=
  let out := if s.owes then ['\n'] :: s.out else s.out
  { s with out := (if hasEnd then line ++ ['\n'] else line) :: out, owes := !hasEnd }

def Address.covers (a : Address) (s : State) : Bool :=
  match a with
  | .line n => s.number == n
  | .last => s.isLast
  | .holds ignoreCase nodes => (Shell.Regex.findFrom ignoreCase nodes [] s.line).isSome

/-- Whether a command is for the current line; a range may begin or end here. -/
def Choice.covers (c : Choice) (position : Nat) (s : State) : Bool × State :=
  match c with
  | .all => (true, s)
  | .one a => (a.covers s, s)
  | .between first second =>
    let isOver : Bool := match second with
      | .line n => n ≤ s.number
      | other => other.covers s
    if position ∈ s.begun then
      let covered := match second with
        | .line n => s.number ≤ n
        | _ => true
      (covered, if isOver then { s with begun := s.begun.erase position } else s)
    else if first.covers s then
      match second with
      | .line n => (true, if n ≤ s.number then s else { s with begun := position :: s.begun })
      | _ => (true, { s with begun := position :: s.begun })
    else (false, s)

/-- How the script ends for a line. -/
inductive Ending where
  | done
  | deleted
  | quits (code : Nat)
  deriving DecidableEq, Repr

/-- Runs commands on the current line; `skipped` commands are left out. -/
def runCommands : List Command → Nat → Nat → State → Ending × State
  | [], _, _, s => (.done, s)
  | _ :: more, position, skipped + 1, s => runCommands more (position + 1) skipped s
  | c :: more, position, 0, s =>
    let (covered, s) := c.choice.covers position s
    let goOn (s : State) : Ending × State := runCommands more (position + 1) 0 s
    if covered == c.negated then goOn s
    else match c.action with
      | .print => goOn (s.emit s.line s.hasEnd)
      | .number => goOn (s.emit (toString s.number).toList true)
      | .delete => (.deleted, s)
      | .quit code => (.quits code, s)
      | .skip count => runCommands more (position + 1) count s
      | .translate pairs => goOn { s with line := s.line.map fun c => (pairs.lookup c).getD c }
      | .substitute e =>
        match replaceFrom e (2 * s.line.length + 2) 1 false [] s.line with
        | none => goOn s
        | some line =>
          let s := { s with line := line }
          goOn (if e.prints then s.emit s.line s.hasEnd else s)

/-- Runs a script on lines, each with whether it ends in a line feed. -/
def runLines (commands : List Command) (quiet : Bool) :
    List (Octets × Bool) → State → Nat × State
  | [], s => (0, s)
  | (line, hasEnd) :: rest, s =>
    let s := { s with line, hasEnd, number := s.number + 1, isLast := rest.isEmpty }
    let (ending, s) := runCommands commands 0 0 s
    let shown : State := if quiet then s else s.emit s.line s.hasEnd
    match ending with
    | .done => runLines commands quiet rest shown
    | .deleted => runLines commands quiet rest s
    | .quits code => (code, shown)

/-- The lines of data, each with whether it ends in a line feed. -/
def linesOf (data : Bytes) : List (Octets × Bool) :=
  (lineBytes data).map fun line =>
    if line.getLast? = some newline then (Text.octets line.dropLast, true)
    else (Text.octets line, false)

end Lines

/-- The options of the line editor. -/
structure EditOptions where
  quiet : Bool
  extended : Bool
  /-- The scripts given by option, which are joined by line feeds. -/
  scripts : List Octets

def EditOptions.take : List Octets → EditOptions → EditOptions × List Octets
  | a :: rest, o =>
    if a = ['-', '-'] then (o, rest)
    else if a = ['-', 'n'] then take rest { o with quiet := true }
    else if a = ['-', 'E'] || a = ['-', 'r'] then take rest { o with extended := true }
    else if a = ['-', 's'] || a = ['-', 'u'] then take rest o
    else if a = ['-', 'e'] then
      match rest with
      | script :: rest => take rest { o with scripts := o.scripts ++ [script] }
      | [] => (o, [])
    else (o, a :: rest)
  | [], o => (o, [])

def sed : Utility := fun args p =>
  let (o, operands) := EditOptions.take args ⟨false, false, []⟩
  let (scripts, operands) := match o.scripts, operands with
    | [], script :: operands => ([script], operands)
    | scripts, operands => (scripts, operands)
  match Lines.readScript o.extended (List.intercalate ['\n'] scripts) with
  | none => (1, complain "sed" "-e expression #1, char 0: unknown command" p)
  | some commands =>
    let (code, lines, p) := (if operands.isEmpty then [['-']] else operands).foldl
      (fun (code, lines, p) operand =>
        match readOperand operand p with
        | (.ok data, p) => (code, lines ++ Lines.linesOf data, p)
        | (.error cause, p) =>
          let (failed, verb) := if cause = .isDirectory then (4, "read error on ") else (2, "can't read ")
          (failed, lines, complain "sed" (verb ++ shown operand ++ ": " ++ reason cause) p)) ((0 : Nat), ([] : List (Octets × Bool)), p)
    let (ending, s) := Lines.runLines commands o.quiet lines ⟨[], false, [], true, 0, false, []⟩
    (if ending = 0 then code else ending, put 1 s.out.reverse.flatten p)

end Crosscheck.Utility
