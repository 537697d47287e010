import Crosscheck.Shell.Tree

/-!
# Reading scripts

A script is read one complete command at a time, so that a fault further down does not keep the
commands before it from being run. The text of a here-document is taken out of the lines that
follow when its redirection is read.
-/

namespace Crosscheck.Shell

inductive Token where
  | word (w : Word)
  | sign (s : String)
  | redirect (fd : Option Nat) (sign : String)
  | newline
  | finish
  deriving DecidableEq, Repr

namespace Token

/-- Signs that end a word and stand for themselves, longer ones first. -/
def signs : List String := ["&&", "||", ";;", "&", "|", ";", "(", ")"]

def redirectSigns : List String := ["<<-", "<<", "<&", "<>", "<", ">>", ">&", ">|", ">"]

/-- The descriptor in front of a redirection. -/
def descriptorOf? (text : Octets) : Option (Nat × Octets) :=
  let digits := text.takeWhile Char.isDigit
  let rest := text.drop digits.length
  if digits.isEmpty then none
  else match rest with
    | '<' :: _ | '>' :: _ =>
      some (digits.foldl (fun n c => n * 10 + (c.toNat - '0'.toNat)) 0, rest)
    | _ => none

def startsWith (text : Octets) (s : String) : Bool := s.toList.isPrefixOf text

/-- The next token. -/
def read : Nat → Source → Except Fault (Token × Source)
  | 0, s => .ok (finish, s)
  | fuel + 1, s =>
    match s.rest with
    | [] => .ok (finish, s)
    | ' ' :: rest => read fuel (s.pass [] rest)
    | '\t' :: rest => read fuel (s.pass [] rest)
    | '\\' :: '\n' :: rest => read fuel (s.pass ['\n'] rest)
    | '#' :: rest => read fuel (s.pass [] (rest.dropWhile (· ≠ '\n')))
    | '\n' :: rest => .ok (newline, { s with rest := rest, line := s.line + 1 + s.owed, owed := 0 })
    | text =>
      let (fd, after) := match descriptorOf? text with
        | some (fd, after) => (some fd, after)
        | none => (none, text)
      match redirectSigns.find? (startsWith after) with
      | some r => .ok (redirect fd r, s.pass [] (after.drop r.length))
      | none =>
        match signs.find? (startsWith text) with
        | some t => .ok (sign t, s.pass [] (text.drop t.length))
        | none => do
          let (w, s) ← readWord s
          return (word w, s)

def next (s : Source) : Except Fault (Token × Source) := read (s.rest.length + 1) s

/-- The word that a token is spelled as, if nothing in it is quoted. -/
def plain? : Token → Option String
  | word w => w.plain?.map String.ofList
  | _ => none

def reservedWords : List String :=
  ["!", "\x7b", "\x7d", "case", "do", "done", "elif", "else", "esac", "fi", "for", "if", "in",
    "then", "until", "while"]

/-- The reserved word that a token is at the start of a command. -/
def reserved? (t : Token) : Option String :=
  match t.plain? with
  | some s => if s ∈ reservedWords then some s else none
  | none => none

/-- How a token is named in faults. -/
def describe (t : Token) : String :=
  let quoted (s : String) : String := "\"" ++ s ++ "\""
  match t with
  | word _ => match t.reserved? with
    | some s => quoted s
    | none => "word"
  | sign s => quoted s
  | redirect .. => "redirection"
  | newline => "newline"
  | finish => "end of file"

/-- The fault that a token is where another is expected. -/
def fault (t : Token) (expected : Option String) : Fault :=
  match t with
  | finish => .unexpectedEnd expected
  | t => .unexpected t.describe expected

end Token

/-! ### Here-documents -/

/-- Whether anything in a word is quoted. -/
def Word.hasQuotes (w : Word) : Bool :=
  w.any fun
    | .char _ quoted => quoted
    | .nothing => true
    | .parameter _ quoted | .command _ _ quoted | .arithmetic _ quoted | .changed _ _ _ _ quoted => quoted
    | .size _ | .bad => false

/-- The characters of a word. -/
def Word.chars (w : Word) : Octets :=
  w.filterMap fun
    | .char c _ => some c
    | _ => none

/-- Lines up to the one that ends a document, with the count of lines and what follows. -/
def documentLines (stripTabs : Bool) (delimiter : Octets) :
    Nat → Octets → List Octets → Octets → Octets × Nat × Octets
  | 0, _, lines, rest => (lines.reverse.flatten, lines.length, rest)
  | fuel + 1, _, lines, text =>
    if text.isEmpty then (lines.reverse.flatten, lines.length, [])
    else
      let line := text.takeWhile (· ≠ '\n')
      let after := text.drop line.length
      let shown := if stripTabs then line.dropWhile (· == '\t') else line
      if shown = delimiter then (lines.reverse.flatten, lines.length + 1, after.drop 1)
      else documentLines stripTabs delimiter fuel [] ((shown ++ after.take 1) :: lines) (after.drop 1)

/-- Takes a document out of the lines after the current one. -/
def takeDocument (stripTabs : Bool) (delimiter : Octets) (s : Source) : Octets × Source :=
  let current := s.rest.takeWhile (· ≠ '\n')
  match s.rest.drop current.length with
  | [] => ([], s)
  | _ :: below =>
    let (body, count, rest) := documentLines stripTabs delimiter (below.length + 1) [] [] below
    (body, { s with rest := current ++ '\n' :: rest, owed := s.owed + count })

/-! ### Commands -/

/-- A fault with the line at which it shows. -/
structure Refusal where
  fault : Fault
  line : Nat
  deriving DecidableEq, Repr

/-- Reads something from a source, or finds a fault in it. -/
abbrev Reader := StateT Source (Except Refusal)

/-- Refuses the source for a fault at its current line. -/
def Reader.fail {α : Type} (fault : Fault) : Reader α := fun s => .error ⟨fault, s.line⟩

/-- What the next token is for a reader. A token without its end reaches to the end of the source. -/
def Reader.token (s : Source) : Except Refusal (Token × Source) :=
  match Token.next s with
  | .ok r => .ok r
  | .error fault => .error ⟨fault, s.line + Source.lineFeeds s.rest⟩

/-- The next token, which stays in the source. -/
def peek : Reader Token := fun s => do
  let (t, _) ← Reader.token s
  return (t, s)

/-- Takes the next token out of the source. -/
def take : Reader Token := fun s => Reader.token s

/-- How many steps reading what is left can take at most. -/
def stepsLeft : Reader Nat := fun s => .ok (16 * (s.rest.length + 1), s)

def currentLine : Reader Nat := fun s => .ok (s.line, s)

/-- Refuses a token. -/
def refuse {α : Type} (t : Token) (expected : Option String) : Reader α :=
  Reader.fail (t.fault expected)

/-- The rest of a redirection after its sign. -/
def readRedirection (fd : Option Nat) (sign : String) : Reader Redirection := do
  match ← take with
  | .word w =>
    match sign with
    | "<" => return .file (fd.getD 0) .read w
    | ">" | ">|" => return .file (fd.getD 1) .write w
    | ">>" => return .file (fd.getD 1) .append w
    | "<>" => return .file (fd.getD 0) .readWrite w
    | "<&" => return .duplicate (fd.getD 0) w
    | ">&" => return .duplicate (fd.getD 1) w
    | _ =>
      let body ← modifyGet (takeDocument (sign == "<<-") w.chars)
      if w.hasQuotes then return .document (fd.getD 0) (body.map (.char · true))
      else match wordOfText .quotedText body with
        | .ok word => return .document (fd.getD 0) word
        | .error fault => Reader.fail fault
  | t => refuse t none

/-- Redirections, as many as there are. -/
def readRedirections : Nat → List Redirection → Reader (List Redirection)
  | 0, seen => return seen
  | fuel + 1, seen => do
    match ← peek with
    | .redirect fd sign =>
      discard take
      readRedirections fuel (seen ++ [← readRedirection fd sign])
    | _ => return seen

/-- Skips line ends. -/
def skipNewlines : Nat → Reader Unit
  | 0 => return
  | fuel + 1 => do
    match ← peek with
    | .newline =>
      discard take
      skipNewlines fuel
    | _ => return

/-- Takes a reserved word that has to come. -/
def expectWord (expected : String) : Reader Unit := do
  let t ← take
  if t.plain? ≠ some expected then refuse t (some expected)

/-- Takes a sign that has to come. -/
def expectSign (expected : String) : Reader Unit := do
  let t ← take
  if t ≠ .sign expected then refuse t (some expected)

/-- The words of a loop up to the end of their line. -/
def readLoopWords : Nat → List Word → Reader (List Word)
  | 0, seen => return seen
  | fuel + 1, seen => do
    match ← take with
    | .word w => readLoopWords fuel (seen ++ [w])
    | .newline | .sign ";" => return seen
    | t => refuse t none

/-- The patterns of an arm, after the parenthesis before them, if any. -/
def readPatterns : Nat → List Word → Reader (List Word)
  | 0, seen => return seen
  | fuel + 1, seen => do
    match ← take with
    | .word w =>
      match ← take with
      | .sign "|" => readPatterns fuel (seen ++ [w])
      | .sign ")" => return seen ++ [w]
      | t => refuse t (some ")")
    | t => refuse t none

/-- Whether a token ends a list of commands. -/
def endsList (t : Token) : Bool :=
  match t with
  | .finish | .sign ")" | .sign ";;" => true
  | _ => match t.reserved? with
    | some s => s ∈ ["do", "done", "elif", "else", "esac", "fi", "then", "\x7d"]
    | none => false

/-- The parts of a simple command. -/
structure SimpleParts where
  assignments : List (Octets × Word)
  words : List Word
  redirections : List Redirection

/-- The rest of a simple command. -/
def readSimple : Nat → SimpleParts → Reader SimpleParts
  | 0, c => return c
  | fuel + 1, c => do
    match ← peek with
    | .word w =>
      discard take
      match c.words.isEmpty, w.assignment? with
      | true, some a => readSimple fuel { c with assignments := c.assignments ++ [a] }
      | _, _ => readSimple fuel { c with words := c.words ++ [w] }
    | .redirect fd sign =>
      discard take
      let r ← readRedirection fd sign
      readSimple fuel { c with redirections := c.redirections ++ [r] }
    | _ => return c

/-- A simple command from its start. -/
def readSimpleTree (line : Nat) : Reader Tree := do
  let c ← readSimple (← stepsLeft) ⟨[], [], []⟩
  return .simple line c.assignments c.words c.redirections

/-- A compound command with the redirections behind it. -/
def withRedirections (line : Nat) (t : Tree) : Reader Tree := do
  let rs ← readRedirections (← stepsLeft) []
  return if rs.isEmpty then t else .redirected line t rs

/-- Two commands after each other. -/
def joined (a : Tree) : Tree → Tree
  | .skip => a
  | b => .sequence a b

mutual

/-- Commands up to the end of the line, or, in a compound command, up to a token that ends it. -/
def readList (compound : Bool) : Nat → Reader Tree
  | 0 => return .skip
  | fuel + 1 => do
    if compound then skipNewlines (← stepsLeft)
    if endsList (← peek) then return .skip
    let a ← readAndOr fuel
    match ← peek with
    | .sign "&" =>
      discard take
      return joined (.background a) (← readRest compound fuel)
    | .sign ";" =>
      discard take
      return joined a (← readRest compound fuel)
    | .newline =>
      if compound then return joined a (← readList compound fuel) else return a
    | _ => return a

/-- What follows a separator. -/
def readRest (compound : Bool) : Nat → Reader Tree
  | 0 => return .skip
  | fuel + 1 => do
    if !compound && (← peek) = .newline then return .skip else readList compound fuel

def readAndOr : Nat → Reader Tree
  | 0 => return .skip
  | fuel + 1 => do readAndOrMore fuel (← readPipeline fuel)

def readAndOrMore : Nat → Tree → Reader Tree
  | 0, a => return a
  | fuel + 1, a => do
    match ← peek with
    | .sign "&&" =>
      discard take
      skipNewlines (← stepsLeft)
      readAndOrMore fuel (.both a (← readPipeline fuel))
    | .sign "||" =>
      discard take
      skipNewlines (← stepsLeft)
      readAndOrMore fuel (.either a (← readPipeline fuel))
    | _ => return a

def readPipeline : Nat → Reader Tree
  | 0 => return .skip
  | fuel + 1 => do
    if (← peek).plain? = some "!" then
      discard take
      return .negated (← readPipelineMore fuel [← readCommand fuel])
    else readPipelineMore fuel [← readCommand fuel]

def readPipelineMore : Nat → List Tree → Reader Tree
  | 0, parts => return .pipeline parts
  | fuel + 1, parts => do
    match ← peek, parts with
    | .sign "|", _ =>
      discard take
      skipNewlines (← stepsLeft)
      readPipelineMore fuel (parts ++ [← readCommand fuel])
    | _, [a] => return a
    | _, parts => return .pipeline parts

def readCommand : Nat → Reader Tree
  | 0 => return .skip
  | fuel + 1 => do
    let line ← currentLine
    let t ← peek
    match t with
    | .sign "(" =>
      discard take
      let body ← readList true fuel
      expectSign ")"
      withRedirections line (.subshell body)
    | .redirect .. => readSimpleTree line
    | .word w =>
      match t.reserved? with
      | none => readNamed fuel line w
      | some s =>
        discard take
        withRedirections line (← readCompound fuel line s)
    | t => refuse t none

/-- A simple command, or the definition of a function. -/
def readNamed : Nat → Nat → Word → Reader Tree
  | 0, _, _ => return .skip
  | fuel + 1, line, w => do
    let start ← get
    discard take
    if (← peek) ≠ .sign "(" then
      set start
      readSimpleTree line
    else
      discard take
      expectSign ")"
      match w.plain? with
      | some name =>
        skipNewlines (← stepsLeft)
        return .define name (← readCommand fuel)
      | none => Reader.fail .badName

/-- A compound command after its first word. -/
def readCompound : Nat → Nat → String → Reader Tree
  | 0, _, _ => return .skip
  | fuel + 1, line, first => do
    match first with
    | "\x7b" =>
      let body ← readList true fuel
      expectWord "\x7d"
      return body
    | "if" => readBranch fuel
    | "while" => readLoop false fuel
    | "until" => readLoop true fuel
    | "for" => readEach line fuel
    | "case" =>
      match ← take with
      | .word subject =>
        skipNewlines (← stepsLeft)
        expectWord "in"
        return .select line subject (← readArms fuel [])
      | t => refuse t none
    | s => Reader.fail (.unexpected ("\"" ++ s ++ "\"") none)

/-- A branch after its `if` or `elif`. -/
def readBranch : Nat → Reader Tree
  | 0 => return .skip
  | fuel + 1 => do
    let condition ← readList true fuel
    expectWord "then"
    let yes ← readList true fuel
    match (← peek).plain? with
    | some "elif" =>
      discard take
      return .branch condition yes (← readBranch fuel)
    | some "else" =>
      discard take
      let no ← readList true fuel
      expectWord "fi"
      return .branch condition yes no
    | _ =>
      expectWord "fi"
      return .branch condition yes .skip

def readLoop (untilTrue : Bool) : Nat → Reader Tree
  | 0 => return .skip
  | fuel + 1 => do
    let condition ← readList true fuel
    expectWord "do"
    let body ← readList true fuel
    expectWord "done"
    return .loop untilTrue condition body

def readEach (line : Nat) : Nat → Reader Tree
  | 0 => return .skip
  | fuel + 1 => do
    match (← take).plain? with
    | none => Reader.fail .badLoopName
    | some name =>
      let name := name.toList
      if !isNameStart (name.headD ' ') || !name.all isNameChar then Reader.fail .badLoopName
      skipNewlines (← stepsLeft)
      let t ← peek
      let words ← do
        if t = .sign ";" then
          discard take
          pure none
        else if t.plain? = some "in" then
          discard take
          pure (some (← readLoopWords (← stepsLeft) []))
        else pure none
      skipNewlines (← stepsLeft)
      expectWord "do"
      let body ← readList true fuel
      expectWord "done"
      return .each line name words body

def readArms : Nat → List (List Word × Tree) → Reader (List (List Word × Tree))
  | 0, arms => return arms
  | fuel + 1, arms => do
    skipNewlines (← stepsLeft)
    let t ← peek
    if t.plain? = some "esac" then
      discard take
      return arms
    if t = .sign "(" then discard take
    let patterns ← readPatterns (← stepsLeft) []
    let body ← readList true fuel
    if (← peek) = .sign ";;" then
      discard take
      readArms fuel (arms ++ [(patterns, body)])
    else
      let t ← take
      if t.plain? = some "esac" then return arms ++ [(patterns, body)] else refuse t (some ";;")

end

/-- The next complete command of a source; none at its end. The flag says whether it is the last
thing in the source. -/
def readComplete : Reader (Option (Tree × Bool)) := do
  skipNewlines (← stepsLeft)
  if (← peek) = .finish then return none
  let t ← readList false (← stepsLeft)
  match ← take with
  | .newline => return some (t, false)
  | .finish => return some (t, true)
  | other => refuse other none

end Crosscheck.Shell
