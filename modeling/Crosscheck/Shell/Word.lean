import Crosscheck.Text.Octets

/-!
# Words of the shell

A word is a row of pieces: plain characters, each quoted or not, and what is put in place of
parameters, of commands and of arithmetic. A word ends at a blank or an operator that is not
quoted. What stands between braces or parentheses is kept as text and read when it is needed.

A source is text with the number of the line that it is at.
-/

namespace Crosscheck.Shell

/-- What is done with the value of a parameter. -/
inductive Change where
  | default
  | assign
  | complain
  | alternative
  | cutShortEnd
  | cutLongEnd
  | cutShortStart
  | cutLongStart
  deriving DecidableEq, Repr

inductive Piece where
  | char (c : Char) (quoted : Bool)
  /-- Quotation marks with nothing between them. -/
  | nothing
  | parameter (name : Octets) (quoted : Bool)
  | size (name : Octets)
  /-- `whenEmpty` says whether an empty value counts as none. -/
  | changed (name : Octets) (change : Change) (whenEmpty : Bool) (word : Octets) (quoted : Bool)
  /-- `line` is where the text begins. -/
  | command (text : Octets) (line : Nat) (quoted : Bool)
  | arithmetic (text : Octets) (quoted : Bool)
  | bad
  deriving DecidableEq, Repr

abbrev Word := List Piece

/-- Why a text is no script. -/
inductive Fault where
  | unterminatedQuote
  | unterminatedBackquote
  | missingBrace
  | missingParentheses
  | unexpectedEnd (expected : Option String)
  | unexpected (token : String) (expected : Option String)
  | badLoopName
  | badName
  | badRedirection
  deriving DecidableEq, Repr

def Fault.message : Fault → String
  | unterminatedQuote => "Unterminated quoted string"
  | unterminatedBackquote => "EOF in backquote substitution"
  | missingBrace => "Missing '\x7d'"
  | missingParentheses => "Missing '))'"
  | unexpectedEnd none => "end of file unexpected"
  | unexpectedEnd (some e) => "end of file unexpected (expecting \"" ++ e ++ "\")"
  | unexpected t none => t ++ " unexpected"
  | unexpected t (some e) => t ++ " unexpected (expecting \"" ++ e ++ "\")"
  | badLoopName => "Bad for loop variable"
  | badName => "Bad function name"
  | badRedirection => "Bad fd number"

structure Source where
  rest : Octets
  line : Nat
  /-- Lines that were taken out of the text after the current one. -/
  owed : Nat
  deriving DecidableEq, Repr

namespace Source

def start (text : Octets) : Source := ⟨text, 1, 0⟩

def lineFeeds (text : Octets) : Nat := text.countP (· == '\n')

/-- Goes on to `rest`, past the text `passed`. -/
def pass (s : Source) (passed rest : Octets) : Source :=
  { s with rest := rest, line := s.line + lineFeeds passed }

end Source

def isNameStart (c : Char) : Bool := c.isAlpha || c == '_'

def isNameChar (c : Char) : Bool := c.isAlphanum || c == '_'

/-- The characters that end a word. -/
def isMeta (c : Char) : Bool :=
  c == ' ' || c == '\t' || c == '\n' || c == ';' || c == '&' || c == '|' || c == '<' || c == '>' ||
    c == '(' || c == ')'

/-- The parameters whose name is one sign. -/
def isSpecial (c : Char) : Bool :=
  c == '#' || c == '?' || c == '$' || c == '!' || c == '-' || c == '@' || c == '*'

/-! ### Finding the end of what is kept as text -/

/-- Text up to the next single quote. -/
def upToQuote : Octets → Octets → Option (Octets × Octets)
  | _, [] => none
  | seen, '\'' :: rest => some (seen.reverse, rest)
  | seen, c :: rest => upToQuote (c :: seen) rest

/-- Text up to the next backquote without a backslash. -/
def upToBackquote : Octets → Octets → Option (Octets × Octets)
  | _, [] => none
  | seen, '\x60' :: rest => some (seen.reverse, rest)
  | seen, '\\' :: c :: rest => upToBackquote (c :: '\\' :: seen) rest
  | seen, c :: rest => upToBackquote (c :: seen) rest

/-- What text is skipped up to. -/
inductive Closer where
  | parenthesis
  | brace
  | doubleQuote
  deriving DecidableEq, Repr

def Closer.char : Closer → Char
  | parenthesis => ')'
  | brace => '\x7d'
  | doubleQuote => '"'

/-- Whether a number sign after this character begins a comment. -/
def beforeComment : Octets → Bool
  | [] => true
  | c :: _ => c == ' ' || c == '\t' || c == '\n' || c == ';' || c == '&' || c == '|' || c == '('

/-- Text up to the end of a line. -/
def upToLineEnd : Octets → Octets → Octets × Octets
  | seen, [] => (seen, [])
  | seen, '\n' :: rest => (seen, '\n' :: rest)
  | seen, c :: rest => upToLineEnd (c :: seen) rest

/-- Text up to a closer, past the quotations and substitutions in it. `seen` is what has been passed,
last character first; `open_` counts parentheses. -/
def upTo (closer : Closer) (inQuotes : Bool) : Nat → Nat → Octets → Octets → Option (Octets × Octets)
  | 0, _, _, _ => none
  | fuel + 1, open_, seen, text =>
    match text with
    | [] => none
    | '\\' :: c :: rest => upTo closer inQuotes fuel open_ (c :: '\\' :: seen) rest
    | '$' :: '(' :: rest =>
      match upTo .parenthesis false fuel 0 [] rest with
      | none => none
      | some (inside, rest) =>
        upTo closer inQuotes fuel open_ (')' :: inside.reverse ++ '(' :: '$' :: seen) rest
    | '$' :: '\x7b' :: rest =>
      match upTo .brace inQuotes fuel 0 [] rest with
      | none => none
      | some (inside, rest) =>
        upTo closer inQuotes fuel open_ ('\x7d' :: inside.reverse ++ '\x7b' :: '$' :: seen) rest
    | '\x60' :: rest =>
      match upToBackquote [] rest with
      | none => none
      | some (inside, rest) =>
        upTo closer inQuotes fuel open_ ('\x60' :: inside.reverse ++ '\x60' :: seen) rest
    | c :: rest =>
      if c = closer.char && open_ = 0 then some (seen.reverse, rest)
      else if c = '"' then
        match upTo .doubleQuote true fuel 0 [] rest with
        | none => none
        | some (inside, rest) =>
          upTo closer inQuotes fuel open_ ('"' :: inside.reverse ++ '"' :: seen) rest
      else if c = '\'' && !inQuotes then
        match upToQuote [] rest with
        | none => none
        | some (inside, rest) =>
          upTo closer inQuotes fuel open_ ('\'' :: inside.reverse ++ '\'' :: seen) rest
      else if closer = .parenthesis && c = '(' then
        upTo closer inQuotes fuel (open_ + 1) (c :: seen) rest
      else if closer = .parenthesis && c = ')' then
        upTo closer inQuotes fuel (open_ - 1) (c :: seen) rest
      else if closer = .parenthesis && c = '#' && beforeComment seen then
        let (seen, rest) := upToLineEnd (c :: seen) rest
        upTo closer inQuotes fuel open_ seen rest
      else upTo closer inQuotes fuel open_ (c :: seen) rest

/-- The text before a closer, and what follows it. -/
def closed (closer : Closer) (inQuotes : Bool) (text : Octets) : Option (Octets × Octets) :=
  upTo closer inQuotes (text.length + 1) 0 [] text

/-- The text between backquotes with the backslashes removed that stand for this level. -/
def unescapeBackquoted (quoted : Bool) : Octets → Octets
  | '\\' :: c :: rest =>
    if c = '\\' || c = '$' || c = '\x60' || (quoted && c = '"') then
      c :: unescapeBackquoted quoted rest
    else '\\' :: c :: unescapeBackquoted quoted rest
  | c :: rest => c :: unescapeBackquoted quoted rest
  | [] => []

/-! ### Parameters -/

/-- The parameter at the start of what stands between braces, and what follows it. -/
def nameOf (inside : Octets) : Octets × Octets :=
  match inside with
  | c :: rest =>
    if isNameStart c then (inside.takeWhile isNameChar, inside.dropWhile isNameChar)
    else if c.isDigit then (inside.takeWhile Char.isDigit, inside.dropWhile Char.isDigit)
    else if isSpecial c then ([c], rest)
    else ([], inside)
  | [] => ([], [])

/-- What stands between braces. -/
def bracedPiece (inside : Octets) (quoted : Bool) : Piece :=
  let change (name : Octets) : Octets → Piece
    | [] => .parameter name quoted
    | ':' :: '-' :: word => .changed name .default true word quoted
    | ':' :: '=' :: word => .changed name .assign true word quoted
    | ':' :: '?' :: word => .changed name .complain true word quoted
    | ':' :: '+' :: word => .changed name .alternative true word quoted
    | '-' :: word => .changed name .default false word quoted
    | '=' :: word => .changed name .assign false word quoted
    | '?' :: word => .changed name .complain false word quoted
    | '+' :: word => .changed name .alternative false word quoted
    | '%' :: '%' :: word => .changed name .cutLongEnd false word quoted
    | '%' :: word => .changed name .cutShortEnd false word quoted
    | '#' :: '#' :: word => .changed name .cutLongStart false word quoted
    | '#' :: word => .changed name .cutShortStart false word quoted
    | _ => .bad
  match inside with
  | '#' :: c :: more =>
    let (name, rest) := nameOf (c :: more)
    if !name.isEmpty && rest.isEmpty then .size name else change ['#'] (c :: more)
  | _ =>
    let (name, rest) := nameOf inside
    if name.isEmpty then .bad else change name rest

/-! ### Reading pieces -/

/-- Where pieces are read from. -/
inductive Context where
  /-- A script, in which a word ends at a blank or an operator. -/
  | script
  /-- A text that is one word to its end. -/
  | text
  /-- Inside double quotes, up to the closing one. -/
  | quotes
  /-- A text that is read as if inside double quotes, to its end. -/
  | quotedText
  /-- The word of a change inside double quotes, in which double quotes stand for nothing. -/
  | quotedBraces
  deriving DecidableEq, Repr

def Context.isQuoted : Context → Bool
  | quotes | quotedText | quotedBraces => true
  | _ => false

/-- What follows a dollar sign: the piece, the text that was read for it, and the rest. None if the
dollar sign stands for itself. -/
def dollar (quoted : Bool) (line : Nat) : Octets → Except Fault (Option (Piece × Octets × Octets))
  | '(' :: '(' :: rest =>
    match closed .parenthesis quoted rest with
    | some (inside, ')' :: more) => .ok (some (.arithmetic inside quoted, inside, more))
    | _ => .error .missingParentheses
  | '(' :: rest =>
    match closed .parenthesis false rest with
    | some (inside, more) => .ok (some (.command inside line quoted, inside, more))
    | none => .error (.unexpectedEnd (some ")"))
  | '\x7b' :: rest =>
    match closed .brace quoted rest with
    | some (inside, more) => .ok (some (bracedPiece inside quoted, inside, more))
    | none => .error .missingBrace
  | c :: rest =>
    if isNameStart c then
      .ok (some (.parameter ((c :: rest).takeWhile isNameChar) quoted, [],
        (c :: rest).dropWhile isNameChar))
    else if c.isDigit || isSpecial c then .ok (some (.parameter [c] quoted, [], rest))
    else .ok none
  | [] => .ok none

/-- The characters that a backslash takes the meaning from inside double quotes. -/
def isEscapable (c : Char) : Bool := c == '$' || c == '\x60' || c == '"' || c == '\\'

/-- Reads pieces to the end of the word; `seen` holds those read so far, the last first. -/
def readPieces (context : Context) : Nat → List Piece → Source → Except Fault (Word × Source)
  | 0, seen, s => .ok (seen.reverse, s)
  | fuel + 1, seen, s =>
    let quoted := context.isQuoted
    match s.rest with
    | [] => if context = .quotes then .error .unterminatedQuote else .ok (seen.reverse, s)
    | '\\' :: '\n' :: rest => readPieces context fuel seen (s.pass ['\n'] rest)
    | '\\' :: c :: rest =>
      if quoted && !(isEscapable c && (context ≠ .quotedText || c ≠ '"')) then
        readPieces context fuel (.char c true :: .char '\\' true :: seen) (s.pass [c] rest)
      else readPieces context fuel (.char c true :: seen) (s.pass [c] rest)
    | '$' :: rest =>
      match dollar quoted s.line rest with
      | .error fault => .error fault
      | .ok none => readPieces context fuel (.char '$' quoted :: seen) (s.pass [] rest)
      | .ok (some (piece, passed, more)) =>
        readPieces context fuel (piece :: seen) (s.pass passed more)
    | '\x60' :: rest =>
      match upToBackquote [] rest with
      | none => .error .unterminatedBackquote
      | some (inside, more) =>
        readPieces context fuel (.command (unescapeBackquoted quoted inside) 1 quoted :: seen)
          (s.pass inside more)
    | '"' :: rest =>
      match context with
      | .quotes => .ok (seen.reverse, s.pass [] rest)
      | .quotedText => readPieces context fuel (.char '"' true :: seen) (s.pass [] rest)
      | .quotedBraces => readPieces context fuel seen (s.pass [] rest)
      | _ =>
        match readPieces .quotes fuel [] (s.pass [] rest) with
        | .error fault => .error fault
        | .ok (inside, s) =>
          let inside := if inside.isEmpty then [.nothing] else inside
          readPieces context fuel (inside.reverse ++ seen) s
    | '\'' :: rest =>
      if quoted then readPieces context fuel (.char '\'' true :: seen) (s.pass [] rest)
      else match upToQuote [] rest with
        | none => .error .unterminatedQuote
        | some (inside, more) =>
          let inside' := if inside.isEmpty then [.nothing] else inside.map (.char · true)
          readPieces context fuel (inside'.reverse ++ seen) (s.pass inside more)
    | c :: rest =>
      if context = .script && isMeta c then .ok (seen.reverse, s)
      else readPieces context fuel (.char c quoted :: seen) (s.pass [c] rest)

/-- The word at the start of a source. -/
def readWord (s : Source) : Except Fault (Word × Source) :=
  readPieces .script (s.rest.length + 1) [] s

/-- A text as one word. -/
def wordOfText (context : Context) (text : Octets) : Except Fault Word :=
  (readPieces context (text.length + 1) [] (.start text)).map (·.1)

/-- The characters of a word in which nothing is quoted or put in place. -/
def Word.plain? (w : Word) : Option Octets :=
  w.mapM fun
    | .char c false => some c
    | _ => none

/-- A word that assigns to a variable: the name, and the word for the value. -/
def Word.assignment? (w : Word) : Option (Octets × Word) :=
  let isPlain (p : Piece) (ok : Char → Bool) : Bool := match p with
    | .char c false => ok c
    | _ => false
  let name := w.takeWhile fun p => isPlain p isNameChar
  match w.drop name.length, Word.plain? name with
  | .char '=' false :: value, some (c :: cs) =>
    if isNameStart c then some (c :: cs, value) else none
  | _, _ => none

end Crosscheck.Shell
