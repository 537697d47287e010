import Crosscheck.Utility.Basic

/-!
# Escapes and formats

What `echo` and `printf` make of their arguments. A backslash escape stands for a control character
or for the byte with an octal number. A format is used again as long as arguments are left.
-/

namespace Crosscheck.Utility

/-- What ends the output at once. -/
inductive Written where
  | text (cs : Octets)
  | stopped (cs : Octets)
  deriving DecidableEq, Repr

def Written.octets : Written → Octets
  | text cs | stopped cs => cs

def isOctalDigit (c : Char) : Bool := '0' ≤ c && c ≤ '7'

def octalValue (digits : Octets) : Char :=
  Char.ofNat (digits.foldl (fun n d => n * 8 + (d.toNat - '0'.toNat)) 0 % 256)

/-- The character that a backslash and what follows it stand for, and how much of what follows
belongs to it. A backslash that begins no escape stands for itself. -/
def escapeAt (rest : Octets) : Char × Nat :=
  match rest with
  | [] => ('\\', 0)
  | c :: _ =>
    let digits := (rest.take 3).takeWhile isOctalDigit
    if !digits.isEmpty then (octalValue digits, digits.length)
    else match c with
      | '\\' => ('\\', 1)
      | 'a' => ('\x07', 1)
      | 'b' => ('\x08', 1)
      | 'e' => ('\x1b', 1)
      | 'f' => ('\x0c', 1)
      | 'n' => ('\n', 1)
      | 'r' => ('\r', 1)
      | 't' => ('\t', 1)
      | 'v' => ('\x0b', 1)
      | _ => ('\\', 0)

/-- A text with its escapes read. An octal number may have a zero in front; `\c` ends the output. -/
def unescape : Nat → Octets → Octets → Written
  | 0, seen, _ => .text seen.reverse
  | _, seen, [] => .text seen.reverse
  | _ + 1, seen, '\\' :: 'c' :: _ => .stopped seen.reverse
  | fuel + 1, seen, '\\' :: '0' :: rest =>
    let digits := (rest.take 3).takeWhile isOctalDigit
    unescape fuel (octalValue digits :: seen) (rest.drop digits.length)
  | fuel + 1, seen, '\\' :: rest =>
    let (c, count) := escapeAt rest
    unescape fuel (c :: seen) (rest.drop count)
  | fuel + 1, seen, c :: rest => unescape fuel (c :: seen) rest

def unescaped (text : Octets) : Written := unescape (text.length + 1) [] text

/-- What `echo` writes: the arguments with their escapes read. -/
def echoText (args : List Octets) : Octets :=
  let (lineFeed, args) := match args with
    | ['-', 'n'] :: rest => (false, rest)
    | _ => (true, args)
  let rec go : List Octets → Written
    | [] => .text (if lineFeed then ['\n'] else [])
    | a :: rest =>
      match unescaped a with
      | .stopped cs => .stopped cs
      | .text cs =>
        let gap := if rest.isEmpty then [] else [' ']
        match go rest with
        | .text more => .text (cs ++ gap ++ more)
        | .stopped more => .stopped (cs ++ gap ++ more)
  (go args).octets

/-! ### Formats -/

/-- A conversion of a format: its flags, width, precision and letter. -/
structure Conversion where
  flags : List Char
  width : Nat
  precision : Option Nat
  letter : Char
  deriving DecidableEq, Repr

/-- A text in its field. -/
def Conversion.place (c : Conversion) (sign body : Octets) (zeros : Bool) : Octets :=
  let missing := c.width - (sign.length + body.length)
  if '-' ∈ c.flags then sign ++ body ++ List.replicate missing ' '
  else if zeros && '0' ∈ c.flags then sign ++ List.replicate missing '0' ++ body
  else List.replicate missing ' ' ++ sign ++ body

def Conversion.text (c : Conversion) (cs : Octets) : Octets :=
  c.place [] (match c.precision with
    | some n => cs.take n
    | none => cs) false

/-- The digits of a number, with zeros in front up to the precision. -/
def Conversion.digits (c : Conversion) (base n : Nat) : Octets :=
  let ds := Nat.toDigits base n
  let ds := if c.letter = 'X' then ds.map Char.toUpper else ds
  match c.precision with
  | some least =>
    if least = 0 && n = 0 then [] else List.replicate (least - ds.length) '0' ++ ds
  | none => ds

def Conversion.signed (c : Conversion) (n : Int) : Octets :=
  let sign := if n < 0 then ['-'] else if '+' ∈ c.flags then ['+'] else if ' ' ∈ c.flags then [' ']
    else []
  c.place sign (c.digits 10 n.natAbs) c.precision.isNone

def Conversion.unsigned (c : Conversion) (base : Nat) (n : Int) : Octets :=
  let value := (n.emod UInt64.size).toNat
  let lead :=
    if '#' ∈ c.flags && value ≠ 0 then
      (if c.letter = 'x' then ['0', 'x'] else if c.letter = 'X' then ['0', 'X']
        else if c.letter = 'o' then ['0'] else [])
    else []
  c.place lead (c.digits base value) c.precision.isNone

/-- A number read from the start of an argument. -/
inductive NumberRead where
  | whole (n : Int)
  | part (n : Int)
  | none
  deriving DecidableEq, Repr

def digitIn? (base : Nat) (c : Char) : Option Nat :=
  let n := if c.isDigit then c.toNat - '0'.toNat
    else if 'a' ≤ c && c ≤ 'f' then c.toNat - 'a'.toNat + 10
    else if 'A' ≤ c && c ≤ 'F' then c.toNat - 'A'.toNat + 10
    else 99
  if n < base then some n else Option.none

/-- Reads a number as C constants are written, or the code of a character behind a quote. -/
def readNumberText (text : Octets) : NumberRead :=
  match text with
  | [] => .whole 0
  | ['\''] | ['"'] => .whole 0
  | '\'' :: c :: _ | '"' :: c :: _ => .whole c.toNat
  | _ =>
    let body := text.dropWhile fun c => c == ' ' || c == '\t' || c == '\n'
    let (negative, body) := match body with
      | '-' :: rest => (true, rest)
      | '+' :: rest => (false, rest)
      | _ => (false, body)
    let (base, digits) := match body with
      | '0' :: 'x' :: rest | '0' :: 'X' :: rest => (16, rest)
      | '0' :: _ => (8, body)
      | _ => (10, body)
    let read := digits.takeWhile fun c => (digitIn? base c).isSome
    if read.isEmpty then .none
    else
      let value := read.foldl (fun (n : Nat) c => n * base + (digitIn? base c).getD 0) 0
      let n : Int := if negative then -(value : Int) else value
      if read.length = digits.length then .whole n else .part n

/-- What `printf` has done so far. -/
structure PrintState where
  out : Octets
  left : List Octets
  /-- Whether an argument has been used. -/
  used : Bool
  complaints : List String
  /-- Whether the output has been stopped. -/
  stopped : Bool

inductive PrintFailure where
  | missingFormat
  | missingLetter
  | badDirective (text : Octets)
  deriving DecidableEq, Repr

def PrintFailure.message : PrintFailure → String
  | missingFormat => "usage: printf format [arg ...]"
  | missingLetter => "missing format character"
  | badDirective text => String.ofList text ++ ": invalid directive"

def PrintState.argument (s : PrintState) : Octets × PrintState :=
  match s.left with
  | a :: rest => (a, { s with left := rest, used := true })
  | [] => ([], s)

def PrintState.number (s : PrintState) : Int × PrintState :=
  let (a, s) := s.argument
  match readNumberText a with
  | .whole n => (n, s)
  | .part n => (n, { s with complaints := s.complaints ++ [shown a ++ ": not completely converted"] })
  | .none => (0, { s with complaints := s.complaints ++ [shown a ++ ": expected numeric value"] })

def PrintState.put (s : PrintState) (cs : Octets) : PrintState := { s with out := s.out ++ cs }

/-- A width or precision: digits, or a star for an argument. -/
def takeCount (text : Octets) (s : PrintState) : Option Int × Octets × PrintState :=
  match text with
  | '*' :: rest =>
    let (n, s) := s.number
    (some n, rest, s)
  | _ =>
    let digits := text.takeWhile Char.isDigit
    ((natural? digits).map Int.ofNat, text.drop digits.length, s)

/-- Writes one conversion. -/
def PrintState.convert (s : PrintState) (c : Conversion) : Option PrintState :=
  match c.letter with
  | 'd' | 'i' =>
    let (n, s) := s.number
    some (s.put (c.signed n))
  | 'u' =>
    let (n, s) := s.number
    some (s.put (c.unsigned 10 n))
  | 'o' =>
    let (n, s) := s.number
    some (s.put (c.unsigned 8 n))
  | 'x' | 'X' =>
    let (n, s) := s.number
    some (s.put (c.unsigned 16 n))
  | 's' =>
    let (a, s) := s.argument
    some (s.put (c.text a))
  | 'c' =>
    let (a, s) := s.argument
    some (s.put ({ c with precision := none }.text (a.take 1)))
  | 'b' =>
    let (a, s) := s.argument
    match unescaped a with
    | .text cs => some (s.put (c.text cs))
    | .stopped cs => some { s.put (c.text cs) with stopped := true }
  | _ => none

/-- Goes through a format once. -/
def printOnce : Nat → Octets → PrintState → PrintState × Option PrintFailure
  | 0, _, s => (s, none)
  | _, [], s => (s, none)
  | fuel + 1, '\\' :: rest, s =>
    let (c, count) := escapeAt rest
    printOnce fuel (rest.drop count) (s.put [c])
  | fuel + 1, '%' :: '%' :: rest, s => printOnce fuel rest (s.put ['%'])
  | fuel + 1, '%' :: rest, s =>
    let flags := rest.takeWhile fun c => c ∈ ['#', '-', '+', ' ', '0']
    let (width, after, s) := takeCount (rest.drop flags.length) s
    let (precision, after, s) := match after with
      | '.' :: more =>
        let (n, more, s) := takeCount more s
        (some (n.getD 0), more, s)
      | _ => (none, after, s)
    match after with
    | [] => (s, some .missingLetter)
    | letter :: more =>
      let width := width.getD 0
      let conversion : Conversion := {
        flags := if width < 0 then '-' :: flags else flags
        width := width.natAbs
        precision := precision.bind fun n => if n < 0 then none else some n.toNat
        letter := letter }
      match s.convert conversion with
      | none => (s, some (.badDirective ('%' :: rest.take (rest.length - more.length))))
      | some s => if s.stopped then (s, none) else printOnce fuel more s
  | fuel + 1, c :: rest, s => printOnce fuel rest (s.put [c])

/-- Uses a format until no argument is left. -/
def printAll (format : Octets) : Nat → PrintState → PrintState × Option PrintFailure
  | 0, s => (s, none)
  | fuel + 1, s =>
    match printOnce (format.length + 1) format { s with used := false } with
    | (s, some failure) => (s, some failure)
    | (s, none) =>
      if s.stopped || !s.used || s.left.isEmpty then (s, none) else printAll format fuel s

/-- What `printf` writes, what it complains of, and why it fails. -/
def printText (args : List Octets) : Octets × List String × Option PrintFailure :=
  let args := match args with
    | ['-', '-'] :: rest => rest
    | _ => args
  match args with
  | [] => ([], [], some .missingFormat)
  | format :: values =>
    let (s, failure) := printAll format (values.length + 1) ⟨[], values, false, [], false⟩
    (s.out, s.complaints, failure)

end Crosscheck.Utility
