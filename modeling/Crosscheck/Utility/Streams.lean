import Crosscheck.Utility.Basic

/-!
# Utilities on streams

Copying, cutting, counting and changing what goes through a stream.
-/

namespace Crosscheck.Utility

def cat : Utility := fun args p =>
  let (_, operands) := takeFlags ['u'] args []
  overOperands "cat" (fun _ data p => p.write 1 data) operands p

/-- A count with a unit behind it. -/
def count? (text : Octets) : Option Nat :=
  let digits := text.takeWhile Char.isDigit
  match natural? digits, String.ofList (text.drop digits.length) with
  | some n, "" => some n
  | some n, "b" => some (n * 512)
  | some n, "k" | some n, "K" => some (n * 1024)
  | some n, "kB" => some (n * 1000)
  | some n, "M" => some (n * 1024 * 1024)
  | some n, "MB" => some (n * 1000 * 1000)
  | _, _ => none

/-- How much `head` or `tail` shows. -/
inductive Extent where
  | lines (n : Nat)
  | bytes (n : Nat)
  /-- All from a line or a byte on, counted from one. -/
  | fromLine (n : Nat)
  | fromByte (n : Nat)
  /-- All but the last. -/
  | butLines (n : Nat)
  | butBytes (n : Nat)
  deriving DecidableEq, Repr

/-- The value of an option that counts. -/
def extent? (isTail lines : Bool) (text : Octets) : Option Extent :=
  match text with
  | '+' :: rest =>
    if isTail then (count? rest).map (if lines then .fromLine else .fromByte)
    else (count? rest).map (if lines then .lines else .bytes)
  | '-' :: rest =>
    if isTail then (count? rest).map (if lines then .lines else .bytes)
    else (count? rest).map (if lines then .butLines else .butBytes)
  | _ => (count? text).map (if lines then .lines else .bytes)

/-- The options of `head` and `tail`. -/
def takeExtent (isTail : Bool) : List Octets → Extent → Except String (Extent × List Octets)
  | ['-', 'c'] :: value :: rest, _ => counted false value rest
  | ['-', 'n'] :: value :: rest, _ => counted true value rest
  | ('-' :: 'c' :: value) :: rest, _ => counted false value rest
  | ('-' :: 'n' :: value) :: rest, _ => counted true value rest
  | ['-', '-'] :: rest, e => .ok (e, rest)
  | ('-' :: c :: cs) :: rest, e =>
    match natural? (c :: cs) with
    | some n => .ok (.lines n, rest)
    | none => if c = 'q' && cs.isEmpty then .ok (e, rest) else .error ("invalid option -- '" ++ shown [c] ++ "'")
  | args, e => .ok (e, args)
where
  counted (lines : Bool) (value : Octets) (rest : List Octets) :
      Except String (Extent × List Octets) :=
    match extent? isTail lines value with
    | some e => .ok (e, rest)
    | none => .error ("invalid number of " ++ (if lines then "lines" else "bytes") ++ ": '" ++
        shown value ++ "'")

def headOf (e : Extent) (data : Bytes) : Bytes :=
  let lines := lineBytes data
  match e with
  | .lines n => (lines.take n).flatten
  | .bytes n => data.take n
  | .butLines n => (lines.take (lines.length - n)).flatten
  | .butBytes n => data.take (data.length - n)
  | .fromLine _ | .fromByte _ => data

def tailOf (e : Extent) (data : Bytes) : Bytes :=
  let lines := lineBytes data
  match e with
  | .lines n => (lines.drop (lines.length - n)).flatten
  | .bytes n => data.drop (data.length - n)
  | .fromLine n => (lines.drop (n - 1)).flatten
  | .fromByte n => data.drop (n - 1)
  | .butLines _ | .butBytes _ => data

/-- Shows the start of what an operand names. Of an endless device a number of bytes can be read. -/
def headOperand (e : Extent) (operand : Octets) (p : Process) : Except OsError Unit × Process :=
  match openOperand operand p with
  | .error cause => (.error cause, p)
  | .ok (number, p) =>
    match p.system.readable number, e with
    | .zeros, .bytes n => (.ok (), p.write 1 (List.replicate n 0))
    | .zeros, _ => (.ok (), hang p)
    | .failed cause, _ => (.error cause, p)
    | .bytes data, e =>
      let part := headOf e data
      let p := { p with system := p.system.skip number data.length (part.length == data.length) }
      (.ok (), p.write 1 part)

def head : Utility := fun args p =>
  match takeExtent false args (.lines 10) with
  | .error message => (1, complain "head" message p)
  | .ok (e, operands) =>
    let several := 1 < operands.length
    let (code, p, _) := (if operands.isEmpty then [['-']] else operands).foldl
      (fun (code, p, first) operand =>
        let title := if several then
            (if first then "" else "\n") ++ "==> " ++ shown operand ++ " <==\n" else ""
        match headOperand e operand (if title.isEmpty then p else put 1 title.toList p) with
        | (.ok (), p) => (code, p, false)
        | (.error cause, p) =>
          let verb := match cause with
            | .code 21 => "error reading '"
            | _ => "cannot open '"
          (1, complain "head" (verb ++ shown operand ++
            (if verb == "cannot open '" then "' for reading: " else "': ") ++ reason cause) p, false))
      (0, p, true)
    (code, p)

def tail : Utility := fun args p =>
  match takeExtent true args (.lines 10) with
  | .error message => (1, complain "tail" message p)
  | .ok (e, operands) =>
    (if operands.isEmpty then [['-']] else operands).foldl (fun (code, p) operand =>
      match readOperand operand p with
      | (.ok data, p) => (code, p.write 1 (tailOf e data))
      | (.error cause, p) =>
        (1, complain "tail" ("cannot open '" ++ shown operand ++ "' for reading: " ++ reason cause) p))
      (0, p)

/-! ### Translating characters -/

/-- The characters of a class. -/
def classChars (name : String) : List Char :=
  let all := (List.range 128).map Char.ofNat
  match name with
  | "upper" => all.filter Char.isUpper
  | "lower" => all.filter Char.isLower
  | "alpha" => all.filter Char.isAlpha
  | "digit" => all.filter Char.isDigit
  | "alnum" => all.filter Char.isAlphanum
  | "space" => ['\t', '\n', '\x0b', '\x0c', '\r', ' ']
  | "blank" => ['\t', ' ']
  | "punct" => all.filter fun c => '!' ≤ c && c ≤ '~' && !c.isAlphanum
  | "print" => all.filter fun c => ' ' ≤ c && c ≤ '~'
  | "graph" => all.filter fun c => '!' ≤ c && c ≤ '~'
  | "cntrl" => all.filter fun c => c < ' ' || c = '\x7f'
  | "xdigit" => all.filter fun c => c.isDigit || ('a' ≤ c && c ≤ 'f') || ('A' ≤ c && c ≤ 'F')
  | _ => []

def isOctal (c : Char) : Bool := '0' ≤ c && c ≤ '7'

/-- The characters of an operand with its escapes read, each with whether it was escaped. -/
def unescapeSet : Nat → Octets → List (Char × Bool)
  | 0, _ => []
  | _, [] => []
  | fuel + 1, '\\' :: c :: rest =>
    if isOctal c then
      let digits := (c :: rest).take 3 |>.takeWhile isOctal
      let n := digits.foldl (fun n d => n * 8 + (d.toNat - '0'.toNat)) 0
      (Char.ofNat (n % 256), true) :: unescapeSet fuel ((c :: rest).drop digits.length)
    else
      let d := match c with
        | 'n' => '\n'
        | 't' => '\t'
        | 'r' => '\r'
        | 'a' => '\x07'
        | 'b' => '\x08'
        | 'f' => '\x0c'
        | 'v' => '\x0b'
        | c => c
      (d, true) :: unescapeSet fuel rest
  | fuel + 1, c :: rest => (c, false) :: unescapeSet fuel rest

/-- The characters that an operand of `tr` lists. -/
def setChars : Nat → List (Char × Bool) → List Char
  | 0, _ => []
  | _, [] => []
  | fuel + 1, ('[', false) :: (':', false) :: rest =>
    let name := (rest.map (·.1)).takeWhile Char.isAlpha
    match rest.drop name.length with
    | (':', false) :: (']', false) :: more => classChars (String.ofList name) ++ setChars fuel more
    | _ => '[' :: setChars fuel ((':', false) :: rest)
  | fuel + 1, (a, _) :: ('-', false) :: (b, q) :: rest =>
    if a ≤ b then
      (List.range (b.toNat - a.toNat + 1)).map (fun i => Char.ofNat (a.toNat + i)) ++
        setChars fuel rest
    else a :: setChars fuel (('-', false) :: (b, q) :: rest)
  | fuel + 1, (a, _) :: rest => a :: setChars fuel rest

def charsOf (operand : Octets) : List Char :=
  let read := unescapeSet (operand.length + 1) operand
  setChars (read.length + 1) read

/-- A list made as long as wanted by repeating its last member. -/
def extendTo (n : Nat) (cs : List Char) : List Char :=
  match cs.getLast? with
  | some c => cs ++ List.replicate (n - cs.length) c
  | none => cs

/-- The text with runs of a character from `set` made single. -/
def squeeze (set : List Char) (text : Octets) : Octets :=
  (text.foldl (fun (out : List Char) c =>
    if out.head? = some c && c ∈ set then out else c :: out) []).reverse

def tr : Utility := fun args p =>
  let (flags, operands) := takeFlags ['c', 'C', 'd', 's', 't'] args []
  let complemented (set : List Char) : List Char :=
    if 'c' ∈ flags || 'C' ∈ flags then
      ((List.range 256).map Char.ofNat).filter (· ∉ set)
    else set
  let use (f : Octets → Octets) : Nat × Process :=
    match p.descriptor? 0 with
    | none => (1, complain "tr" ("read error: " ++ reason (.code 9)) p)
    | some number =>
      match readNumber number p with
      | (.ok data, p) => (0, put 1 (f (Text.octets data)) p)
      | (.error cause, p) => (1, complain "tr" ("read error: " ++ reason cause) p)
  match operands with
  | [a] =>
    let set := complemented (charsOf a)
    if 'd' ∈ flags then use fun text => text.filter (· ∉ set)
    else if 's' ∈ flags then use (squeeze set)
    else (1, complainUsage "tr"
      ("missing operand after '" ++ shown a ++ "'\nTwo strings must be given when translating.") p)
  | [a, b] =>
    let set := complemented (charsOf a)
    let other := charsOf b
    if 'd' ∈ flags then use fun text =>
      let kept := text.filter (· ∉ set)
      if 's' ∈ flags then squeeze other kept else kept
    else
      let pairs := set.zip (extendTo set.length other)
      let change (c : Char) : Char := (pairs.reverse.lookup c).getD c
      use fun text =>
        let changed := text.map change
        if 's' ∈ flags then squeeze other changed else changed
  | _ => (1, complainUsage "tr" "missing operand" p)

/-! ### Sums and counts -/

/-- One byte taken into the remainder, most significant bit first. -/
def crcStep (crc : UInt32) (b : UInt8) : UInt32 :=
  (List.range 8).foldl (fun crc _ =>
    if crc &&& 0x80000000 != 0 then (crc <<< 1) ^^^ 0x04C11DB7 else crc <<< 1)
    (crc ^^^ (b.toUInt32 <<< 24))

/-- The bytes of a length, least significant first. -/
def lengthBytes : Nat → Nat → Bytes
  | 0, _ => []
  | fuel + 1, n => if n = 0 then [] else (n % 256).toUInt8 :: lengthBytes fuel (n / 256)

/-- The checksum of data: the remainder over the data and then its length. -/
def crc (data : Bytes) : UInt32 :=
  ~~~((data ++ lengthBytes 8 data.length).foldl crcStep 0)

def cksum : Utility := fun args p =>
  overOperands "cksum" (fun operand data p =>
    let name := if args.isEmpty then [] else ' ' :: operand
    put 1 ((toString (crc data).toNat ++ " " ++ toString data.length).toList ++ name ++ ['\n']) p)
    args p

/-- The words of a text. -/
def wordCount (data : Bytes) : Nat :=
  (data.foldl (fun (n, inWord) b =>
    let blank := b = 0x20 || (0x09 ≤ b && b ≤ 0x0D)
    if blank then (n, false) else (if inWord then n else n + 1, true)) (0, false)).1

def padLeft (width : Nat) (s : String) : String :=
  String.ofList (List.replicate (width - s.length) ' ') ++ s

def wc : Utility := fun args p =>
  let (flags, operands) := takeFlags ['c', 'l', 'w', 'm'] args []
  let wants (c : Char) : Bool := flags.isEmpty || c ∈ flags
  overOperands "wc" (fun operand data p =>
    let counts :=
      (if wants 'l' then [data.countP (· == newline)] else []) ++
      (if wants 'w' then [wordCount data] else []) ++
      (if wants 'c' || 'm' ∈ flags then [data.length] else [])
    let texts := counts.map toString
    let width := if texts.length ≤ 1 then 0
      else if operands.isEmpty then 7 else (toString data.length).length
    let name := if operands.isEmpty then [] else ' ' :: operand
    put 1 ((String.intercalate " " (texts.map (padLeft width))).toList ++ name ++ ['\n']) p) operands p

def tee : Utility := fun args p =>
  let (flags, operands) := takeFlags ['a', 'i'] args []
  match readOperand ['-'] p with
  | (.error cause, p) => (1, complain "tee" ("read error: " ++ reason cause) p)
  | (.ok data, p) =>
    operands.foldl (fun (code, p) operand =>
      match p.openToWrite (pathOf operand) false (!flags.contains 'a') (flags.contains 'a') with
      | .ok (number, p) =>
        (code, match p.system.write p.pid number data with
          | .ok system => { p with system := system }
          | .error _ => p)
      | .error cause => (1, complain "tee" (shown operand ++ ": " ++ reason cause) p))
      (0, p.write 1 data)

def integer? (text : Octets) : Option Int :=
  match text with
  | '-' :: rest => (natural? rest).map fun n => -(n : Int)
  | _ => (natural? text).map Int.ofNat

/-- The numbers from `first` to `last`. -/
def numbers (first step last : Int) : List Int :=
  let count := if step = 0 then 0
    else if 0 < step then ((last - first) / step + 1).toNat
    else ((first - last) / (-step) + 1).toNat
  (List.range count).map fun (i : Nat) => first + (i : Int) * step

def seq : Utility := fun args p =>
  let run (first step last : Int) : Nat × Process :=
    (0, put 1 ((numbers first step last).flatMap fun n => (toString n).toList ++ ['\n']) p)
  match args.map integer? with
  | [some last] => run 1 1 last
  | [some first, some last] => run first 1 last
  | [some first, some step, some last] => run first step last
  | [] => (1, complainUsage "seq" "missing operand" p)
  | _ => (1, complain "seq" "invalid argument" p)

def yes : Utility := fun args p =>
  let line := (if args.isEmpty then ['y'] else List.intercalate [' '] args) ++ ['\n']
  let chunk := (List.replicate (System.pipeLimit / line.length + 2) line).flatten
  (0, hang (put 1 chunk p))

end Crosscheck.Utility
