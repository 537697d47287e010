import Crosscheck.Text.Octets

/-!
# Arithmetic of the shell

Expressions over signed numbers of 64 bits, with the operators and precedences of C. A name stands
for the number in its variable. An assignment takes effect for what is evaluated after it, and the
assignments made come with the result.
-/

namespace Crosscheck.Shell.Arithmetic

inductive Token where
  | number (n : Nat)
  | name (s : Octets)
  | sign (s : String)
  deriving DecidableEq, Repr

/-- The operators, longer ones before those they begin with. -/
def signs : List String :=
  ["<<=", ">>=", "&&", "||", "==", "!=", "<=", ">=", "<<", ">>", "+=", "-=", "*=", "/=", "%=", "&=",
    "^=", "|=", "+", "-", "*", "/", "%", "<", ">", "&", "^", "|", "!", "~", "=", "?", ":", "(", ")"]

def digitValue (c : Char) : Nat :=
  if c.isDigit then c.toNat - '0'.toNat
  else if c.isLower then c.toNat - 'a'.toNat + 10
  else c.toNat - 'A'.toNat + 10

def isHexDigit (c : Char) : Bool :=
  c.isDigit || ('a' ≤ c && c ≤ 'f') || ('A' ≤ c && c ≤ 'F')

def numberIn (base : Nat) (digits : Octets) : Nat :=
  digits.foldl (fun n c => n * base + digitValue c) 0

/-- The digits of a number at the start of a text, where `0x` and `0` in front name the base. -/
def numberDigits (text : Octets) : Octets :=
  match text with
  | '0' :: x :: c :: rest =>
    if (x = 'x' || x = 'X') && isHexDigit c then '0' :: x :: (c :: rest).takeWhile isHexDigit
    else text.takeWhile fun c => '0' ≤ c && c ≤ '7'
  | '0' :: _ => text.takeWhile fun c => '0' ≤ c && c ≤ '7'
  | _ => text.takeWhile Char.isDigit

/-- The value of digits, where `0x` and `0` in front name the base. -/
def numberOf? (digits : Octets) : Option Nat :=
  match digits with
  | '0' :: 'x' :: rest | '0' :: 'X' :: rest =>
    if !rest.isEmpty && rest.all isHexDigit then some (numberIn 16 rest) else none
  | '0' :: rest =>
    if rest.all fun c => '0' ≤ c && c ≤ '7' then some (numberIn 8 rest) else none
  | _ => if !digits.isEmpty && digits.all Char.isDigit then some (numberIn 10 digits) else none

def isNameChar (c : Char) : Bool := c.isAlphanum || c == '_'

def isBlank (c : Char) : Bool := c == ' ' || c == '\t' || c == '\n'

def tokens : Nat → Octets → Option (List Token)
  | 0, _ => none
  | fuel + 1, text =>
    match text.dropWhile isBlank with
    | [] => some []
    | c :: rest =>
      let word := (c :: rest).takeWhile isNameChar
      let after := (c :: rest).drop word.length
      if c.isDigit then do
        let digits := numberDigits (c :: rest)
        return .number (← numberOf? digits) :: (← tokens fuel ((c :: rest).drop digits.length))
      else if !word.isEmpty then do
        return .name word :: (← tokens fuel after)
      else do
        let s ← signs.find? fun s => s.toList.isPrefixOf (c :: rest)
        return .sign s :: (← tokens fuel ((c :: rest).drop s.length))

inductive Term where
  | number (n : Int)
  | name (s : Octets)
  | unary (op : String) (t : Term)
  | binary (op : String) (a b : Term)
  | choice (c a b : Term)
  /-- `op` is what the old value is combined by, if it is. -/
  | assign (name : Octets) (op : Option String) (t : Term)
  deriving Repr

inductive Failure where
  | expectingPrimary
  | expectingEnd
  | expectingColon
  | expectingParenthesis
  | divisionByZero
  | illegalNumber (text : Octets)
  deriving DecidableEq, Repr

/-- How tightly a binary operator binds. -/
def precedence? : String → Option Nat
  | "||" => some 1
  | "&&" => some 2
  | "|" => some 3
  | "^" => some 4
  | "&" => some 5
  | "==" | "!=" => some 6
  | "<" | "<=" | ">" | ">=" => some 7
  | "<<" | ">>" => some 8
  | "+" | "-" => some 9
  | "*" | "/" | "%" => some 10
  | _ => none

def assignment? : String → Option (Option String)
  | "=" => some none
  | "+=" => some (some "+")
  | "-=" => some (some "-")
  | "*=" => some (some "*")
  | "/=" => some (some "/")
  | "%=" => some (some "%")
  | "<<=" => some (some "<<")
  | ">>=" => some (some ">>")
  | "&=" => some (some "&")
  | "^=" => some (some "^")
  | "|=" => some (some "|")
  | _ => none

abbrev Parsed := Except Failure (Term × List Token)

mutual

def parseAssignment : Nat → List Token → Parsed
  | 0, _ => .error .expectingPrimary
  | fuel + 1, ts =>
    match ts with
    | .name x :: .sign s :: rest =>
      match assignment? s with
      | some op => do
        let (t, rest) ← parseAssignment fuel rest
        return (.assign x op t, rest)
      | none => parseChoice fuel ts
    | _ => parseChoice fuel ts

def parseChoice : Nat → List Token → Parsed
  | 0, _ => .error .expectingPrimary
  | fuel + 1, ts => do
    let (c, rest) ← parseBinary fuel 1 ts
    match rest with
    | .sign "?" :: rest =>
      let (a, rest) ← parseAssignment fuel rest
      match rest with
      | .sign ":" :: rest =>
        let (b, rest) ← parseChoice fuel rest
        return (.choice c a b, rest)
      | _ => throw .expectingColon
    | _ => return (c, rest)

/-- Operators that bind at least as tightly as `least`. -/
def parseBinary : Nat → Nat → List Token → Parsed
  | 0, _, _ => .error .expectingPrimary
  | fuel + 1, least, ts => do
    let (a, rest) ← parseUnary fuel ts
    parseMore fuel least a rest

def parseMore : Nat → Nat → Term → List Token → Parsed
  | 0, _, _, _ => .error .expectingPrimary
  | fuel + 1, least, a, ts =>
    match ts with
    | .sign s :: rest =>
      match precedence? s with
      | some p =>
        if p < least then .ok (a, ts)
        else do
          let (b, rest) ← parseBinary fuel (p + 1) rest
          parseMore fuel least (.binary s a b) rest
      | none => .ok (a, ts)
    | _ => .ok (a, ts)

def parseUnary : Nat → List Token → Parsed
  | 0, _ => .error .expectingPrimary
  | fuel + 1, ts =>
    match ts with
    | .number n :: rest => .ok (.number n, rest)
    | .name x :: rest => .ok (.name x, rest)
    | .sign "(" :: rest => do
      let (t, rest) ← parseAssignment fuel rest
      match rest with
      | .sign ")" :: rest => return (t, rest)
      | _ => throw .expectingParenthesis
    | .sign s :: rest =>
      if s = "!" || s = "~" || s = "-" || s = "+" then do
        let (t, rest) ← parseUnary fuel rest
        return (.unary s t, rest)
      else .error .expectingPrimary
    | [] => .error .expectingPrimary

end

/-- The signed number of 64 bits that a number wraps to. -/
def wrap (n : Int) : Int := n.bmod UInt64.size

/-- The bits of a number. -/
def bits (n : Int) : Nat := (n.emod UInt64.size).toNat

def truth (b : Bool) : Int := if b then 1 else 0

def applyBinary (op : String) (a b : Int) : Except Failure Int :=
  match op with
  | "+" => .ok (wrap (a + b))
  | "-" => .ok (wrap (a - b))
  | "*" => .ok (wrap (a * b))
  | "/" => if b = 0 then .error .divisionByZero else .ok (wrap (a.tdiv b))
  | "%" => if b = 0 then .error .divisionByZero else .ok (wrap (a.tmod b))
  | "<<" => .ok (wrap (bits a <<< (bits b % 64) : Nat))
  | ">>" => .ok (a >>> (bits b % 64))
  | "<" => .ok (truth (a < b))
  | "<=" => .ok (truth (a ≤ b))
  | ">" => .ok (truth (a > b))
  | ">=" => .ok (truth (a ≥ b))
  | "==" => .ok (truth (a == b))
  | "!=" => .ok (truth (a != b))
  | "&" => .ok (wrap (bits a &&& bits b : Nat))
  | "^" => .ok (wrap (bits a ^^^ bits b : Nat))
  | "|" => .ok (wrap (bits a ||| bits b : Nat))
  | _ => .error .expectingPrimary

def applyUnary (op : String) (a : Int) : Int :=
  match op with
  | "!" => truth (a == 0)
  | "~" => wrap (-a - 1)
  | "-" => wrap (-a)
  | _ => a

/-- The number that a variable's value stands for. -/
def valueOf (text : Octets) : Except Failure Int :=
  let body := (text.dropWhile isBlank).reverse.dropWhile isBlank |>.reverse
  let (negative, digits) := match body with
    | '-' :: rest => (true, rest)
    | '+' :: rest => (false, rest)
    | _ => (false, body)
  if body.isEmpty then .ok 0
  else match numberOf? digits with
    | some n => .ok (wrap (if negative then -(n : Int) else n))
    | none => .error (.illegalNumber text)

/-- Assigned values, the latest first. -/
abbrev Assigned := List (Octets × Int)

/-- The value of a term. `variable` gives the values from before. -/
def evaluate (value : Octets → Octets) (t : Term) (assigned : Assigned) :
    Except Failure (Int × Assigned) :=
  match t with
  | .number n => .ok (wrap n, assigned)
  | .name x =>
    match assigned.lookup x with
    | some n => .ok (n, assigned)
    | none => (valueOf (value x)).map (·, assigned)
  | .unary op t => do
    let (a, assigned) ← evaluate value t assigned
    return (applyUnary op a, assigned)
  | .binary "&&" a b => do
    let (x, assigned) ← evaluate value a assigned
    if x = 0 then return (0, assigned)
    else
      let (y, assigned) ← evaluate value b assigned
      return (truth (y != 0), assigned)
  | .binary "||" a b => do
    let (x, assigned) ← evaluate value a assigned
    if x ≠ 0 then return (1, assigned)
    else
      let (y, assigned) ← evaluate value b assigned
      return (truth (y != 0), assigned)
  | .binary op a b => do
    let (x, assigned) ← evaluate value a assigned
    let (y, assigned) ← evaluate value b assigned
    return (← applyBinary op x y, assigned)
  | .choice c a b => do
    let (x, assigned) ← evaluate value c assigned
    if x ≠ 0 then evaluate value a assigned else evaluate value b assigned
  | .assign x op t => do
    let (n, assigned) ← evaluate value t assigned
    match op with
    | none => return (n, (x, n) :: assigned)
    | some op =>
      let old ← match assigned.lookup x with
        | some n => pure n
        | none => valueOf (value x)
      let n ← applyBinary op old n
      return (n, (x, n) :: assigned)

/-- The value of an expression. -/
def run (value : Octets → Octets) (text : Octets) : Except Failure (Int × Assigned) := do
  match tokens (text.length + 1) text with
  | none => throw .expectingPrimary
  | some [] => return (0, [])
  | some ts =>
    let (t, rest) ← parseAssignment (8 * ts.length + 8) ts
    if rest.isEmpty then evaluate value t [] else throw .expectingEnd

/-- How an error is described, with the expression. -/
def Failure.message (text : Octets) : Failure → String
  | .expectingPrimary => about "expecting primary"
  | .expectingEnd => about "expecting EOF"
  | .expectingColon => about "expecting ':'"
  | .expectingParenthesis => about "expecting ')'"
  | .divisionByZero => about "division by zero"
  | .illegalNumber t => "Illegal number: " ++ String.ofList t
where
  about (what : String) : String :=
    "arithmetic expression: " ++ what ++ ": \"" ++ String.ofList text ++ "\""

end Crosscheck.Shell.Arithmetic
