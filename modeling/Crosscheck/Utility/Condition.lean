import Crosscheck.Utility.Basic

/-!
# Conditions

What `test` decides: whether a file is there and of a kind, how texts and numbers compare, and what
follows from that by `!`, `-a`, `-o` and parentheses. With three operands of which the second is a
comparison, the others are taken as they are.
-/

namespace Crosscheck.Utility.Condition

/-- What an operand may be, besides a text. -/
inductive Operator where
  | one (c : Char)
  | two (s : String)
  | both
  | either
  | not
  | opening
  | closing
  deriving DecidableEq, Repr

/-- The letters of the conditions on one operand. -/
def letters : List Char :=
  ['r', 'w', 'x', 'e', 'f', 'd', 'c', 'b', 'p', 'u', 'g', 'k', 's', 't', 'z', 'n', 'h', 'O', 'G',
    'L', 'S']

def comparisons : List String :=
  ["=", "!=", "<", ">", "-eq", "-ne", "-ge", "-gt", "-le", "-lt", "-nt", "-ot", "-ef"]

def operator? (operand : Octets) : Option Operator :=
  match operand with
  | ['-', 'a'] => some .both
  | ['-', 'o'] => some .either
  | ['!'] => some .not
  | ['('] => some .opening
  | [')'] => some .closing
  | ['-', c] => if c ∈ letters then some (.one c) else none
  | _ => if String.ofList operand ∈ comparisons then some (.two (String.ofList operand)) else none

/-- What begins some operands. -/
inductive Lexeme where
  | finish
  | operand
  | sign (o : Operator)
  deriving DecidableEq, Repr

def isComparison (operand : Octets) : Bool :=
  match operator? operand with
  | some (.two _) => true
  | _ => false

/-- An operator on one operand is a text where none follows it, and where a comparison follows. -/
def lexeme : List Octets → Lexeme
  | [] => .finish
  | a :: rest =>
    match operator? a with
    | some (.one c) =>
      match rest with
      | [] => .operand
      | [_] => .sign (.one c)
      | second :: _ => if isComparison second then .operand else .sign (.one c)
    | some .opening => if rest.isEmpty then .operand else .sign .opening
    | some o => .sign o
    | none => .operand

/-- Why operands are no condition. -/
inductive Failure where
  | illegalNumber (text : Octets)
  | argumentExpected (operator : Octets)
  | unexpectedOperator (operand : Octets)
  | closingExpected
  | missingBracket
  deriving DecidableEq, Repr

def Failure.message : Failure → String
  | illegalNumber text => "Illegal number: " ++ shown text
  | argumentExpected operator => shown operator ++ ": argument expected"
  | unexpectedOperator operand => shown operand ++ ": unexpected operator"
  | closingExpected => "closing paren expected"
  | missingBracket => "missing ]"

/-- A condition on the file that an operand names. -/
def holdsOfFile (c : Char) (operand : Octets) (p : Process) : Bool :=
  let follow := c != 'h' && c != 'L'
  match p.files.entry p.here follow (pathOf operand) with
  | .error _ => false
  | .ok (_, e) =>
    match c, e with
    | 'f', .file .. => true
    | 'd', .directory => true
    | 'c', .device _ => true
    | 'h', .symlink _ | 'L', .symlink _ => true
    | 's', .file data _ => !data.isEmpty
    | 's', .directory => true
    | 'x', .file _ executable => executable
    | 'x', .directory => true
    | 'e', _ | 'r', _ | 'w', _ | 'O', _ | 'G', _ => true
    | _, _ => false

def holdsOfOne (c : Char) (operand : Octets) (p : Process) : Bool :=
  match c with
  | 'z' => operand.isEmpty
  | 'n' => !operand.isEmpty
  | 't' => false
  | _ => holdsOfFile c operand p

/-- The number that an operand is, between blanks. -/
def number (operand : Octets) : Except Failure Int :=
  let isBlank (c : Char) : Bool := c == ' ' || ('\t' ≤ c && c ≤ '\r')
  let body := ((operand.dropWhile isBlank).reverse.dropWhile isBlank).reverse
  let (negative, digits) := match body with
    | '-' :: rest => (true, rest)
    | '+' :: rest => (false, rest)
    | _ => (false, body)
  match natural? digits with
  | some n =>
    if n < Nat.pow 2 63 || (negative && n = Nat.pow 2 63) then .ok (if negative then -(n : Int) else n)
    else .error (.illegalNumber operand)
  | none => .error (.illegalNumber operand)

/-- Whether two operands lead to the same place. -/
def isSameFile (a b : Octets) (p : Process) : Bool :=
  match p.files.entry p.here true (pathOf a), p.files.entry p.here true (pathOf b) with
  | .ok (l, _), .ok (l', _) => l = l'
  | _, _ => false

def compare (op : String) (a b : Octets) (p : Process) : Except Failure Bool :=
  let numbers (holds : Int → Int → Bool) : Except Failure Bool := do
    return holds (← number a) (← number b)
  match op with
  | "=" => .ok (a = b)
  | "!=" => .ok (a ≠ b)
  | "<" => .ok (a < b)
  | ">" => .ok (b < a)
  | "-eq" => numbers (· == ·)
  | "-ne" => numbers (· != ·)
  | "-ge" => numbers (· ≥ ·)
  | "-gt" => numbers (· > ·)
  | "-le" => numbers (· ≤ ·)
  | "-lt" => numbers (· < ·)
  | "-ef" => .ok (isSameFile a b p)
  | _ => .ok false

/-- A value, and the operands from the last one on that belongs to it. -/
abbrev Decided := Except Failure (Bool × List Octets)

/-- What a word and the two after it come to, if the second is a comparison. -/
def ofOperand (p : Process) (args : List Octets) : Decided :=
  match args with
  | a :: op :: rest =>
    match operator? op with
    | some (.two s) =>
      match rest with
      | b :: _ => (compare s a b p).map (·, rest)
      | [] => .error (.argumentExpected op)
    | _ => .ok (!a.isEmpty, args)
  | a :: _ => .ok (!a.isEmpty, args)
  | [] => .ok (false, [])

mutual

def disjunction (p : Process) : Nat → List Octets → Decided
  | 0, args => .ok (false, args)
  | fuel + 1, args => do
    let (a, args) ← conjunction p fuel args
    if lexeme (args.drop 1) = .sign .either then
      let (b, args) ← disjunction p fuel (args.drop 2)
      return (a || b, args)
    else return (a, args)

def conjunction (p : Process) : Nat → List Octets → Decided
  | 0, args => .ok (false, args)
  | fuel + 1, args => do
    let (a, args) ← negation p fuel args
    if lexeme (args.drop 1) = .sign .both then
      let (b, args) ← conjunction p fuel (args.drop 2)
      return (a && b, args)
    else return (a, args)

def negation (p : Process) : Nat → List Octets → Decided
  | 0, args => .ok (false, args)
  | fuel + 1, args => do
    if lexeme args = .sign .not then
      if args.length = 1 then return (true, args)
      let (a, args) ← negation p fuel (args.drop 1)
      return (!a, args)
    else primary p fuel args

def primary (p : Process) : Nat → List Octets → Decided
  | 0, args => .ok (false, args)
  | fuel + 1, args => do
    match lexeme args, args with
    | .finish, _ => return (false, [])
    | .sign .opening, _ :: rest =>
      if lexeme rest = .sign .closing then return (false, rest)
      let (a, args) ← disjunction p fuel rest
      let args := args.drop 1
      if lexeme args = .sign .closing then return (a, args) else throw .closingExpected
    | .sign (.one c), op :: rest =>
      match rest with
      | operand :: _ => return (holdsOfOne c operand p, rest)
      | [] => throw (.argumentExpected op)
    | _, _ => ofOperand p args

end

/-- Decides operands from the left; none may be left over. -/
def decideAll (args : List Octets) (p : Process) : Except Failure Bool := do
  let (a, args) ← disjunction p (4 * args.length + 4) args
  match args with
  | last :: _ :: _ => throw (.unexpectedOperator last)
  | _ => return a

/-- Decides operands, of which few are read in their own way. -/
def decide (args : List Octets) (p : Process) : Except Failure Bool :=
  match args with
  | [] => .ok false
  | [a, op, b] =>
    match operator? op with
    | some (.two s) => compare s a b p
    | _ => bracketed args
  | [_, _, _, _] => bracketed args
  | _ => decideAll args p
where
  /-- Operands in parentheses, or after a negation. -/
  bracketed (args : List Octets) : Except Failure Bool :=
    match args with
    | ['('] :: rest =>
      if args.getLast? = some [')'] then inner rest.dropLast else decideAll args p
    | ['!'] :: rest => (inner rest).map (!·)
    | _ => decideAll args p
  /-- What is left after that. -/
  inner (args : List Octets) : Except Failure Bool :=
    match args with
    | [a, op, b] =>
      match operator? op with
      | some (.two s) => compare s a b p
      | _ => decideAll args p
    | _ => decideAll args p

end Crosscheck.Utility.Condition

namespace Crosscheck.Utility

/-- Decides a condition; `bracket` says that a bracket has to close it. -/
def condition (bracket : Bool) (args : List Octets) (p : Process) :
    Except Condition.Failure Bool :=
  if bracket then
    if args.getLast? = some [']'] then Condition.decide args.dropLast p else .error .missingBracket
  else Condition.decide args p

/-- The exit code that stands for a condition. -/
def codeOf (holds : Bool) : Nat := if holds then 0 else 1

/-- A condition as a program. -/
def test (name : String) (bracket : Bool) : Utility := fun args p =>
  match condition bracket args p with
  | .ok holds => (codeOf holds, p)
  | .error failure => (2, complain name failure.message p)

end Crosscheck.Utility
