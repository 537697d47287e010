import Crosscheck.Machine.Process
import Crosscheck.Text.Octets

/-!
# Utilities

A utility is a program that is part of the machine. It gets its arguments without its own name,
works on a process, and ends with an exit code. What it reads comes all at once; an endless device
has no end to wait for, so reading all of it never finishes.
-/

namespace Crosscheck

abbrev Utility := List Octets → Process → Nat × Process

namespace Utility

def pathOf (operand : Octets) : Path := ⟨Text.ofOctets operand⟩

/-- The text of an error of the system. -/
def reason : OsError → String
  | .code n => OsError.codeText n
  | cause => cause.message

/-- Octets of an operand as a text for a message. -/
def shown (operand : Octets) : String := String.ofList operand

/-- Writes octets. -/
def put (fd : Nat) (text : Octets) (p : Process) : Process := p.write fd (Text.ofOctets text)

/-- Writes a message to the error stream. -/
def complain (name message : String) (p : Process) : Process :=
  put 2 (Text.octetsOf name ++ Text.octetsOf ": " ++ message.toList ++ ['\n']) p

/-- Writes a message about how a utility was called, and where help is to be had. -/
def complainUsage (name message : String) (p : Process) : Process :=
  put 2 ("Try '" ++ name ++ " --help' for more information.\n").toList (complain name message p)

/-- Whether the output goes to a program that may stop reading. -/
def isPiped (p : Process) : Bool :=
  match (p.descriptor? 1).bind fun number => (p.system.openFile? number).map OpenFile.channel with
  | some (.pipe n) => !(p.system.pipe n).drained
  | _ => false

/-- Lets the process go on without end. One that writes to a pipe ends when its reader does. -/
def hang (p : Process) : Process :=
  match p.system.horizon with
  | some h =>
    if isPiped p then { p with trouble := some .broken }
    else { p with system := p.system.waitUntil h }
  | none => { p with trouble := some .broken }

/-- What an operand names: the standard input, or a file. -/
def openOperand (operand : Octets) (p : Process) : Except OsError (Nat × Process) :=
  if operand = ['-'] then
    match p.descriptor? 0 with
    | some number => .ok (number, p)
    | none => .error (.code 9)
  else p.openToRead (pathOf operand)

/-- Reads an open file to its end. -/
def readNumber (number : Nat) (p : Process) : Except OsError Bytes × Process :=
  match p.system.readable number with
  | .bytes data => (.ok data, { p with system := p.system.skip number data.length true })
  | .zeros => (.ok (List.replicate (System.pipeLimit + 1) 0), hang p)
  | .failed cause => (.error cause, p)

/-- Reads what an operand names to its end. -/
def readOperand (operand : Octets) (p : Process) : Except OsError Bytes × Process :=
  match openOperand operand p with
  | .ok (number, p) => readNumber number p
  | .error cause => (.error cause, p)

/-- Goes through operands, the standard input if there are none. `use` gets the data of each; one
that cannot be read is complained about, and the exit code is then one. -/
def overOperands (name : String) (use : Octets → Bytes → Process → Process) (operands : List Octets)
    (p : Process) : Nat × Process :=
  (if operands.isEmpty then [['-']] else operands).foldl (fun (code, p) operand =>
    match readOperand operand p with
    | (.ok data, p) => (code, use operand data p)
    | (.error cause, p) =>
      let shownAs := if operand = ['-'] then "-" else shown operand
      (1, complain name (shownAs ++ ": " ++ reason cause) p)) (0, p)

def newline : UInt8 := 0x0A

/-- The lines of data, each with its end. -/
def lineBytes (data : Bytes) : List Bytes :=
  let (lines, last) := data.foldl (fun (lines, last) b =>
    if b = newline then ((b :: last).reverse :: lines, []) else (lines, b :: last))
    (([] : List Bytes), ([] : Bytes))
  (if last.isEmpty then lines else last.reverse :: lines).reverse

/-- The number that a text is in decimal digits. -/
def natural? (text : Octets) : Option Nat :=
  if !text.isEmpty && text.all Char.isDigit then
    some (text.foldl (fun n c => n * 10 + (c.toNat - '0'.toNat)) 0)
  else none

/-- Splits the options in front, whose letters are in `letters`, from the operands. -/
def takeFlags (letters : List Char) : List Octets → List Char → List Char × List Octets
  | ['-', '-'] :: rest, flags => (flags, rest)
  | ('-' :: c :: cs) :: rest, flags =>
    if (c :: cs).all (· ∈ letters) then takeFlags letters rest (flags ++ c :: cs)
    else (flags, ('-' :: c :: cs) :: rest)
  | args, flags => (flags, args)

end Utility

end Crosscheck
