import Crosscheck.Utility.Condition
import Crosscheck.Utility.Files
import Crosscheck.Utility.Formats
import Crosscheck.Utility.Lines
import Crosscheck.Utility.Streams

/-!
# All utilities

The utilities of the machine by name. Those that run other programs are not among them.
-/

namespace Crosscheck.Utility

def echo : Utility := fun args p =>
  let (flags, operands) := match args with
    | ['-', 'n'] :: rest => (['n'], rest)
    | ['-', 'e'] :: rest => (['e'], rest)
    | _ => ([], args)
  let text :=
    if 'e' ∈ flags then echoText operands
    else List.intercalate [' '] operands ++ if 'n' ∈ flags then [] else ['\n']
  (0, put 1 text p)

def printf : Utility := fun args p =>
  let (text, complaints, failure) := printText args
  let p := put 1 text p
  let messages := complaints ++ (failure.map PrintFailure.message).toList
  (codeOf messages.isEmpty, messages.foldl (fun p m => complain "printf" m p) p)

def pwd : Utility := fun _ p =>
  (0, put 1 (Text.octets (Location.path p.here).bytes ++ ['\n']) p)

/-- The nanoseconds in a unit of time. -/
def unit? : Octets → Option Nat
  | [] | ['s'] => some 1000000000
  | ['m'] => some 60000000000
  | ['h'] => some 3600000000000
  | ['d'] => some 86400000000000
  | _ => none

/-- A time as a decimal number with a unit, in nanoseconds. -/
def time? (text : Octets) : Option Nat :=
  let whole := text.takeWhile Char.isDigit
  let rest := text.drop whole.length
  let (places, rest) := match rest with
    | '.' :: more => (more.takeWhile Char.isDigit, more.dropWhile Char.isDigit)
    | _ => ([], rest)
  let digits := whole ++ places
  if digits.isEmpty then none
  else do
    let unit ← unit? rest
    let n ← natural? digits
    return n * unit / Nat.pow 10 places.length

def sleep : Utility := fun args p =>
  if args.isEmpty then
    (1, complainUsage "sleep" "missing operand" p)
  else if args.any fun a => a = "infinity".toList || a = "inf".toList then (0, hang p)
  else match args.mapM time? with
    | some times => (0, p.sleep (times.foldl (· + ·) 0))
    | none =>
      let bad := args.filter fun a => (time? a).isNone
      let messages := bad.map fun a => "invalid time interval " ++ quoted a
      (1, complainUsage "sleep" (String.intercalate "\nsleep: " messages) p)

/-- The utilities by name. -/
def table : List (String × Utility) := [
  ("true", fun _ p => (0, p)),
  ("false", fun _ p => (1, p)),
  ("echo", echo),
  ("printf", printf),
  ("pwd", pwd),
  ("sleep", sleep),
  ("test", test "test" false),
  ("[", test "[" true),
  ("cat", cat),
  ("head", head),
  ("tail", tail),
  ("tr", tr),
  ("cksum", cksum),
  ("wc", wc),
  ("tee", tee),
  ("seq", seq),
  ("yes", yes),
  ("sed", sed),
  ("mkdir", mkdir),
  ("rmdir", rmdir),
  ("rm", rm),
  ("touch", touch),
  ("chmod", chmod),
  ("cp", cp),
  ("mv", mv),
  ("ln", ln),
  ("ls", ls),
  ("basename", basename),
  ("dirname", dirname)]

def find? (name : String) : Option Utility := table.lookup name

/-- The programs that run others. -/
def runners : List String := ["sh", "dash", "env"]

end Crosscheck.Utility
