import Crosscheck.Command

/-!
# Errors that end a run

A case that fails is no error. An error ends the whole run: something that every case needs is
missing, the input makes no sense, or the system failed.
-/

namespace Crosscheck

inductive Error where
  | missing (what : String) (path : Path)
  | toolUnavailable (tool : String) (reason : String)
  | invalidInput (text : String)
  | io (cause : OsError)
  deriving DecidableEq, Repr

namespace Error

def message : Error → String
  | missing what path => "missing " ++ what ++ ": " ++ path.display
  | toolUnavailable tool reason => "tool unavailable: " ++ tool ++ " (" ++ reason ++ ")"
  | invalidInput text => "invalid input: " ++ text
  | io cause => "IO error: " ++ cause.message

/-- Whether something is missing, as opposed to wrong. -/
def isPrecondition : Error → Bool
  | missing .. | toolUnavailable .. => true
  | _ => false

end Error

/-- What ends a run: an error, or a time limit that reaches past the end of the clock. -/
inductive Fatal where
  | error (e : Error)
  | deadlineOverflow
  deriving DecidableEq, Repr

end Crosscheck
