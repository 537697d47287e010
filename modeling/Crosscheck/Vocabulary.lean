import Crosscheck.Pieces
import Crosscheck.Text.Blank
import Crosscheck.Text.Letters

/-!
# Named choices and lists of them

A vocabulary names the values of a type that a user may choose from: some spellings for each,
compared without regard to the case of letters. A list of choices is the word `all`, or one
spelling after the other with commas between them and white space around each at will. The first
piece that is no spelling is the error.
-/

namespace Crosscheck

structure Vocabulary (α : Type) where
  /-- What one value is called. -/
  noun : String
  /-- Lower-case spellings with their values. -/
  spellings : List (String × α)
  /-- Every value, in the order of reports. -/
  all : List α
  /-- The spellings that an error recommends. -/
  expected : String

/-- A text that is no spelling of anything. -/
structure UnknownName where
  noun : String
  given : String
  expected : String
  deriving DecidableEq, Repr

def UnknownName.message (e : UnknownName) : String :=
  "unknown " ++ e.noun ++ " '" ++ e.given ++ "', expected one of: " ++ e.expected

namespace Vocabulary

variable {α : Type} (v : Vocabulary α)

def parse (s : String) : Except UnknownName α :=
  match v.spellings.find? fun entry => entry.1 == Text.lower s with
  | some (_, a) => .ok a
  | none => .error ⟨v.noun, s, v.expected⟩

/-- The pieces of a list, each without the white space around it. -/
def listPieces (s : String) : List String :=
  (pieces ',' s.toList).map fun piece => Text.trim (String.ofList piece)

def parseList (s : String) : Except UnknownName (List α) :=
  if Text.sameLetters s "all" then .ok v.all
  else (listPieces s).mapM v.parse

end Vocabulary

end Crosscheck
