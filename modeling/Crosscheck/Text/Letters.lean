/-!
# Letters

Names are compared without regard to the case of ASCII letters; all other characters stand for
themselves. Headings are in capitals; their texts are ASCII.
-/

namespace Crosscheck.Text

def lower (s : String) : String :=
  String.ofList (s.toList.map Char.toLower)

def upper (s : String) : String :=
  String.ofList (s.toList.map Char.toUpper)

/-- Equal up to the case of ASCII letters. -/
def sameLetters (a b : String) : Bool :=
  lower a == lower b

end Crosscheck.Text
