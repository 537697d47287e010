/-!
# Bounded texts

`clip` cuts a text after a number of characters and says how many it left out. `clipMarked` writes
that number behind the head, so a reader of the result knows what is missing.
-/

namespace Crosscheck.Text

/-- The first `limit` characters, and how many follow them. -/
def clip (limit : Nat) (s : String) : String × Nat :=
  (String.ofList (s.toList.take limit), s.toList.length - limit)

/-- What stands for `omitted` characters left out. -/
def omission (omitted : Nat) : String :=
  if omitted = 0 then "" else "... [" ++ toString omitted ++ " chars omitted]"

/-- The first `limit` characters, followed by a note when there are more. -/
def clipMarked (limit : Nat) (s : String) : String :=
  (clip limit s).1 ++ omission (clip limit s).2

theorem clip_of_length_le {limit : Nat} {s : String} (h : s.toList.length ≤ limit) :
    clip limit s = (s, 0) := by
  simp only [clip, List.take_of_length_le h, String.ofList_toList, Prod.mk.injEq, true_and]
  omega

theorem clipMarked_of_length_le {limit : Nat} {s : String} (h : s.toList.length ≤ limit) :
    clipMarked limit s = s := by
  simp [clipMarked, clip_of_length_le h, omission]

end Crosscheck.Text
