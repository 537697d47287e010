/-!
# Lines of a text

A line feed ends a line, and a carriage return right before it belongs to the ending. A text that
does not end in a line feed has a last line without one; there is no empty line after the last
line feed.
-/

namespace Crosscheck.Text

/-- `seen` is the current line so far, last character first. -/
def linesFrom (seen : List Char) : List Char → List (List Char)
  | [] => if seen.isEmpty then [] else [seen.reverse]
  | c :: cs =>
    if c = '\n' then
      (match seen with
        | '\r' :: body => body.reverse
        | body => body.reverse) :: linesFrom [] cs
    else linesFrom (c :: seen) cs

def lines (s : String) : List String :=
  (linesFrom [] s.toList).map String.ofList

end Crosscheck.Text
