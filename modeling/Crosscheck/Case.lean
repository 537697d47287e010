import Crosscheck.Kind

/-!
# Cases

A case is one source program of a corpus. Its name is the file name without the extension, read as
text; every artifact of the case is named after it.
-/

namespace Crosscheck

structure Case where
  name : String
  source : Path
  kind : Kind
  deriving DecidableEq, Repr

namespace Case

/-- The name of a case whose path ends in no file name. -/
def unnamed : String := "unknown"

def ofPath (source : Path) (kind : Kind) : Case where
  name := match source.fileStem? with
    | some stem => Text.lossy stem
    | none => unnamed
  source := source
  kind := kind

end Case

end Crosscheck
