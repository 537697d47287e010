/-!
# Bytes and text

Streams, paths and arguments are bytes. `utf8` writes a text as bytes. `lossy` reads any bytes as a
text: each maximal broken part of a sequence becomes one U+FFFD, so reading never fails. `strict?`
reads well-formed bytes only.

The reader takes one byte at a time. Between bytes it keeps the ranges that the next bytes of the
current character must lie in; a byte outside its range ends the broken part and starts anew.
-/

namespace Crosscheck

abbrev Bytes := List UInt8

namespace Text

def utf8Chars (cs : List Char) : Bytes :=
  cs.flatMap String.utf8EncodeChar

def utf8 (s : String) : Bytes :=
  utf8Chars s.toList

@[simp] theorem utf8Chars_nil : utf8Chars [] = [] := rfl

@[simp] theorem utf8Chars_cons (c : Char) (cs : List Char) :
    utf8Chars (c :: cs) = String.utf8EncodeChar c ++ utf8Chars cs := rfl

theorem utf8Chars_append (a b : List Char) : utf8Chars (a ++ b) = utf8Chars a ++ utf8Chars b := by
  simp [utf8Chars]

theorem utf8_append (a b : String) : utf8 (a ++ b) = utf8 a ++ utf8 b := by
  simp [utf8, utf8Chars_append]

theorem toNat_ofNat {n : Nat} (h : n.isValidChar) : (Char.ofNat n).toNat = n := by
  rw [Char.ofNat, dif_pos h]
  rfl

/-- The character put in place of what cannot be read. -/
def replacement : Char := '\uFFFD'

/-- Inclusive bounds for one byte. -/
structure ByteRange where
  low : UInt8
  high : UInt8
  deriving DecidableEq, Repr

def ByteRange.holds (r : ByteRange) (b : UInt8) : Bool :=
  r.low ≤ b && b ≤ r.high

/-- Any byte that may continue a character. -/
def ByteRange.tail : ByteRange := ⟨0x80, 0xBF⟩

/-- What the first byte of a character of two or more bytes says: the bits it carries and the
ranges of the bytes that must follow. -/
def lead? (b : UInt8) : Option (Nat × List ByteRange) :=
  if 0xC2 ≤ b && b ≤ 0xDF then some (b.toNat - 0xC0, [.tail])
  else if b = 0xE0 then some (0, [⟨0xA0, 0xBF⟩, .tail])
  else if b = 0xED then some (0xD, [⟨0x80, 0x9F⟩, .tail])
  else if 0xE1 ≤ b && b ≤ 0xEF then some (b.toNat - 0xE0, [.tail, .tail])
  else if b = 0xF0 then some (0, [⟨0x90, 0xBF⟩, .tail, .tail])
  else if 0xF1 ≤ b && b ≤ 0xF3 then some (b.toNat - 0xF0, [.tail, .tail, .tail])
  else if b = 0xF4 then some (4, [⟨0x80, 0x8F⟩, .tail, .tail])
  else none

/-- The reader between two bytes: nothing pending, or a character begun whose bits so far are
`bits`, with the ranges of the bytes it still needs. -/
inductive Reading where
  | fresh
  | pending (bits : Nat) (next : ByteRange) (later : List ByteRange)
  deriving DecidableEq, Repr

/-- A byte read with nothing pending. -/
def readFresh (b : UInt8) : List Char × Reading :=
  if b < 0x80 then ([Char.ofNat b.toNat], .fresh)
  else match lead? b with
    | some (bits, next :: later) => ([], .pending bits next later)
    | _ => ([replacement], .fresh)

def Reading.step : Reading → UInt8 → List Char × Reading
  | .fresh, b => readFresh b
  | .pending bits next later, b =>
    if next.holds b then
      let bits := bits * 64 + b.toNat % 64
      match later with
      | [] => ([Char.ofNat bits], .fresh)
      | next :: later => ([], .pending bits next later)
    else
      (replacement :: (readFresh b).1, (readFresh b).2)

def Reading.finish : Reading → List Char
  | .fresh => []
  | .pending .. => [replacement]

def readFrom : Reading → Bytes → List Char
  | r, [] => r.finish
  | r, b :: bs => (r.step b).1 ++ readFrom (r.step b).2 bs

/-- The text of any bytes. -/
def lossyChars (bs : Bytes) : List Char :=
  readFrom .fresh bs

def lossy (bs : Bytes) : String :=
  String.ofList (lossyChars bs)

@[simp] theorem toList_lossy (bs : Bytes) : (lossy bs).toList = lossyChars bs := by
  simp [lossy]

/-- The text of well-formed bytes: the one that is written as these very bytes. -/
def strict? (bs : Bytes) : Option String :=
  if utf8 (lossy bs) = bs then some (lossy bs) else none

theorem utf8_of_strict? {bs : Bytes} {s : String} (h : strict? bs = some s) : utf8 s = bs := by
  unfold strict? at h
  split at h
  · next hs => cases h; exact hs
  · cases h

end Text

end Crosscheck
