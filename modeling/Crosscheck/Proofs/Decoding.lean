import Crosscheck.Text.Utf8
import Mathlib.Data.List.Basic

/-!
# Texts written as bytes

What is written as bytes is read back: the first byte of a character says how many bytes follow and
in what range the next one lies, and each of them has six bits of the number.
-/

namespace Crosscheck

namespace Text

/-- A byte within its range goes on with the character. -/
theorem step_pending {bits n : ℕ} {next : ByteRange} {later : List ByteRange}
    (hlow : next.low.toNat ≤ n) (hhigh : n ≤ next.high.toNat) :
    (Reading.pending bits next later).step (UInt8.ofNat n) =
      match later with
      | [] => ([Char.ofNat (bits * 64 + n % 64)], .fresh)
      | next :: later => ([], .pending (bits * 64 + n % 64) next later) := by
  have hmax : next.high.toNat < 256 := next.high.toNat_lt
  have hn : (UInt8.ofNat n).toNat = n := Nat.mod_eq_of_lt (by omega)
  have hholds : next.holds (UInt8.ofNat n) = true := by
    simp only [ByteRange.holds, Bool.and_eq_true, decide_eq_true_eq, UInt8.le_iff_toNat_le, hn]
    exact ⟨hlow, hhigh⟩
  cases later with
  | nil => simp only [Reading.step, hholds, hn, if_true]
  | cons next later => simp only [Reading.step, hholds, hn, if_true]

theorem step_last {bits n : ℕ} (hn : n < 64) :
    (Reading.pending bits .tail []).step (UInt8.ofNat (n + 0x80)) =
      ([Char.ofNat (bits * 64 + n)], .fresh) := by
  have hhigh : n + 0x80 ≤ ByteRange.tail.high.toNat := show n + 0x80 ≤ 0xBF by omega
  have hmod : (n + 0x80) % 64 = n := by omega
  rw [step_pending (Nat.le_add_left 0x80 n) hhigh, hmod]

theorem step_tail {bits n : ℕ} {later : List ByteRange} (hn : n < 64) :
    (Reading.pending bits .tail (.tail :: later)).step (UInt8.ofNat (n + 0x80)) =
      ([], .pending (bits * 64 + n) .tail later) := by
  have hhigh : n + 0x80 ≤ ByteRange.tail.high.toNat := show n + 0x80 ≤ 0xBF by omega
  have hmod : (n + 0x80) % 64 = n := by omega
  rw [step_pending (Nat.le_add_left 0x80 n) hhigh, hmod]

theorem readFresh_one : ∀ n < 0x80, readFresh (UInt8.ofNat n) = ([Char.ofNat n], .fresh) := by
  decide +kernel

theorem readFresh_two : ∀ a < 32, 2 ≤ a →
    readFresh (UInt8.ofNat (a + 0xC0)) = ([], .pending a .tail []) := by
  decide +kernel

/-- Two bytes read with nothing pending. -/
def readTwo (b b' : UInt8) : List Char × Reading :=
  let (cs, r) := readFresh b
  (cs ++ (r.step b').1, (r.step b').2)

/-- Some numbers have a shorter form, or are no characters: so the next byte has a narrower range
after some bytes. -/
theorem readTwo_of_three : ∀ a < 16, ∀ b < 64, a = 0 ∧ b < 32 ∨ a = 13 ∧ 32 ≤ b ∨
    readTwo (UInt8.ofNat (a + 0xE0)) (UInt8.ofNat (b + 0x80)) =
      ([], .pending (a * 64 + b) .tail []) := by
  decide +kernel

theorem readTwo_of_four : ∀ a < 5, ∀ b < 64, a = 0 ∧ b < 16 ∨ a = 4 ∧ 16 ≤ b ∨
    readTwo (UInt8.ofNat (a + 0xF0)) (UInt8.ofNat (b + 0x80)) =
      ([], .pending (a * 64 + b) .tail [.tail]) := by
  decide +kernel

theorem readFrom_two (b b' : UInt8) (bs : Bytes) :
    readFrom .fresh (b :: b' :: bs) = (readTwo b b').1 ++ readFrom (readTwo b b').2 bs :=
  (List.append_assoc _ _ _).symm

theorem readFrom_encode (c : Char) (bs : Bytes) :
    readFrom .fresh (String.utf8EncodeChar c ++ bs) = c :: readFrom .fresh bs := by
  have hchar {n : ℕ} (h : n = c.toNat) : Char.ofNat n = c := by rw [h, Char.ofNat_toNat]
  have hvalid : c.toNat < 0xD800 ∨ 0xDFFF < c.toNat ∧ c.toNat < 0x110000 := c.valid
  have hone (b : UInt8) (bs : Bytes) :
      readFrom .fresh (b :: bs) = (readFresh b).1 ++ readFrom (readFresh b).2 bs := rfl
  have hval : c.val.toNat = c.toNat := rfl
  unfold String.utf8EncodeChar
  rw [hval]
  generalize c.toNat = n at hchar hvalid
  simp only
  split
  · next h =>
    rw [List.singleton_append, hone, readFresh_one n (by omega), hchar rfl]
    rfl
  · split
    · next h =>
      have hmod : n / 64 % 32 = n / 64 := by omega
      rw [hmod]
      simp only [List.cons_append, List.nil_append]
      rw [hone, readFresh_two (n / 64) (by omega) (by omega), readFrom,
        step_last (Nat.mod_lt n (by decide)), hchar (by omega)]
      rfl
    · split
      · next h =>
        simp only [List.cons_append, List.nil_append]
        have htwo := readTwo_of_three (n / 4096 % 16) (by omega) (n / 64 % 64) (by omega)
        rw [readFrom_two, (htwo.resolve_left (by omega)).resolve_left (by omega), readFrom,
          step_last (Nat.mod_lt n (by decide)), hchar (by omega)]
        rfl
      · simp only [List.cons_append, List.nil_append]
        have htwo := readTwo_of_four (n / 262144 % 8) (by omega) (n / 4096 % 64) (by omega)
        rw [readFrom_two, (htwo.resolve_left (by omega)).resolve_left (by omega), readFrom,
          step_tail (Nat.mod_lt _ (by decide)), readFrom,
          step_last (Nat.mod_lt n (by decide)), hchar (by omega)]
        rfl

/-- What is written as bytes is read back. -/
theorem lossyChars_utf8Chars (cs : List Char) : lossyChars (utf8Chars cs) = cs := by
  induction cs with
  | nil => rfl
  | cons c cs ih =>
    rw [utf8Chars_cons, lossyChars, readFrom_encode]
    exact congrArg (c :: ·) ih

end Text

end Crosscheck
