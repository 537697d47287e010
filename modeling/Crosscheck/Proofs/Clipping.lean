import Crosscheck.Ledger
import Crosscheck.Proofs.Quoting

/-!
# What a bounded text tells of the whole

A bounded text tells how long the whole is and how it begins, and nothing else is lost of it. What
stands at its end may look like a note in the text itself. Which it is, the length tells: with a
note on what was left out there are more characters than the bound, and without there are not.
-/

namespace Crosscheck

namespace Text

variable {limit : ℕ} {s t : String}

/-- The number in a note can be read back, and so can what stands before it, if it is known how
long that is. -/
theorem append_note_inj {head head' : String} {m n : ℕ}
    (hlength : head.toList.length = head'.toList.length)
    (h : head ++ ("... [" ++ toString m ++ " chars omitted]") =
      head' ++ ("... [" ++ toString n ++ " chars omitted]")) : head = head' ∧ m = n := by
  have hchars := congrArg String.toList h
  simp only [String.toList_append, List.append_assoc] at hchars
  obtain ⟨hheads, hnotes⟩ := List.append_inj hchars hlength
  have hdigits : m.repr.toList = n.repr.toList :=
    List.append_cancel_right (List.append_cancel_left hnotes)
  exact ⟨String.toList_inj.1 hheads, repr_injective hdigits⟩

theorem clipMarked_of_lt (h : limit < s.toList.length) : clipMarked limit s =
    String.ofList (s.toList.take limit) ++
      ("... [" ++ toString (s.toList.length - limit) ++ " chars omitted]") := by
  have hsome : s.toList.length - limit ≠ 0 := by omega
  rw [clipMarked, clip, omission, if_neg hsome]

theorem length_ofList_take (h : limit < s.toList.length) :
    (String.ofList (s.toList.take limit)).toList.length = limit := by
  rw [String.toList_ofList, List.length_take_of_le (Nat.le_of_lt h)]

theorem lt_length_append_note (head : String) (omitted : ℕ) : head.toList.length <
    (head ++ ("... [" ++ toString omitted ++ " chars omitted]")).toList.length := by
  have hnote : 0 < "... [".toList.length := by decide
  simp only [String.toList_append, List.length_append]
  omega

/-- Only a note makes a text longer than the bound. -/
theorem lt_length_clipMarked_iff :
    limit < (clipMarked limit s).toList.length ↔ limit < s.toList.length := by
  constructor
  · intro h
    by_contra hle
    rw [clipMarked_of_length_le (Nat.not_lt.1 hle)] at h
    exact hle h
  · intro h
    have hnote := lt_length_append_note (String.ofList (s.toList.take limit))
      (s.toList.length - limit)
    rwa [length_ofList_take h, ← clipMarked_of_lt h] at hnote

theorem clipMarked_congr (hlength : s.toList.length = t.toList.length)
    (hhead : s.toList.take limit = t.toList.take limit) :
    clipMarked limit s = clipMarked limit t := by
  rw [clipMarked, clipMarked, clip, clip, hlength, hhead]

theorem kept_of_clipMarked_eq (h : clipMarked limit s = clipMarked limit t) :
    s.toList.length = t.toList.length ∧ s.toList.take limit = t.toList.take limit := by
  have hlonger : limit < s.toList.length ↔ limit < t.toList.length := by
    rw [← lt_length_clipMarked_iff, h, lt_length_clipMarked_iff]
  by_cases hs : limit < s.toList.length
  · have ht := hlonger.1 hs
    rw [clipMarked_of_lt hs, clipMarked_of_lt ht] at h
    obtain ⟨hheads, homitted⟩ :=
      append_note_inj ((length_ofList_take hs).trans (length_ofList_take ht).symm) h
    exact ⟨by omega, String.ofList_injective hheads⟩
  · have ht := mt hlonger.2 hs
    rw [clipMarked_of_length_le (Nat.not_lt.1 hs), clipMarked_of_length_le (Nat.not_lt.1 ht)] at h
    exact ⟨by rw [h], by rw [h]⟩

end Text

namespace Failure

/-- What the kept part of a detail tells of the whole. -/
structure Kept (detail : String) : Prop where
  /-- A detail that is not too long is kept as it is. -/
  whole : detail.toList.length ≤ maxDetail → truncateDetail detail = detail
  /-- Of a longer one the first characters are kept, with the number of those that follow. -/
  cut : maxDetail < detail.toList.length → ∃ head rest, detail = head ++ rest ∧
    head.toList.length = maxDetail ∧ truncateDetail detail =
      head ++ ("... [" ++ toString rest.toList.length ++ " chars omitted]")
  /-- What reads like a cut detail was cut, and from no other text. -/
  honest : ∀ head omitted, head.toList.length = maxDetail →
    truncateDetail detail = head ++ ("... [" ++ toString omitted ++ " chars omitted]") →
      ∃ rest, detail = head ++ rest ∧ rest.toList.length = omitted

theorem exists_cut {detail : String} (h : maxDetail < detail.toList.length) :
    ∃ head rest, detail = head ++ rest ∧ head.toList.length = maxDetail ∧
      truncateDetail detail =
        head ++ ("... [" ++ toString rest.toList.length ++ " chars omitted]") := by
  refine ⟨String.ofList (detail.toList.take maxDetail),
    String.ofList (detail.toList.drop maxDetail), ?_, Text.length_ofList_take h, ?_⟩
  · rw [← String.ofList_append, List.take_append_drop, String.ofList_toList]
  · rw [truncateDetail, Text.clipMarked_of_lt h, String.toList_ofList, List.length_drop]

theorem kept_truncateDetail (detail : String) : Kept detail where
  whole := Text.clipMarked_of_length_le
  cut := exists_cut
  honest := by
    intro head omitted hhead h
    have hnote := Text.lt_length_append_note head omitted
    rw [← h, hhead] at hnote
    obtain ⟨head', rest, hdetail, hhead', hcut⟩ :=
      exists_cut (Text.lt_length_clipMarked_iff.1 hnote)
    obtain ⟨rfl, homitted⟩ := Text.append_note_inj (hhead'.trans hhead.symm) (hcut.symm.trans h)
    exact ⟨rest, hdetail, homitted⟩

/-- Bounded texts are equal only if they must be: the whole texts are of one length, and what is
kept of them is the same. So nothing is lost of a detail but what its note counts. -/
theorem truncation_unambiguous (limit : ℕ) (s t : String) :
    (Text.clipMarked limit s = Text.clipMarked limit t ↔
      s.toList.length = t.toList.length ∧ s.toList.take limit = t.toList.take limit) ∧
    Kept s :=
  ⟨⟨Text.kept_of_clipMarked_eq, fun ⟨hlength, hhead⟩ => Text.clipMarked_congr hlength hhead⟩,
    kept_truncateDetail s⟩

example : Text.clipMarked 2 "héllo" = "hé... [3 chars omitted]" := by decide

end Failure

end Crosscheck
