import Crosscheck.Proofs.Clipping
import Crosscheck.Proofs.Reasons

/-!
# Lines that a report leaves out

Under the name of a test a report shows the first lines of what was kept of a detail, and says how
many more of these there are. Lines that were cut off when the failure was recorded are not counted.
So what the report says is true of the detail unless lines of it were cut off.
-/

namespace Crosscheck

namespace Text

/-- Of a text that is not empty every line but the last ends in a feed that does not end the
text. -/
theorem length_linesFrom {seen cs : List Char} (h : seen ≠ [] ∨ cs ≠ []) :
    (linesFrom seen cs).length = cs.dropLast.count '\n' + 1 := by
  induction cs generalizing seen with
  | nil =>
    have hseen : seen.isEmpty = false := by simpa using h
    rw [linesFrom, hseen]
    rfl
  | cons c cs ih =>
    unfold linesFrom
    by_cases hc : c = '\n'
    · rw [if_pos hc, List.length_cons]
      cases cs with
      | nil => rfl
      | cons d cs =>
        rw [ih (.inr (List.cons_ne_nil d cs)), List.dropLast_cons_cons, hc, List.count_cons_self]
    · rw [if_neg hc, ih (.inl (List.cons_ne_nil c seen))]
      cases cs with
      | nil => rfl
      | cons d cs => rw [List.dropLast_cons_cons, List.count_cons_of_ne hc]

theorem length_lines_append {s t : String} (ht : t ≠ "") : (lines (s ++ t)).length =
    s.toList.count '\n' + t.toList.dropLast.count '\n' + 1 := by
  have hne : t.toList ≠ [] := by simpa using ht
  rw [lines, List.length_map, String.toList_append,
    length_linesFrom (.inr (List.append_ne_nil_of_right_ne_nil _ hne)),
    List.dropLast_append_of_ne_nil hne, List.count_append]

end Text

namespace Failure

/-- How many lines the kept part of a detail has less: one for each feed that is cut off, but for a
feed that ends the detail. -/
def linesCut (detail : String) : ℕ := (detail.toList.drop maxDetail).dropLast.count '\n'

theorem length_lines_truncateDetail (detail : String) : (Text.lines detail).length =
    (Text.lines (truncateDetail detail)).length + linesCut detail := by
  by_cases hlong : maxDetail < detail.toList.length
  · obtain ⟨head, rest, rfl, hhead, hcut⟩ := exists_cut hlong
    have hrest : rest ≠ "" := by
      rintro rfl
      rw [String.append_empty, hhead] at hlong
      exact lt_irrefl _ hlong
    have hdrop : linesCut (head ++ rest) = rest.toList.dropLast.count '\n' := by
      rw [linesCut, String.toList_append, ← hhead, List.drop_left]
    have hnote : Report.OneLine ("... [" ++ toString rest.toList.length ++ " chars omitted]") :=
      ((show Report.OneLine "... [" by decide).append (Report.oneLine_toString _)).append
        (by decide)
    have hsome : "... [" ++ toString rest.toList.length ++ " chars omitted]" ≠ "" := by
      intro h
      have hchars := congrArg String.toList h
      simp at hchars
    rw [hcut, hdrop, Text.length_lines_append hrest, Text.length_lines_append hsome,
      List.count_eq_zero_of_not_mem fun h => hnote ((List.dropLast_sublist _).subset h)]
    omega
  · rw [truncateDetail, Text.clipMarked_of_length_le (Nat.not_lt.1 hlong), linesCut,
      List.drop_of_length_le (Nat.not_lt.1 hlong)]
    rfl

end Failure

namespace Report

/-- The line that says how many lines are not shown. -/
def moreLines (k : ℕ) : String := "      ... (" ++ toString k ++ " more lines)"

theorem moreLines_injective {j k : ℕ} (h : moreLines j = moreLines k) : j = k := by
  have hchars := congrArg String.toList h
  simp only [moreLines, String.toList_append] at hchars
  exact Text.repr_injective (List.append_cancel_left (List.append_cancel_right hchars))

/-- Whether a line of the detail is shown as a line that says this. -/
def Imitates (detail : String) (k : ℕ) : Prop :=
  ∃ line ∈ (Text.lines detail).take detailLines, detailLine? line = some (moreLines k)

theorem mem_detailPart_iff {detail : String} {k : ℕ} : moreLines k ∈ detailPart detail ↔
    Imitates detail k ∨ 0 < k ∧ (Text.lines detail).length = detailLines + k := by
  unfold detailPart
  simp only [List.mem_append, List.mem_filterMap]
  refine or_congr Iff.rfl ?_
  split
  · next hmore =>
    rw [List.mem_singleton]
    constructor
    · intro h
      obtain rfl := moreLines_injective h
      omega
    · rintro ⟨-, hlength⟩
      rw [hlength, Nat.add_sub_cancel_left, moreLines]
  · next hall =>
    have hnone : ¬(0 < k ∧ (Text.lines detail).length = detailLines + k) := by omega
    simp [hnone]

theorem mem_entry_iff {f : Failure} {k : ℕ} : moreLines k ∈ entry f ↔
    Imitates f.detail k ∨ 0 < k ∧ (Text.lines f.detail).length = detailLines + k := by
  rw [← mem_detailPart_iff, entry, List.mem_cons]
  refine or_iff_right fun h => ?_
  -- the name of a test stands behind a bullet
  have hbullet := congrArg (fun s : String => s.toList[4]?) h
  simp [moreLines] at hbullet

/-- Whether an entry says of a detail how many of its lines are not shown, and says nothing where
there are none. -/
def Truthful (f : Failure) (detail : String) : Prop :=
  ∀ k, moreLines k ∈ entry f ↔ 0 < k ∧ (Text.lines detail).length = detailLines + k

/-- The entry of a recorded failure stands in every report on it, and says how many lines of the
detail are not shown, less those that were cut off. So, if no line of the detail looks like that, it
is truthful exactly if none was cut off or the detail has no more lines than are shown. -/
theorem remainder_stated (c : Case) (target : Target) {o : Outcome} (h : o.isFailure = true) :
    ∃ f, Failure.ofOutcome? c target o = some f ∧
      (∀ l : Ledger, f ∈ l.failures → ∃ front back,
        l.report = String.join ((front ++ entry f ++ back).map (· ++ "\n"))) ∧
      (∀ k, moreLines k ∈ entry f ↔ Imitates f.detail k ∨ 0 < k ∧
        (Text.lines o.detail).length = detailLines + k + Failure.linesCut o.detail) ∧
      ((∀ k, ¬Imitates f.detail k) → (Truthful f o.detail ↔
        Failure.linesCut o.detail = 0 ∨ (Text.lines o.detail).length ≤ detailLines)) := by
  rw [Outcome.isFailure_eq_isSome_stage?, Option.isSome_iff_exists] at h
  obtain ⟨stage, hstage⟩ := h
  let f : Failure := ⟨c.name, c.kind, target, stage, Failure.truncateDetail o.detail⟩
  have hlines : (Text.lines o.detail).length =
      (Text.lines f.detail).length + Failure.linesCut o.detail :=
    Failure.length_lines_truncateDetail o.detail
  have hmem (k : ℕ) : moreLines k ∈ entry f ↔ Imitates f.detail k ∨ 0 < k ∧
      (Text.lines o.detail).length = detailLines + k + Failure.linesCut o.detail := by
    rw [mem_entry_iff, hlines, Nat.add_right_cancel_iff]
  refine ⟨f, by rw [Failure.ofOutcome?, hstage, Option.map_some],
    fun l hf => Ledger.entry_in_report hf, hmem, fun hnone => ?_⟩
  have hsaid (k : ℕ) : moreLines k ∈ entry f ↔ 0 < k ∧
      (Text.lines o.detail).length = detailLines + k + Failure.linesCut o.detail := by
    rw [hmem, or_iff_right (hnone k)]
  unfold Truthful
  simp only [hsaid]
  constructor
  · intro htruthful
    by_contra hcut
    have hleft := (htruthful ((Text.lines o.detail).length - detailLines)).2 (by omega)
    omega
  · intro hcut k
    omega

/-- A detail of five lines, one of them empty, is short enough to be kept as it is. -/
theorem remainder_stated_whole :
    let o : Outcome := .failedAtCompilation "a\n\nc\nd\ne"
    o.isFailure = true ∧ ∃ f, Failure.ofOutcome? ⟨"a", .ofText "a.c", .c⟩ .riscv64 o = some f ∧
      Truthful f o.detail ∧ moreLines 2 ∈ entry f := by
  intro o
  obtain ⟨f, hf, -, -, htruthful⟩ := remainder_stated ⟨"a", .ofText "a.c", .c⟩ .riscv64
    (show o.isFailure = true from rfl)
  have hdetail : f.detail = "a\n\nc\nd\ne" := by
    cases hf
    decide
  have hnone : ∀ k, ¬Imitates f.detail k := by
    have hshown : ∀ line ∈ (Text.lines f.detail).take detailLines, ∀ shown ∈ detailLine? line,
        shown.toList[6]? ≠ some '.' := by
      rw [hdetail]
      decide
    rintro k ⟨line, hline, hk⟩
    refine hshown line hline _ hk ?_
    simp [moreLines]
  have htrue := (htruthful hnone).2 (.inl (by decide))
  exact ⟨rfl, f, hf, htrue, (htrue 2).2 (by decide)⟩

/-- Three hundred lines of one letter each. -/
def column : List Char := (List.replicate 300 ['x', '\n']).flatten

/-- Of three hundred lines the report leaves out two hundred and ninety-seven, and it speaks of two
hundred and forty-eight. -/
theorem remainder_misstated :
    let o : Outcome := .failedAtCompilation (String.ofList column)
    o.isFailure = true ∧ ∃ f, Failure.ofOutcome? ⟨"a", .ofText "a.c", .c⟩ .riscv64 o = some f ∧
      (Text.lines o.detail).length = 300 ∧ moreLines 248 ∈ entry f ∧ ¬Truthful f o.detail := by
  intro o
  let f : Failure :=
    ⟨"a", .c, .riscv64, .compilation, Failure.truncateDetail (String.ofList column)⟩
  have hown : (Text.lines (String.ofList column)).length = 300 := by
    rw [Text.lines, List.length_map, String.toList_ofList,
      Text.length_linesFrom (.inr (by decide +kernel))]
    decide +kernel
  have hcut : Failure.linesCut (String.ofList column) = 49 := by
    rw [Failure.linesCut, String.toList_ofList]
    decide +kernel
  have hkept : (Text.lines (String.ofList column)).length =
      (Text.lines f.detail).length + Failure.linesCut (String.ofList column) :=
    Failure.length_lines_truncateDetail (String.ofList column)
  rw [hown, hcut] at hkept
  have hsaid : moreLines 248 ∈ entry f :=
    mem_entry_iff.2 (.inr ⟨by decide, by simp only [detailLines]; omega⟩)
  refine ⟨rfl, f, rfl, hown, hsaid, fun htruthful => ?_⟩
  have hlength := ((htruthful 248).1 hsaid).2
  have hall : (Text.lines o.detail).length = 300 := hown
  rw [hall] at hlength
  cases hlength

end Report

end Crosscheck
