import Crosscheck.Proofs.Attribution
import Crosscheck.Proofs.Reading
import Crosscheck.Proofs.Verdict
import Mathlib.Data.List.DropRight

/-!
# A reason for every failure

A text is visible if its first character is no white space. Every detail of a failure is visible:
what a program wrote is shown without the white space around it, and something else is said when
nothing is left. Cutting a text at its end, breaking it into lines and taking the white space off a
line all keep its first character, so the first line of the detail is shown in the report.
-/

namespace Crosscheck

namespace Text

/-- Whether a text begins with a character that can be seen. -/
def Visible (s : String) : Prop := ∃ c cs, s.toList = c :: cs ∧ isBlank c = false

theorem Visible.ne_empty {s : String} (h : Visible s) : s ≠ "" := by
  rintro rfl
  obtain ⟨c, cs, hs, -⟩ := h
  cases hs

theorem Visible.append {s : String} (h : Visible s) (more : String) : Visible (s ++ more) := by
  obtain ⟨c, cs, hs, hc⟩ := h
  exact ⟨c, cs ++ more.toList, by rw [String.toList_append, hs, List.cons_append], hc⟩

theorem Visible.exists_mem {s : String} (h : Visible s) : ∃ c ∈ s.toList, isBlank c = false := by
  obtain ⟨c, cs, hs, hc⟩ := h
  exact ⟨c, by rw [hs]; exact List.mem_cons_self, hc⟩

theorem trimChars_eq (cs : List Char) :
    trimChars cs = (cs.dropWhile isBlank).rdropWhile isBlank := rfl

/-- What is left of a text without the white space around it is visible, if anything is left. -/
theorem visible_trim {s : String} (h : trim s ≠ "") : Visible (trim s) := by
  have hprefix := List.rdropWhile_prefix isBlank (s.toList.dropWhile isBlank)
  rw [← trimChars_eq, ← toList_trim] at hprefix
  have hhead := List.head?_dropWhile_not isBlank s.toList
  cases htrim : (trim s).toList with
  | nil => exact absurd (String.toList_inj.1 htrim) h
  | cons c cs =>
    rw [htrim] at hprefix
    obtain ⟨more, hmore⟩ := hprefix
    rw [← hmore] at hhead
    exact ⟨c, cs, htrim, by simpa using hhead⟩

theorem Visible.trim {s : String} (h : Visible s) : Visible (trim s) := by
  obtain ⟨c, cs, hs, hc⟩ := h
  apply visible_trim
  intro hempty
  have hchars := congrArg String.toList hempty
  have hstart : s.toList.dropWhile isBlank = c :: cs := by
    rw [hs, List.dropWhile_cons_of_neg (by simp [hc])]
  rw [toList_trim, trimChars_eq, hstart] at hchars
  have hblank := List.rdropWhile_eq_nil_iff.1 hchars c List.mem_cons_self
  rw [hc] at hblank
  cases hblank

theorem Visible.clipMarked {s : String} (h : Visible s) {limit : ℕ} (hlimit : 0 < limit) :
    Visible (clipMarked limit s) := by
  obtain ⟨c, cs, hs, hc⟩ := h
  obtain ⟨limit, rfl⟩ := Nat.exists_eq_succ_of_ne_zero hlimit.ne'
  have hhead : Visible (clip (limit + 1) s).1 :=
    ⟨c, cs.take limit, by rw [clip, String.toList_ofList, hs, List.take_succ_cons], hc⟩
  exact hhead.append _

/-- A line that has been begun keeps its first character, which is not the carriage return that
belongs to an ending. -/
theorem linesFrom_snoc {c : Char} (hc : c ≠ '\r') (seen cs : List Char) :
    ∃ line more, linesFrom (seen ++ [c]) cs = (c :: line) :: more := by
  induction cs generalizing seen with
  | nil => exact ⟨seen.reverse, [], by simp [linesFrom]⟩
  | cons d cs ih =>
    unfold linesFrom
    by_cases hd : d = '\n'
    · rw [if_pos hd]
      -- a carriage return before the feed is dropped, but it is not the first character
      cases seen with
      | nil =>
        refine ⟨[], linesFrom [] cs, ?_⟩
        simp [hc]
      | cons e seen =>
        by_cases he : e = '\r'
        · exact ⟨seen.reverse, linesFrom [] cs, by simp [he]⟩
        · exact ⟨seen.reverse ++ [e], linesFrom [] cs, by simp [he]⟩
    · rw [if_neg hd]
      exact ih (d :: seen)

theorem Visible.lines {s : String} (h : Visible s) :
    ∃ line more, lines s = line :: more ∧ Visible line := by
  obtain ⟨c, cs, hs, hc⟩ := h
  have hfeed : c ≠ '\n' := by
    rintro rfl
    cases hc
  have hreturn : c ≠ '\r' := by
    rintro rfl
    cases hc
  obtain ⟨line, more, hlines⟩ := linesFrom_snoc hreturn [] cs
  have hstart : linesFrom [] (c :: cs) = linesFrom [c] cs := by
    conv_lhs => unfold linesFrom
    rw [if_neg hfeed]
  refine ⟨String.ofList (c :: line), more.map String.ofList, ?_, c, line, String.toList_ofList, hc⟩
  rw [Text.lines, hs, hstart, ← List.nil_append [c], hlines, List.map_cons]

end Text

open Text

theorem LaunchError.visible_message (e : LaunchError) : Visible e.message := by
  have hquote : Visible "'" := ⟨'\'', [], rfl, rfl⟩
  have hfailed : Visible "failed to launch '" := ⟨'f', _, rfl, rfl⟩
  have hio : Visible "IO error: " := ⟨'I', _, rfl, rfl⟩
  cases e with
  | notFound program => exact (hquote.append _).append _
  | refused program cause => exact ((hfailed.append _).append _).append _
  | timedOut program limit => exact (((hquote.append _).append _).append _).append _
  | io cause => exact hio.append _
  | deadlineOverflow => exact ⟨'o', _, rfl, rfl⟩

/-- What is said of a capture is what the program wrote, if that can be seen. -/
theorem Capture.visible_failureDetail (r : Capture) {fallback : String} (h : Visible fallback) :
    Visible (r.failureDetail fallback) := by
  unfold failureDetail
  split
  · exact ((h.append _).append _).append _
  · next hdiagnostics =>
    have hwritten : r.diagnostics ≠ "" := fun hempty => hdiagnostics (by rw [hempty]; rfl)
    unfold diagnostics at hwritten ⊢
    simp only at hwritten ⊢
    split at hwritten
    · next herrors =>
      rw [if_pos herrors]
      exact visible_trim hwritten
    · next herrors =>
      rw [if_neg herrors]
      exact visible_trim hwritten

namespace Mismatch

theorem visible_intercalate {part : String} {more : List String} (h : Visible part) :
    Visible (String.intercalate " | " (part :: more)) := by
  induction more generalizing part with
  | nil => exact h
  | cons next more ih => exact ih ((h.append " | ").append next)

theorem visible_message {m : Mismatch} (h : m.isEmpty = false) : Visible m.message := by
  have hcode : Visible "Return code: " := ⟨'R', _, rfl, rfl⟩
  have hexpected : Visible "Expected " := ⟨'E', _, rfl, rfl⟩
  obtain ⟨exitCode, stdout, stderr⟩ := m
  cases exitCode with
  | some codes => exact visible_intercalate (((hcode.append _).append _).append _)
  | none =>
    cases stdout with
    | some d => exact visible_intercalate (((hexpected.append _).append _).append _)
    | none =>
      cases stderr with
      | some d => exact visible_intercalate (((hexpected.append _).append _).append _)
      | none => cases h

end Mismatch

namespace Trial

variable (t : Trial)

theorem visible_complaint {ph : Phase} {r : Capture} (h : ¬t.Accepts ph r) :
    Visible (ph.complaint r) := by
  cases ph with
  | compile =>
    have houtput : Visible "unexpected compiler output: " := ⟨'u', _, rfl, rfl⟩
    have hfallback : Visible "compilation failed" := ⟨'c', _, rfl, rfl⟩
    simp only [Phase.complaint]
    split
    · exact houtput.append _
    · exact r.visible_failureDetail hfallback
  | link => exact r.visible_failureDetail ⟨'A', _, rfl, rfl⟩
  | buildReference => exact r.visible_failureDetail ⟨'S', _, rfl, rfl⟩
  | runUnderTest => exact absurd trivial h
  | runReference => exact absurd trivial h

theorem visible_runFailure {text : String} (h : Visible text) :
    Visible (t.runFailure text).detail := by
  unfold runFailure
  generalize (t.target.isHostNative || decide (t.target.execution ≠ .native)) = runnable
  cases runnable with
  | true => exact h
  | false => exact ((((h.append _).append _).append _).append _).append _

theorem visible_failed (ph : Phase) {text : String} (h : Visible text) :
    Visible (t.failed ph text).detail := by
  cases ph with
  | compile | link | buildReference => exact h
  | runUnderTest => exact t.visible_runFailure h
  | runReference =>
    have hreference : Visible "reference binary: " := ⟨'r', _, rfl, rfl⟩
    exact hreference.append _

/-- A phase that ends a trial with an outcome says why. -/
theorem visible_of_settle {ph : Phase} {result : Except LaunchError Capture} {o : Outcome}
    (h : t.settle ph result = .error (.ok o)) : Visible o.detail := by
  cases result with
  | ok r =>
    unfold settle at h
    simp only at h
    split at h
    · cases h
    · next hrefused =>
      cases h
      exact t.visible_failed ph (t.visible_complaint hrefused)
  | error e =>
    have hclassify : (e.classify (t.role ph)).map (t.failed ph) = .ok o := Except.error.inj h
    obtain ⟨text, htext, rfl⟩ := map_eq_ok_iff.1 hclassify
    have hmessage : text = e.message := by
      unfold LaunchError.classify at htext
      split at htext <;> cases htext <;> rfl
    rw [hmessage]
    exact t.visible_failed ph e.visible_message

theorem visible_conclude {answer : Option Bytes} {rs : List Capture}
    (h : (conclude answer rs).isFailure = true) : Visible (conclude answer rs).detail := by
  have hverdict {m : Mismatch} (hm : (Capture.verdict m).isFailure = true) :
      Visible (Capture.verdict m).detail := by
    unfold Capture.verdict at hm ⊢
    split at hm
    · cases hm
    · next hempty =>
      rw [if_neg hempty]
      exact Mismatch.visible_message (Bool.eq_false_iff.2 hempty)
  unfold conclude at h ⊢
  split at h
  · exact hverdict h
  · exact hverdict h
  · cases h

/-- Whoever answers, a trial that fails says why. -/
theorem visible_detail {σ : Type} (host : Host σ) {s : σ} {o : Outcome}
    (h : (t.plan.serve host s).1 = .ok o) (hfailure : o.isFailure = true) : Visible o.detail := by
  rcases t.serve_opening host .empty s with ⟨v, hopening, hunstarted⟩ | ⟨answer, hopening, -⟩
  · obtain ⟨-, hverdict⟩ := t.launches_eq_nil_of_opening host hopening
    obtain rfl : v = .ok o := hverdict.symm.trans h
    rcases hunstarted with ⟨p, hp⟩ | ⟨reason, hreason⟩ | ⟨dir, cause, -, -, hcause⟩
    · cases hp
      exact Visible.append ⟨'s', _, rfl, rfl⟩ _
    · cases hreason
      cases hfailure
    · cases hcause
  · obtain ⟨ending, hcourse, hverdict⟩ := t.course_of_opening host hopening
    rw [hverdict] at h
    cases ending with
    | ok rs =>
      obtain rfl : conclude answer rs = o := Except.ok.inj h
      exact visible_conclude hfailure
    | error v =>
      obtain rfl : v = .ok o := h
      obtain ⟨ph, result, hsettle⟩ := hcourse.settle_of_error
      exact t.visible_of_settle hsettle

end Trial

namespace Report

/-- A detail that can be seen has a first line, and that line is shown. -/
theorem exists_detailLine {detail : String} (h : Visible detail) :
    ∃ line ∈ (Text.lines detail).take detailLines, ∃ shown more,
      detailLine? line = some ("      " ++ shown) ∧ OneLine shown ∧ Visible shown ∧
        detailPart detail = ("      " ++ shown) :: more := by
  obtain ⟨line, more, hlines, hline⟩ := h.lines
  have htrim : Visible (Text.trim line) := hline.trim
  have hone : OneLine line := oneLine_of_mem_lines (by rw [hlines]; exact List.mem_cons_self)
  have hshown : detailLine? line = some ("      " ++ Text.clipMarked maxLine (Text.trim line)) := by
    have hempty : ¬(Text.trim line).isEmpty = true := by
      simpa [String.isEmpty_iff] using htrim.ne_empty
    rw [detailLine?, if_neg hempty]
  have hfirst : (line :: more).take detailLines = line :: more.take 2 := rfl
  refine ⟨line, ?_, Text.clipMarked maxLine (Text.trim line), ?_, hshown,
    hone.trim.clipMarked maxLine, htrim.clipMarked (by decide), ?_⟩
  · rw [hlines, hfirst]
    exact List.mem_cons_self
  · exact (more.take 2).filterMap detailLine? ++ if detailLines < (Text.lines detail).length then
      ["      ... (" ++ toString ((Text.lines detail).length - detailLines) ++ " more lines)"]
    else []
  · simp only [detailPart, hlines, hfirst, List.filterMap_cons_some hshown, List.cons_append]

theorem infix_flatMap {α β : Type} {a : α} {as : List α} (h : a ∈ as) (f : α → List β) :
    f a <:+: as.flatMap f :=
  List.infix_of_mem_flatten (List.mem_map_of_mem h)

theorem Section.entry_infix {s : Section} {f : Failure} (hf : f ∈ s.failures) :
    entry f <:+: s.lines :=
  (infix_flatMap hf entry).trans (List.suffix_append _ _).isInfix

theorem Chapter.entry_infix {c : Chapter} {f : Failure} (hf : f ∈ c.failures) :
    entry f <:+: c.lines := by
  obtain ⟨s, hs, hfs⟩ := List.mem_flatMap.1 hf
  have hsection : s.lines <:+: c.sections.flatMap Section.lines :=
    infix_flatMap hs Section.lines
  exact ((Section.entry_infix hfs).trans hsection).trans (List.suffix_append _ _).isInfix

theorem entry_infix {fs : List Failure} {f : Failure} (hf : f ∈ fs) :
    entry f <:+: (chapters fs).flatMap Chapter.lines := by
  obtain ⟨c, hc, hfc⟩ := List.mem_flatMap.1 ((arranged_chapters fs).once.mem_iff.2 hf)
  exact (Chapter.entry_infix hfc).trans (infix_flatMap hc Chapter.lines)

end Report

theorem Ledger.entry_in_report {l : Ledger} {f : Failure} (hf : f ∈ l.failures) :
    ∃ front back, l.report = String.join ((front ++ Report.entry f ++ back).map (· ++ "\n")) := by
  have hne : Report.chapters l.failures ≠ [] :=
    fun hnil => List.ne_nil_of_mem hf (Report.chapters_eq_nil_iff.1 hnil)
  have hinfix : Report.entry f <:+: [Report.rule '=', "FAILURE REPORT", Report.rule '='] ++
      (Report.chapters l.failures).flatMap Report.Chapter.lines ++
      Report.footer ((Report.chapters l.failures).flatMap Report.Chapter.failures).length :=
    ((Report.entry_infix hf).trans (List.suffix_append _ _).isInfix).trans
      (List.prefix_append _ _).isInfix
  obtain ⟨front, back, hsplit⟩ := hinfix
  refine ⟨front, back, ?_⟩
  rw [report_eq_render, Report.render, if_neg hne, hsplit]
  rfl

namespace Trial

/-- Whether the reports give a reason for a failure: there is a detail, and the first line below
the name of the test shows one of the first lines of it, with a character that can be seen. -/
structure Explained (f : Failure) : Prop where
  detail : f.detail ≠ ""
  entry : ∃ line ∈ (Text.lines f.detail).take Report.detailLines, ∃ shown more,
    Report.detailLine? line = some shown ∧ Report.OneLine shown ∧
      (∃ c ∈ shown.toList, Text.isBlank c = false) ∧
      Report.entry f = ("    • " ++ f.test) :: shown :: more
  shown : ∀ l : Ledger, f ∈ l.failures → ∃ front back,
    l.report = String.join ((front ++ Report.entry f ++ back).map (· ++ "\n"))

theorem explained_of_visible {f : Failure} (h : Visible f.detail) : Explained f where
  detail := h.ne_empty
  entry := by
    obtain ⟨line, hline, shown, more, hdetail, hone, hshown, hpart⟩ := Report.exists_detailLine h
    obtain ⟨c, hc, hblank⟩ := hshown.exists_mem
    refine ⟨line, hline, "      " ++ shown, more, hdetail, ?_, ⟨c, ?_, hblank⟩, ?_⟩
    · exact Report.OneLine.append (by decide) hone
    · rw [String.toList_append]
      exact List.mem_append_right _ hc
    · rw [Report.entry, hpart]
  shown _ hl := Ledger.entry_in_report hl

theorem serve_plan_of_timed (t : Trial) {σ : Type} (host : Host σ) {s : σ} {r : Result}
    (h : (t.timed.serve host s).1 = .ok r) : ∃ s', (t.plan.serve host s').1 = .ok r.outcome := by
  refine ⟨((Plan.request .now).serve host s).2, ?_⟩
  simp only [timed, Plan.serve_bind] at h
  obtain ⟨o, ho, rfl⟩ := map_eq_ok_iff.1 h
  exact ho

/-- No failure is reported without a reason. Whoever answers a trial, and whatever the programs
write, if it comes to a failure, the failure has a detail, and every report on it shows a line of
that detail which is not blank. -/
theorem failure_explained (t : Trial) {σ : Type} (host : Host σ) {s : σ} {r : Result}
    (h : (t.timed.serve host s).1 = .ok r) (hfailure : r.outcome.isFailure = true) :
    ∃ f, Failure.ofOutcome? r.test r.target r.outcome = some f ∧ Explained f := by
  obtain ⟨s', hplan⟩ := t.serve_plan_of_timed host h
  have hdetail : Visible r.outcome.detail := t.visible_detail host hplan hfailure
  have hlimit : 0 < Failure.maxDetail := by decide
  rw [Outcome.isFailure_eq_isSome_stage?, Option.isSome_iff_exists] at hfailure
  obtain ⟨stage, hstage⟩ := hfailure
  refine ⟨⟨r.test.name, r.test.kind, r.target, stage, Failure.truncateDetail r.outcome.detail⟩, ?_,
    explained_of_visible (hdetail.clipMarked hlimit)⟩
  rw [Failure.ofOutcome?, hstage, Option.map_some]

/-- Every program fails, with nothing but white space on the error stream and a byte that is no
character on the other. -/
def murmur : Host Unit
  | _, .isFile _ => (true, ())
  | _, .read _ => (.ok [], ())
  | _, .remove _ => (.ok (), ())
  | _, .launch .. => (.ok ⟨1, [0x20, 0xFF, 0x0A], [0x20, 0x0A, 0x09]⟩, ())
  | _, .now => ((0 : ℕ), ())

theorem failure_explained_murmur :
    let t : Trial := ⟨.standard, .ofText ".", ⟨"a", .ofText "a.c", .c⟩, .riscv64⟩
    let r : Result := ⟨t.test, .riscv64, .failedAtCompilation "\uFFFD", ⟨0⟩⟩
    (t.timed.serve murmur ()).1 = .ok r ∧ r.outcome.isFailure = true ∧
      ∃ f, Failure.ofOutcome? r.test r.target r.outcome = some f ∧ Explained f := by
  intro t r
  have hserved : (t.timed.serve murmur ()).1 = .ok r := by decide +kernel
  have hfailure : r.outcome.isFailure = true := rfl
  exact ⟨hserved, hfailure, failure_explained t murmur hserved hfailure⟩

end Trial

end Crosscheck
