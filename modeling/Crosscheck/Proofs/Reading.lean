import Crosscheck.Pieces
import Crosscheck.Proofs.Arrangement

/-!
# Reading a report

The lines of a report that are headings or name a failure begin with marks of their own: no mark
begins another one, and no line of a detail begins with a mark. So a reader gets back from the text
which failures it is about and where they belong, whatever their details say, as long as no name of
a test breaks its line.
-/

namespace Crosscheck

namespace Report

/-- What a report tells of a failure besides its detail. -/
structure Title where
  position : Position
  test : String
  deriving DecidableEq, Repr

end Report

def Failure.title (f : Failure) : Report.Title := ⟨f.position, f.test⟩

namespace Report

/-- How a line begins that is a heading or names a failure. -/
inductive Mark where
  | place (kind : Kind) (target : Target)
  | stage (stage : Stage)
  | test
  deriving DecidableEq, Repr

namespace Mark

def text : Mark → List Char
  | place kind target => (kind.label ++ " / " ++ target.token ++ " (").toList
  | stage s => ("  " ++ Text.upper s.token ++ " (").toList
  | test => "    • ".toList

def all : List Mark :=
  places.map (fun p => place p.1 p.2) ++ Stage.all.map stage ++ [test]

theorem mem_all (m : Mark) : m ∈ all := by
  cases m with
  | place kind target => cases kind <;> cases target <;> decide
  | stage s => cases s <;> decide
  | test => decide

/-- No mark begins another one. -/
theorem eq_of_begins {m m' : Mark} (h : m.text <+: m'.text) : m = m' := by
  have hall : ∀ m ∈ all, ∀ m' ∈ all, m.text.isPrefixOf m'.text = true → m = m' := by
    decide +kernel
  exact hall m (mem_all m) m' (mem_all m') (List.isPrefixOf_iff_prefix.2 h)

def ofLine? (line : List Char) : Option Mark := all.find? fun m => m.text.isPrefixOf line

theorem ofLine_append (m : Mark) (rest : List Char) : ofLine? (m.text ++ rest) = some m := by
  have hm : m.text.isPrefixOf (m.text ++ rest) = true :=
    List.isPrefixOf_iff_prefix.2 (List.prefix_append ..)
  cases hfind : ofLine? (m.text ++ rest) with
  | none => exact absurd hm (List.find?_eq_none.1 hfind m (mem_all m))
  | some m' =>
    have hm' : m'.text.isPrefixOf (m.text ++ rest) = true :=
      List.find?_some (p := fun m' : Mark => m'.text.isPrefixOf (m.text ++ rest)) hfind
    -- Of two marks of one line, the shorter begins the longer.
    rcases List.prefix_or_prefix_of_prefix (List.isPrefixOf_iff_prefix.1 hm')
      (List.isPrefixOf_iff_prefix.1 hm) with h | h
    · rw [eq_of_begins h]
    · rw [eq_of_begins h]

/-- Whether a line that begins like this has no mark, whatever follows. -/
def Missing (start : List Char) : Prop :=
  ∀ m ∈ all, m.text.isPrefixOf start = false ∧ start.isPrefixOf m.text = false

instance (start : List Char) : Decidable (Missing start) :=
  inferInstanceAs (Decidable (∀ m ∈ all, _))

theorem Missing.ofLine_append {start : List Char} (h : Missing start) (rest : List Char) :
    ofLine? (start ++ rest) = none := by
  refine List.find?_eq_none.2 fun m hm hprefix => ?_
  obtain ⟨hmark, hstart⟩ := h m hm
  rcases List.prefix_or_prefix_of_prefix (List.isPrefixOf_iff_prefix.1 hprefix)
    (List.prefix_append start rest) with h | h
  · exact absurd (List.isPrefixOf_iff_prefix.2 h) (Bool.eq_false_iff.1 hmark)
  · exact absurd (List.isPrefixOf_iff_prefix.2 h) (Bool.eq_false_iff.1 hstart)

end Mark

/-- Reads titles off lines; `p` is the place under whose headings the first line stands. -/
def titlesFrom (p : Position) : List (List Char) → List Title
  | [] => []
  | line :: more =>
    match Mark.ofLine? line with
    -- The stage is that of another place until the next heading, which comes before any test.
    | some (.place kind target) => titlesFrom (kind, target, p.2.2) more
    | some (.stage stage) => titlesFrom (p.1, p.2.1, stage) more
    | some .test =>
      ⟨p, String.ofList (line.drop Mark.test.text.length)⟩ :: titlesFrom p more
    | none => titlesFrom p more

/-- Reads a report. Its first failure stands under headings, so it does not matter where the reader
starts. -/
def decode (report : String) : List Title :=
  titlesFrom (.c, .riscv64, .compilation) (pieces '\n' report.toList)

section lines

def OneLine (s : String) : Prop := '\n' ∉ s.toList

instance (s : String) : Decidable (OneLine s) := inferInstanceAs (Decidable (_ ∉ _))

theorem OneLine.append {s s' : String} (h : OneLine s) (h' : OneLine s') : OneLine (s ++ s') := by
  rw [OneLine, String.toList_append, List.mem_append]
  exact not_or.2 ⟨h, h'⟩

theorem oneLine_toString (n : ℕ) : OneLine (toString n) := by
  intro h
  have hdigit : '\n'.isDigit = true :=
    Nat.isDigit_of_mem_toDigits (b := 10) (n := n) (by decide) (by decide)
      (by rwa [← Nat.toList_repr])
  exact absurd hdigit (by decide)

theorem oneLine_rule {c : Char} (hc : c ≠ '\n') : OneLine (rule c) := by
  rw [OneLine, rule, String.toList_ofList]
  exact fun h => hc (List.eq_of_mem_replicate h).symm

theorem not_mem_linesFrom {cs seen line : List Char} (hseen : '\n' ∉ seen)
    (h : line ∈ Text.linesFrom seen cs) : '\n' ∉ line := by
  induction cs generalizing seen with
  | nil =>
    unfold Text.linesFrom at h
    split at h
    · cases h
    · obtain rfl := List.mem_singleton.1 h
      exact mt List.mem_reverse.1 hseen
  | cons c cs ih =>
    unfold Text.linesFrom at h
    split at h
    · rcases List.mem_cons.1 h with hline | h
      · split at hline
        · rw [hline, List.mem_reverse]
          exact fun hmem => hseen (List.mem_cons_of_mem _ hmem)
        · rw [hline, List.mem_reverse]
          exact hseen
      · exact ih List.not_mem_nil h
    · next hc => exact ih (List.not_mem_cons_of_ne_of_not_mem (Ne.symm hc) hseen) h

theorem oneLine_of_mem_lines {s line : String} (h : line ∈ Text.lines s) : OneLine line := by
  obtain ⟨chars, hchars, rfl⟩ := List.mem_map.1 h
  rw [OneLine, String.toList_ofList]
  exact not_mem_linesFrom List.not_mem_nil hchars

theorem OneLine.trim {s : String} (h : OneLine s) : OneLine (Text.trim s) := by
  have hsubset {cs : List Char} : Text.trimStartChars cs ⊆ cs := (List.dropWhile_suffix _).subset
  rw [OneLine, Text.toList_trim, Text.trimChars]
  exact fun hmem => h (hsubset (List.mem_reverse.1 (hsubset (List.mem_reverse.1 hmem))))

theorem OneLine.clipMarked {s : String} (h : OneLine s) (limit : ℕ) :
    OneLine (Text.clipMarked limit s) := by
  refine OneLine.append ?_ ?_
  · rw [OneLine, Text.clip, String.toList_ofList]
    exact fun hmem => h (List.mem_of_mem_take hmem)
  · unfold Text.omission
    split
    · decide
    · exact ((show OneLine "... [" by decide).append (oneLine_toString _)).append (by decide)

theorem detailPart_shape {line detail : String} (h : line ∈ detailPart detail) :
    ∃ rest, line = "      " ++ rest ∧ OneLine rest := by
  rcases List.mem_append.1 h with h | h
  · obtain ⟨given, hgiven, hline⟩ := List.mem_filterMap.1 h
    by_cases hblank : (Text.trim given).isEmpty
    · rw [detailLine?, if_pos hblank] at hline
      cases hline
    · rw [detailLine?, if_neg hblank] at hline
      have hone : OneLine given := oneLine_of_mem_lines (List.mem_of_mem_take hgiven)
      exact ⟨_, (Option.some.inj hline).symm, hone.trim.clipMarked maxLine⟩
  · split at h
    · obtain rfl := List.mem_singleton.1 h
      refine ⟨"... (" ++ toString ((Text.lines detail).length - detailLines) ++ " more lines)", ?_,
        ((show OneLine "... (" by decide).append (oneLine_toString _)).append (by decide)⟩
      rw [← String.append_assoc, ← String.append_assoc]
      rfl
    · cases h

theorem oneLine_entry {f : Failure} (hf : OneLine f.test) {line : String} (h : line ∈ entry f) :
    OneLine line := by
  rcases List.mem_cons.1 h with rfl | h
  · exact OneLine.append (by decide) hf
  · obtain ⟨rest, rfl, hrest⟩ := detailPart_shape h
    exact OneLine.append (by decide) hrest

theorem Section.oneLine_heading (s : Section) : OneLine s.heading := by
  have hstage : OneLine ("  " ++ Text.upper s.stage.token ++ " (") := by
    cases s.stage <;> decide
  exact (hstage.append (oneLine_toString _)).append (by decide)

theorem Chapter.oneLine_heading (c : Chapter) : OneLine c.heading := by
  have hplace : OneLine (c.kind.label ++ " / " ++ c.target.token ++ " (") := by
    cases c.kind <;> cases c.target <;> decide
  exact (hplace.append (oneLine_toString _)).append (by decide)

theorem Section.oneLine {s : Section} (hs : ∀ f ∈ s.failures, OneLine f.test) :
    ∀ line ∈ s.lines, OneLine line := by
  refine List.forall_mem_append.2 ⟨?_, fun line h => ?_⟩
  · simpa using ⟨by decide, s.oneLine_heading⟩
  · obtain ⟨f, hf, hline⟩ := List.mem_flatMap.1 h
    exact oneLine_entry (hs f hf) hline

theorem Chapter.oneLine {c : Chapter} (hc : ∀ f ∈ c.failures, OneLine f.test) :
    ∀ line ∈ c.lines, OneLine line := by
  refine List.forall_mem_append.2 ⟨?_, fun line h => ?_⟩
  · simpa using ⟨by decide, c.oneLine_heading, oneLine_rule (by decide)⟩
  · obtain ⟨s, hs, hline⟩ := List.mem_flatMap.1 h
    exact Section.oneLine (fun f hf => hc f (List.mem_flatMap.2 ⟨s, hs, hf⟩)) line hline

theorem pieces_join {ls : List String} (h : ∀ line ∈ ls, OneLine line) :
    pieces '\n' (String.join (ls.map (· ++ "\n"))).toList = ls.map String.toList ++ [[]] := by
  induction ls with
  | nil => rfl
  | cons line ls ih =>
    obtain ⟨hline, hrest⟩ := List.forall_mem_cons.1 h
    have hjoin : (String.join ((line :: ls).map (· ++ "\n"))).toList =
        line.toList ++ '\n' :: (String.join (ls.map (· ++ "\n"))).toList := by
      simp [String.toList_join]
    rw [hjoin, pieces_append_sep, pieces_of_not_mem hline, ih hrest]
    rfl

end lines

section reading

variable {p q r : Position} {ls ls' : List String} {ts ts' : List Title}

/-- Read from the place `p`, some lines give some titles and lead to the place `q`. -/
def Reads (p : Position) (ls : List String) (ts : List Title) (q : Position) : Prop :=
  ∀ more, titlesFrom p (ls.map String.toList ++ more) = ts ++ titlesFrom q more

theorem Reads.nil (p : Position) : Reads p [] [] p := fun _ => rfl

theorem Reads.append (h : Reads p ls ts q) (h' : Reads q ls' ts' r) :
    Reads p (ls ++ ls') (ts ++ ts') r := by
  intro more
  rw [List.map_append, List.append_assoc, List.append_assoc, h, h']

theorem reads_unmarked (p : Position) (h : ∀ line ∈ ls, Mark.ofLine? line.toList = none) :
    Reads p ls [] p := by
  induction ls with
  | nil => exact Reads.nil p
  | cons line ls ih =>
    obtain ⟨hline, hrest⟩ := List.forall_mem_cons.1 h
    intro more
    rw [List.map_cons, List.cons_append, titlesFrom, hline]
    exact ih hrest more

theorem reads_entry (p : Position) (f : Failure) : Reads p (entry f) [⟨p, f.test⟩] p := by
  -- A detail has a blank where the other indented lines have a letter or the bullet.
  have hname : ("    • " ++ f.test).toList = Mark.test.text ++ f.test.toList :=
    String.toList_append ..
  have hmissing : Mark.Missing "      ".toList := by decide +kernel
  have hdetail : Reads p (detailPart f.detail) [] p := reads_unmarked p fun line hline => by
    obtain ⟨rest, rfl, -⟩ := detailPart_shape hline
    rw [String.toList_append]
    exact hmissing.ofLine_append _
  intro more
  rw [entry, List.map_cons, List.cons_append, hname, titlesFrom, Mark.ofLine_append]
  simp only [List.drop_left, String.ofList_toList]
  rw [hdetail more]
  rfl

theorem reads_entries (p : Position) {fs : List Failure} (h : ∀ f ∈ fs, f.position = p) :
    Reads p (fs.flatMap entry) (fs.map Failure.title) p := by
  induction fs with
  | nil => exact Reads.nil p
  | cons f fs ih =>
    obtain ⟨rfl, hrest⟩ := List.forall_mem_cons.1 h
    exact (reads_entry f.position f).append (ih hrest)

theorem reads_blank (p : Position) : Reads p [""] [] p := reads_unmarked p (by decide +kernel)

theorem reads_rule (p : Position) : Reads p [rule '-'] [] p := reads_unmarked p (by decide +kernel)

theorem Section.reads_heading (p : Position) (s : Section) :
    Reads p [s.heading] [] (p.1, p.2.1, s.stage) := by
  have hmark : s.heading.toList = (Mark.stage s.stage).text ++
      (toString s.failures.length ++ " tests):").toList := by
    rw [heading, String.append_assoc, String.toList_append]
    rfl
  intro more
  rw [List.map_singleton, List.singleton_append, hmark, titlesFrom, Mark.ofLine_append]
  rfl

theorem Chapter.reads_heading (p : Position) (c : Chapter) :
    Reads p [c.heading] [] (c.kind, c.target, p.2.2) := by
  have hmark : c.heading.toList = (Mark.place c.kind c.target).text ++
      (toString c.failures.length ++ " failures):").toList := by
    rw [heading, String.append_assoc, String.toList_append]
    rfl
  intro more
  rw [List.map_singleton, List.singleton_append, hmark, titlesFrom, Mark.ofLine_append]
  rfl

theorem Section.reads_lines (p : Position) {s : Section}
    (hs : ∀ f ∈ s.failures, f.position = (p.1, p.2.1, s.stage)) :
    Reads p s.lines (s.failures.map Failure.title) (p.1, p.2.1, s.stage) :=
  ((reads_blank p).append (s.reads_heading p)).append (reads_entries _ hs)

theorem Section.reads_all {kind : Kind} {target : Target} {ss : List Section}
    (hss : ∀ s ∈ ss, ∀ f ∈ s.failures, f.position = (kind, target, s.stage)) (stage : Stage) :
    ∃ q, Reads (kind, target, stage) (ss.flatMap lines)
      ((ss.flatMap failures).map Failure.title) q := by
  induction ss generalizing stage with
  | nil => exact ⟨_, Reads.nil _⟩
  | cons s ss ih =>
    obtain ⟨hs, hrest⟩ := List.forall_mem_cons.1 hss
    obtain ⟨q, hq⟩ := ih hrest s.stage
    refine ⟨q, ?_⟩
    rw [List.flatMap_cons, List.flatMap_cons, List.map_append]
    exact (Section.reads_lines (kind, target, stage) hs).append hq

theorem Chapter.reads_lines (p : Position) {c : Chapter}
    (hc : ∀ s ∈ c.sections, ∀ f ∈ s.failures, f.position = (c.kind, c.target, s.stage)) :
    ∃ q, Reads p c.lines (c.failures.map Failure.title) q := by
  obtain ⟨q, hq⟩ := Section.reads_all hc p.2.2
  exact ⟨q, ((reads_blank p).append ((c.reads_heading p).append (reads_rule _))).append hq⟩

theorem Chapter.reads_all (p : Position) {cs : List Chapter} (hcs : ∀ c ∈ cs, ∀ s ∈ c.sections,
    ∀ f ∈ s.failures, f.position = (c.kind, c.target, s.stage)) :
    ∃ q, Reads p (cs.flatMap lines) ((cs.flatMap failures).map Failure.title) q := by
  induction cs generalizing p with
  | nil => exact ⟨_, Reads.nil _⟩
  | cons c cs ih =>
    obtain ⟨hc, hrest⟩ := List.forall_mem_cons.1 hcs
    obtain ⟨q, hq⟩ := Chapter.reads_lines p hc
    obtain ⟨r, hr⟩ := ih q hrest
    refine ⟨r, ?_⟩
    rw [List.flatMap_cons, List.flatMap_cons, List.map_append]
    exact hq.append hr

def footer (total : ℕ) : List String :=
  ["", rule '=', "Total failures: " ++ toString total, rule '=']

theorem oneLine_footer (total : ℕ) : ∀ line ∈ footer total, OneLine line := by
  have hrule : OneLine (rule '=') := oneLine_rule (by decide)
  have htotal : OneLine ("Total failures: " ++ toString total) :=
    OneLine.append (by decide) (oneLine_toString total)
  simp only [footer, List.forall_mem_cons]
  exact ⟨by decide, hrule, htotal, hrule, fun _ h => nomatch h⟩

theorem reads_footer (p : Position) (total : ℕ) : Reads p (footer total) [] p := by
  have hempty : Mark.ofLine? "".toList = none := by decide +kernel
  have hrule : Mark.ofLine? (rule '=').toList = none := by decide +kernel
  have htotal : Mark.ofLine? ("Total failures: " ++ toString total).toList = none := by
    have hmissing : Mark.Missing "Total failures: ".toList := by decide +kernel
    rw [String.toList_append]
    exact hmissing.ofLine_append _
  refine reads_unmarked p ?_
  simp only [footer, List.forall_mem_cons]
  exact ⟨hempty, hrule, htotal, hrule, fun _ h => nomatch h⟩

theorem decode_render {cs : List Chapter} (hcs : ∀ c ∈ cs, ∀ s ∈ c.sections,
      ∀ f ∈ s.failures, f.position = (c.kind, c.target, s.stage))
    (hnames : ∀ c ∈ cs, ∀ f ∈ c.failures, OneLine f.test) :
    decode (render cs) = (cs.flatMap Chapter.failures).map Failure.title := by
  by_cases hnil : cs = []
  · rw [hnil]
    decide +kernel
  · let start : Position := (.c, .riscv64, .compilation)
    let header := [rule '=', "FAILURE REPORT", rule '=']
    let total := (cs.flatMap Chapter.failures).length
    have hheader : Reads start header [] start := reads_unmarked start (by decide +kernel)
    obtain ⟨q, hchapters⟩ := Chapter.reads_all start hcs
    have hread := (hheader.append hchapters).append (reads_footer q total)
    have hone : ∀ line ∈ header ++ cs.flatMap Chapter.lines ++ footer total, OneLine line := by
      refine List.forall_mem_append.2 ⟨List.forall_mem_append.2 ⟨by decide, fun line h => ?_⟩,
        oneLine_footer total⟩
      obtain ⟨c, hc, hline⟩ := List.mem_flatMap.1 h
      exact Chapter.oneLine (hnames c hc) line hline
    have hlines : render cs = String.join
        ((header ++ cs.flatMap Chapter.lines ++ footer total).map (· ++ "\n")) := if_neg hnil
    have hlast : titlesFrom q [[]] = [] := rfl
    rw [decode, hlines, pieces_join hone, hread, hlast, List.append_nil, List.append_nil]
    rfl

end reading

end Report

namespace Ledger

/-- Whether no name of a test breaks its line. -/
def OneLined (l : Ledger) : Prop := ∀ f ∈ l.failures, Report.OneLine f.test

instance (l : Ledger) : Decidable l.OneLined := inferInstanceAs (Decidable (∀ f ∈ l.failures, _))

/-- The failures of a ledger without their details, in the order of reports. -/
def titles (l : Ledger) : List Report.Title := (sortBy Failure.rank l.failures).map Failure.title

theorem decode_report_eq {l : Ledger} (hl : l.OneLined) : Report.decode l.report = l.titles := by
  have harranged := Report.arranged_chapters l.failures
  have hpositions : ∀ c ∈ Report.chapters l.failures, ∀ s ∈ c.sections, ∀ f ∈ s.failures,
      f.position = (c.kind, c.target, s.stage) := by
    intro c hc s hs f hf
    rw [harranged.entries c hc s hs] at hf
    simpa using (List.mem_filter.1 hf).2
  have hnames : ∀ c ∈ Report.chapters l.failures, ∀ f ∈ c.failures, Report.OneLine f.test :=
    fun c hc f hf => hl f (harranged.once.mem_iff.1 (List.mem_flatMap.2 ⟨c, hc, hf⟩))
  rw [report_eq_render, Report.decode_render hpositions hnames, Report.failures_chapters, titles]

/-- No detail forges a report: what a reader gets from the report of a ledger is the ledger's own
titles, so two ledgers with one report tell of the same failures. -/
theorem report_unforgeable {l : Ledger} (hl : l.OneLined) :
    Report.decode l.report = l.titles ∧
      ∀ l' : Ledger, l'.OneLined → l'.report = l.report → l'.titles = l.titles := by
  refine ⟨decode_report_eq hl, fun l' hl' hreports => ?_⟩
  rw [← decode_report_eq hl', hreports, decode_report_eq hl]

/-- A ledger with details that look like the lines of a report. -/
def imitation : Ledger := ⟨[
  ⟨"late", .miniMoonBit, .riscv64, .outputMismatch, "    • ghost\nC / riscv64 (1 failures):"⟩,
  ⟨"early", .c, .aarch64, .assembly, "\r\n  ASSEMBLY (9 tests):\nTotal failures: 0\n====\n"⟩]⟩

theorem report_unforgeable_imitation :
    Report.decode imitation.report = [⟨(.c, .aarch64, .assembly), "early"⟩,
      ⟨(.miniMoonBit, .riscv64, .outputMismatch), "late"⟩] ∧
      ∀ l : Ledger, l.OneLined → l.report = imitation.report → l.titles = imitation.titles := by
  have htitles : imitation.titles = [⟨(.c, .aarch64, .assembly), "early"⟩,
      ⟨(.miniMoonBit, .riscv64, .outputMismatch), "late"⟩] := by
    rw [titles, Failure.sortBy_rank_eq_flatMap]
    decide +kernel
  rw [← htitles]
  exact report_unforgeable (by decide)

end Ledger

end Crosscheck
