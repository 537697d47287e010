import Crosscheck.Proofs.Groups
import Crosscheck.Proofs.Sorting
import Mathlib.Data.Prod.Lex

/-!
# The arrangement of a report

A report has chapters, one for each kind and target, and a chapter has sections, one for each stage.
`arrange` goes through failures in a given order and begins a chapter or a section wherever the
place changes; `render` writes chapters down, each heading with the number of failures below it. The
report of a ledger is what comes of its failures in the order of their places, where failures of one
place keep the order of their recording: no place has two headings, and no failure is lost or
written twice.
-/

namespace Crosscheck

theorem Stage.pairwise_rank_all : (all.map rank).Pairwise (· < ·) := by decide

theorem Stage.rank_inj {s s' : Stage} : s.rank = s'.rank ↔ s = s' := by
  cases s <;> cases s' <;> decide

/-- The place of a failure in a report: its kind, its target and its stage. -/
abbrev Position := Kind × Target × Stage

namespace Position

/-- Positions are ordered by their kinds, then by their targets, then by their stages. -/
def rank (p : Position) : ℕ ×ₗ ℕ ×ₗ ℕ := toLex (p.1.rank, toLex (p.2.1.rank, p.2.2.rank))

def all : List Position :=
  Report.places.flatMap fun place => Stage.all.map fun stage => (place.1, place.2, stage)

theorem mem_all (p : Position) : p ∈ all := by
  obtain ⟨kind, target, stage⟩ := p
  cases kind <;> cases target <;> cases stage <;> decide

theorem rank_injective : Function.Injective rank := by
  have hall : ∀ p ∈ all, ∀ q ∈ all, p.rank = q.rank → p = q := by decide
  exact fun p q => hall p (mem_all p) q (mem_all q)

theorem pairwise_rank_all : (all.map rank).Pairwise (· < ·) := by decide

end Position

namespace Failure

def position (f : Failure) : Position := (f.kind, f.target, f.stage)

/-- Where a failure stands in the order of reports. -/
def rank (f : Failure) : ℕ ×ₗ ℕ ×ₗ ℕ := f.position.rank

theorem sortBy_rank_eq_flatMap (fs : List Failure) : sortBy rank fs =
    Position.all.flatMap fun p => fs.filter fun f => f.position = p := by
  have hmem : ∀ f ∈ fs, f.rank ∈ Position.all.map Position.rank :=
    fun f _ => List.mem_map_of_mem (Position.mem_all f.position)
  rw [sortBy_eq_flatMap rank Position.pairwise_rank_all hmem, List.flatMap_map]
  simp only [rank, Position.rank_injective.eq_iff]

end Failure

namespace Report

/-- The failures of one stage, under its heading. -/
structure Section where
  stage : Stage
  failures : List Failure
  deriving DecidableEq, Repr

/-- The sections of one kind and target, under its heading. -/
structure Chapter where
  kind : Kind
  target : Target
  sections : List Section
  deriving DecidableEq, Repr

namespace Section

def heading (s : Section) : String :=
  "  " ++ Text.upper s.stage.token ++ " (" ++ toString s.failures.length ++ " tests):"

def lines (s : Section) : List String := ["", s.heading] ++ s.failures.flatMap entry

/-- Puts a failure on top of some sections, under a heading of its own unless it belongs under the
first one. -/
def push (f : Failure) : List Section → List Section
  | [] => [⟨f.stage, [f]⟩]
  | s :: more =>
    if s.stage = f.stage then ⟨s.stage, f :: s.failures⟩ :: more
    else ⟨f.stage, [f]⟩ :: s :: more

end Section

namespace Chapter

def failures (c : Chapter) : List Failure := c.sections.flatMap Section.failures

def heading (c : Chapter) : String :=
  c.kind.label ++ " / " ++ c.target.token ++ " (" ++ toString c.failures.length ++ " failures):"

def lines (c : Chapter) : List String :=
  ["", c.heading, rule '-'] ++ c.sections.flatMap Section.lines

def push (f : Failure) : List Chapter → List Chapter
  | [] => [⟨f.kind, f.target, [⟨f.stage, [f]⟩]⟩]
  | c :: more =>
    if c.kind = f.kind ∧ c.target = f.target then
      { c with sections := Section.push f c.sections } :: more
    else ⟨f.kind, f.target, [⟨f.stage, [f]⟩]⟩ :: c :: more

end Chapter

/-- Failures in their own order, under a new heading wherever the place changes. -/
def arrange (fs : List Failure) : List Chapter := fs.foldr Chapter.push []

/-- Chapters as a report; without chapters it is empty. -/
def render (cs : List Chapter) : String :=
  if cs = [] then "" else
    String.join <| ([rule '=', "FAILURE REPORT", rule '='] ++ cs.flatMap Chapter.lines ++
      ["", rule '=', "Total failures: " ++ toString (cs.flatMap Chapter.failures).length,
        rule '=']).map (· ++ "\n")

def Section.ofStage (fs : List Failure) (stage : Stage) : Section :=
  ⟨stage, fs.filter fun f => f.stage == stage⟩

/-- The sections that hold failures. -/
def sectionsOf (fs : List Failure) : List Section :=
  (Stage.all.map (Section.ofStage fs)).filter fun s => !s.failures.isEmpty

def Chapter.ofGroup (g : FailureGroup) : Chapter := ⟨g.kind, g.target, sectionsOf g.failures⟩

/-- The chapters of a report on some failures. -/
def chapters (fs : List Failure) : List Chapter := (groups fs).map Chapter.ofGroup

section content

variable {fs : List Failure}

theorem stagePart_eq (stage : Stage) (fs : List Failure) : stagePart stage fs =
    if !(Section.ofStage fs stage).failures.isEmpty then (Section.ofStage fs stage).lines
    else [] := by
  unfold stagePart
  have hfilter : fs.filter (fun f => f.stage == stage) = (Section.ofStage fs stage).failures := rfl
  rw [hfilter]
  cases hstage : (Section.ofStage fs stage).failures with
  | nil => rfl
  | cons f rest =>
    simp only [List.isEmpty_cons, Bool.not_false, if_true, Section.lines, Section.heading, hstage]
    rfl

theorem lines_sectionsOf (fs : List Failure) :
    (sectionsOf fs).flatMap Section.lines = Stage.all.flatMap fun stage => stagePart stage fs := by
  rw [sectionsOf, flatMap_filter, List.flatMap_map]
  exact List.flatMap_congr fun stage _ => (stagePart_eq stage fs).symm

theorem flatMap_filter_isEmpty {α : Type} (failures : α → List Failure) (as : List α) :
    (as.filter fun a => !(failures a).isEmpty).flatMap failures = as.flatMap failures := by
  rw [flatMap_filter]
  refine List.flatMap_congr fun a _ => ?_
  cases failures a <;> rfl

theorem failures_ofGroup (g : FailureGroup) : (Chapter.ofGroup g).failures =
    Stage.all.flatMap fun stage => g.failures.filter fun f => f.stage == stage := by
  rw [Chapter.failures, Chapter.ofGroup, sectionsOf, flatMap_filter_isEmpty, List.flatMap_map]
  rfl

theorem failures_ofGroup_perm (g : FailureGroup) :
    (Chapter.ofGroup g).failures.Perm g.failures := by
  have hmem : ∀ f ∈ g.failures, f.stage.rank ∈ Stage.all.map Stage.rank :=
    fun f _ => List.mem_map_of_mem (Stage.mem_all f.stage)
  have hsorted := sortBy_eq_flatMap (fun f : Failure => f.stage.rank) Stage.pairwise_rank_all hmem
  rw [List.flatMap_map] at hsorted
  simp only [Stage.rank_inj] at hsorted
  rw [failures_ofGroup]
  exact (List.Perm.of_eq hsorted.symm).trans (sortBy_perm _ _)

theorem lines_ofGroup (g : FailureGroup) : (Chapter.ofGroup g).lines = g.lines := by
  have hheading : (Chapter.ofGroup g).heading = g.heading := by
    rw [Chapter.heading, (failures_ofGroup_perm g).length_eq]
    rfl
  rw [Chapter.lines, hheading, FailureGroup.lines, ← lines_sectionsOf]
  rfl

theorem failures_ofGroup_eq_nil_iff (g : FailureGroup) :
    (Chapter.ofGroup g).failures = [] ↔ g.failures = [] :=
  ⟨fun h => (h ▸ failures_ofGroup_perm g).nil_eq.symm, fun h =>
    (h ▸ failures_ofGroup_perm g).eq_nil⟩

theorem filter_ofPlace (fs : List Failure) (kind : Kind) (target : Target) (stage : Stage) :
    ((FailureGroup.ofPlace fs (kind, target)).failures.filter fun f => f.stage == stage) =
      fs.filter fun f => f.position = (kind, target, stage) := by
  rw [FailureGroup.ofPlace, List.filter_filter]
  refine List.filter_congr fun f _ => ?_
  rw [Bool.eq_iff_iff]
  simp [FailureGroup.holds, Failure.position, and_comm, and_left_comm]

theorem failures_chapters (fs : List Failure) :
    (chapters fs).flatMap Chapter.failures = sortBy Failure.rank fs := by
  have hempty (g : FailureGroup) : g.failures.isEmpty = (Chapter.ofGroup g).failures.isEmpty := by
    rw [Bool.eq_iff_iff, List.isEmpty_iff, List.isEmpty_iff, failures_ofGroup_eq_nil_iff]
  have hchapters : (chapters fs).flatMap Chapter.failures =
      (places.map (FailureGroup.ofPlace fs)).flatMap fun g => (Chapter.ofGroup g).failures := by
    rw [chapters, groups, List.flatMap_map]
    simp only [hempty]
    exact flatMap_filter_isEmpty (fun g => (Chapter.ofGroup g).failures) _
  rw [hchapters, Failure.sortBy_rank_eq_flatMap, Position.all, List.flatMap_assoc, List.flatMap_map]
  refine List.flatMap_congr fun place _ => ?_
  rw [failures_ofGroup, List.flatMap_map]
  exact List.flatMap_congr fun stage _ => filter_ofPlace fs place.1 place.2 stage

theorem chapters_eq_nil_iff : chapters fs = [] ↔ fs = [] := by
  constructor
  · intro h
    have hsorted := failures_chapters fs
    rw [h, List.flatMap_nil] at hsorted
    exact (hsorted ▸ sortBy_perm Failure.rank fs).nil_eq.symm
  · rintro rfl
    rfl

end content

section arrange

variable {kind : Kind} {target : Target} {stage : Stage} {fs : List Failure}

theorem foldr_push_section (hfs : ∀ f ∈ fs, f.stage = stage) {ss : List Section}
    (hss : ∀ s ∈ ss, s.stage ≠ stage) :
    fs.foldr Section.push ss = if fs = [] then ss else ⟨stage, fs⟩ :: ss := by
  induction fs with
  | nil => rfl
  | cons f fs ih =>
    obtain ⟨rfl, hrest⟩ := List.forall_mem_cons.1 hfs
    rw [List.foldr_cons, ih hrest, if_neg (List.cons_ne_nil f fs)]
    -- Only the last failure meets the sections behind, and their stages are others.
    by_cases hnil : fs = []
    · rw [if_pos hnil, hnil]
      cases ss with
      | nil => rfl
      | cons s ss => rw [Section.push, if_neg (hss s List.mem_cons_self)]
    · rw [if_neg hnil, Section.push, if_pos rfl]

theorem foldr_push_chapter (hfs : ∀ f ∈ fs, f.kind = kind ∧ f.target = target) {cs : List Chapter}
    (hcs : ∀ c ∈ cs, ¬(c.kind = kind ∧ c.target = target)) :
    fs.foldr Chapter.push cs =
      if fs = [] then cs else ⟨kind, target, fs.foldr Section.push []⟩ :: cs := by
  induction fs with
  | nil => rfl
  | cons f fs ih =>
    obtain ⟨⟨rfl, rfl⟩, hrest⟩ := List.forall_mem_cons.1 hfs
    rw [List.foldr_cons, ih hrest, if_neg (List.cons_ne_nil f fs), List.foldr_cons]
    by_cases hnil : fs = []
    · rw [if_pos hnil, hnil]
      cases cs with
      | nil => rfl
      | cons c cs =>
        rw [Chapter.push, if_neg (hcs c List.mem_cons_self)]
        rfl
    · rw [if_neg hnil, Chapter.push, if_pos ⟨rfl, rfl⟩]

/-- Sections in the order of their stages, each with failures of its own stage. -/
structure Section.Ordered (ss : List Section) : Prop where
  ne_nil : ∀ s ∈ ss, s.failures ≠ []
  own : ∀ s ∈ ss, ∀ f ∈ s.failures, f.stage = s.stage
  increasing : (ss.map fun s => s.stage.rank).Pairwise (· < ·)

def Chapter.rank (c : Chapter) : ℕ ×ₗ ℕ := toLex (c.kind.rank, c.target.rank)

/-- Chapters in the order of their kinds and targets, each with failures of its own. -/
structure Chapter.Ordered (cs : List Chapter) : Prop where
  ne_nil : ∀ c ∈ cs, c.failures ≠ []
  own : ∀ c ∈ cs, ∀ f ∈ c.failures, f.kind = c.kind ∧ f.target = c.target
  sections : ∀ c ∈ cs, Section.Ordered c.sections
  increasing : (cs.map Chapter.rank).Pairwise (· < ·)

theorem foldr_push_sections {ss : List Section} (h : Section.Ordered ss) :
    (ss.flatMap Section.failures).foldr Section.push [] = ss := by
  induction ss with
  | nil => rfl
  | cons s ss ih =>
    obtain ⟨hs, hss⟩ := List.forall_mem_cons.1 h.ne_nil
    obtain ⟨hown, howns⟩ := List.forall_mem_cons.1 h.own
    obtain ⟨hfirst, hrest⟩ := List.pairwise_cons.1 h.increasing
    have hother : ∀ s' ∈ ss, s'.stage ≠ s.stage := fun s' hs' heq =>
      (hfirst _ (List.mem_map_of_mem hs')).ne (congrArg Stage.rank heq.symm)
    rw [List.flatMap_cons, List.foldr_append, ih ⟨hss, howns, hrest⟩,
      foldr_push_section hown hother, if_neg hs]

/-- Failures that are taken out of ordered chapters are arranged as they were. -/
theorem arrange_failures {cs : List Chapter} (h : Chapter.Ordered cs) :
    arrange (cs.flatMap Chapter.failures) = cs := by
  induction cs with
  | nil => rfl
  | cons c cs ih =>
    obtain ⟨hc, hcs⟩ := List.forall_mem_cons.1 h.ne_nil
    obtain ⟨hown, howns⟩ := List.forall_mem_cons.1 h.own
    obtain ⟨hsection, hsections⟩ := List.forall_mem_cons.1 h.sections
    obtain ⟨hfirst, hrest⟩ := List.pairwise_cons.1 h.increasing
    have hother : ∀ c' ∈ cs, ¬(c'.kind = c.kind ∧ c'.target = c.target) := by
      rintro c' hc' ⟨hkind, htarget⟩
      refine (hfirst _ (List.mem_map_of_mem hc')).ne ?_
      rw [Chapter.rank, Chapter.rank, hkind, htarget]
    have hpushed : c.failures.foldr Section.push [] = c.sections := foldr_push_sections hsection
    rw [arrange] at ih ⊢
    rw [List.flatMap_cons, List.foldr_append, ih ⟨hcs, howns, hsections, hrest⟩,
      foldr_push_chapter hown hother, if_neg hc, hpushed]

end arrange

section arranged

variable {fs : List Failure}

theorem mem_sectionsOf_iff {s : Section} :
    s ∈ sectionsOf fs ↔ s = Section.ofStage fs s.stage ∧ s.failures ≠ [] := by
  simp only [sectionsOf, List.mem_filter, List.mem_map, Bool.not_eq_true',
    List.isEmpty_eq_false_iff]
  refine and_congr_left fun _ => ⟨?_, fun h => ⟨s.stage, Stage.mem_all _, h.symm⟩⟩
  rintro ⟨stage, -, rfl⟩
  rfl

theorem ordered_sectionsOf (fs : List Failure) : Section.Ordered (sectionsOf fs) where
  ne_nil s hs := (mem_sectionsOf_iff.1 hs).2
  own s hs f hf := by
    rw [(mem_sectionsOf_iff.1 hs).1] at hf
    simpa using (List.mem_filter.1 hf).2
  increasing := by
    refine Stage.pairwise_rank_all.sublist ?_
    have hsublist := (List.filter_sublist (p := fun s : Section => !s.failures.isEmpty)
      (l := Stage.all.map (Section.ofStage fs))).map fun s => s.stage.rank
    rwa [List.map_map] at hsublist

theorem mem_chapters_iff {c : Chapter} : c ∈ chapters fs ↔
    c = Chapter.ofGroup (FailureGroup.ofPlace fs (c.kind, c.target)) ∧ c.failures ≠ [] := by
  have hplaces (place : Kind × Target) : place ∈ places := by
    obtain ⟨kind, target⟩ := place
    cases kind <;> cases target <;> decide
  simp only [chapters, groups, List.mem_map, List.mem_filter, Bool.not_eq_true',
    List.isEmpty_eq_false_iff]
  constructor
  · rintro ⟨_, ⟨⟨place, -, rfl⟩, hne⟩, rfl⟩
    exact ⟨rfl, mt (failures_ofGroup_eq_nil_iff _).1 hne⟩
  · rintro ⟨hc, hne⟩
    rw [hc] at hne
    exact ⟨_, ⟨⟨_, hplaces _, rfl⟩, mt (failures_ofGroup_eq_nil_iff _).2 hne⟩, hc.symm⟩

theorem mem_failures_iff {c : Chapter} (hc : c ∈ chapters fs) {f : Failure} :
    f ∈ c.failures ↔ f ∈ fs ∧ f.kind = c.kind ∧ f.target = c.target := by
  rw [(mem_chapters_iff.1 hc).1, (failures_ofGroup_perm _).mem_iff]
  simp [FailureGroup.ofPlace, FailureGroup.holds, Chapter.ofGroup]

theorem ordered_chapters (fs : List Failure) : Chapter.Ordered (chapters fs) where
  ne_nil c hc := (mem_chapters_iff.1 hc).2
  own c hc f hf := ((mem_failures_iff hc).1 hf).2
  sections c hc := by
    rw [(mem_chapters_iff.1 hc).1]
    exact ordered_sectionsOf _
  increasing := by
    have hplaces : (places.map fun place => (toLex (place.1.rank, place.2.rank) : ℕ ×ₗ ℕ)).Pairwise
        (· < ·) := by decide
    refine hplaces.sublist ?_
    have hsublist := (List.filter_sublist (p := fun g : FailureGroup => !g.failures.isEmpty)
      (l := places.map (FailureGroup.ofPlace fs))).map fun g =>
        (toLex (g.kind.rank, g.target.rank) : ℕ ×ₗ ℕ)
    rw [List.map_map] at hsublist
    rw [chapters, List.map_map]
    exact hsublist

/-- Chapters that show some failures: every kind and target with failures has one chapter, every
stage in it has one section, and a section has the failures of its place in the order in which they
are given. -/
structure Arranged (fs : List Failure) (cs : List Chapter) : Prop extends Chapter.Ordered cs where
  chapter_iff : ∀ kind target, (∃ c ∈ cs, c.kind = kind ∧ c.target = target) ↔
    ∃ f ∈ fs, f.kind = kind ∧ f.target = target
  section_iff : ∀ c ∈ cs, ∀ stage, (∃ s ∈ c.sections, s.stage = stage) ↔
    ∃ f ∈ fs, f.position = (c.kind, c.target, stage)
  entries : ∀ c ∈ cs, ∀ s ∈ c.sections,
    s.failures = fs.filter fun f => f.position = (c.kind, c.target, s.stage)
  once : (cs.flatMap Chapter.failures).Perm fs
  total : (cs.map fun c => c.failures.length).sum = fs.length

theorem entries_chapters {c : Chapter} (hc : c ∈ chapters fs) {s : Section}
    (hs : s ∈ c.sections) :
    s.failures = fs.filter fun f => f.position = (c.kind, c.target, s.stage) := by
  rw [(mem_chapters_iff.1 hc).1] at hs
  rw [(mem_sectionsOf_iff.1 hs).1]
  exact filter_ofPlace fs c.kind c.target s.stage

theorem arranged_chapters (fs : List Failure) : Arranged fs (chapters fs) where
  toOrdered := ordered_chapters fs
  chapter_iff kind target := by
    constructor
    · rintro ⟨c, hc, rfl, rfl⟩
      obtain ⟨f, hf⟩ := List.exists_mem_of_ne_nil _ ((ordered_chapters fs).ne_nil c hc)
      exact ⟨f, (mem_failures_iff hc).1 hf⟩
    · rintro ⟨f, hf, rfl, rfl⟩
      have hmem := (sortBy_perm Failure.rank fs).mem_iff.2 hf
      rw [← failures_chapters] at hmem
      obtain ⟨c, hc, hfc⟩ := List.mem_flatMap.1 hmem
      obtain ⟨-, hkind, htarget⟩ := (mem_failures_iff hc).1 hfc
      exact ⟨c, hc, hkind.symm, htarget.symm⟩
  section_iff c hc stage := by
    constructor
    · rintro ⟨s, hs, rfl⟩
      have hne := ((ordered_chapters fs).sections c hc).ne_nil s hs
      rw [entries_chapters hc hs] at hne
      obtain ⟨f, hf⟩ := List.exists_mem_of_ne_nil _ hne
      exact ⟨f, by simpa using hf⟩
    · rintro ⟨f, hf, hposition⟩
      simp only [Failure.position, Prod.mk.injEq] at hposition
      obtain ⟨hkind, htarget, rfl⟩ := hposition
      obtain ⟨s, hs, hfs⟩ := List.mem_flatMap.1 ((mem_failures_iff hc).2 ⟨hf, hkind, htarget⟩)
      exact ⟨s, hs, (((ordered_chapters fs).sections c hc).own s hs f hfs).symm⟩
  entries c hc s hs := entries_chapters hc hs
  once := by
    rw [failures_chapters]
    exact sortBy_perm _ _
  total := by
    rw [← List.length_flatMap, failures_chapters, (sortBy_perm _ _).length_eq]

theorem arrange_sortBy (fs : List Failure) : arrange (sortBy Failure.rank fs) = chapters fs := by
  rw [← failures_chapters, arrange_failures (ordered_chapters fs)]

end arranged

end Report

theorem Ledger.report_eq_render (l : Ledger) :
    l.report = Report.render (Report.chapters l.failures) := by
  have hlength : ((Report.chapters l.failures).flatMap Report.Chapter.failures).length =
      l.failures.length := by
    rw [Report.failures_chapters, (sortBy_perm _ _).length_eq]
  have hlines : (Report.chapters l.failures).flatMap Report.Chapter.lines =
      (Report.groups l.failures).flatMap Report.FailureGroup.lines := by
    rw [Report.chapters, List.flatMap_map]
    simp only [Report.lines_ofGroup]
  rw [Report.render, hlength, hlines, report_eq, Report.text, size]
  simp only [Report.chapters_eq_nil_iff, List.length_eq_zero_iff]

end Crosscheck
