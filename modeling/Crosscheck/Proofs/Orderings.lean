import Crosscheck.Proofs.Legs
import Crosscheck.Proofs.Readiness

/-!
# The order of kinds and targets

A run that is given its kinds and targets in another order goes through the same legs in another
order, if every case comes to the same on every target. Its counts are sums over the legs. Its
report collects the failures of each kind on each target; the legs that can have some are all the
same, so it makes no difference which of them came first. Only the parts that the suites print
themselves stand in the order that was given.
-/

namespace Crosscheck

/-- Blocks that commute may come in any order. -/
theorem flatMap_eq_of_perm {α β : Type} {f : α → List β} {as bs : List α} (h : as.Perm bs)
    (hf : ∀ a ∈ as, ∀ b ∈ as, f a ++ f b = f b ++ f a) : as.flatMap f = bs.flatMap f := by
  induction h with
  | nil => rfl
  | cons a h ih =>
    rw [List.flatMap_cons, List.flatMap_cons,
      ih fun b hb c hc => hf b (List.mem_cons_of_mem _ hb) c (List.mem_cons_of_mem _ hc)]
  | swap a b rest =>
    have hcomm := hf b List.mem_cons_self a (List.mem_cons_of_mem _ List.mem_cons_self)
    simp only [List.flatMap_cons]
    rw [← List.append_assoc, hcomm, List.append_assoc]
  | trans h _ ih ih' =>
    rw [ih hf, ih' fun a ha b hb => hf a (h.mem_iff.2 ha) b (h.mem_iff.2 hb)]

/-- Two ledgers have one report if they have the same failures of each kind on each target, in the
same order. -/
theorem Ledger.report_congr {l l' : Ledger} (hsize : l.size = l'.size)
    (h : ∀ place, Report.FailureGroup.ofPlace l.failures place =
      Report.FailureGroup.ofPlace l'.failures place) : l.report = l'.report := by
  have hgroups : Report.groups l.failures = Report.groups l'.failures := by
    rw [Report.groups, Report.groups, funext h]
  rw [report_eq, report_eq, hsize, hgroups]

def Trial.Result.untimed (r : Trial.Result) : Trial.Result := { r with elapsed := ⟨0⟩ }

namespace Session

/-- What every case comes to on every target. -/
abbrev Fate := Case → Target → Outcome

section fated

variable (fate : Fate)

/-- The results of a suite by the fates of its cases, as if no time had passed. -/
def fated (suite : Kind × Target × List Case) : List Trial.Result :=
  suite.2.2.map fun c => ⟨c, suite.2.1, fate c suite.2.1, ⟨0⟩⟩

def fatedTally (suite : Kind × Target × List Case) : Tally :=
  .ofResults suite.1 suite.2.1 (fated fate suite)

/-- What a suite prints by the fates of its cases. One worker ends them in the order of the list. -/
def Shows (m : Manner) (selection : Selection) (suite : Kind × Target × List Case)
    (text : String) : Prop :=
  ∃ ended : List Trial.Result, ended.Perm (fated fate suite) ∧
    (m.settings.jobs = 1 → ended = fated fate suite) ∧
    text = suiteHead m selection suite.1 suite.2.1 suite.2.2 ++
      (if m.silent then "" else String.join (ended.map caseLine)) ++
      suiteFoot selection (fatedTally fate suite)

/-- The text of a suite whose cases end in the order of the list, or are not shown. -/
def fatedText (m : Manner) (selection : Selection) (suite : Kind × Target × List Case) : String :=
  suiteHead m selection suite.1 suite.2.1 suite.2.2 ++
    (if m.silent then "" else String.join ((fated fate suite).map caseLine)) ++
    suiteFoot selection (fatedTally fate suite)

variable {fate} in
theorem eq_map_of_shows {m : Manner} {selection : Selection}
    {suites : List (Kind × Target × List Case)} {texts : List String}
    (h : List.Forall₂ (Shows fate m selection) suites texts)
    (hm : m.silent = true ∨ m.settings.jobs = 1) : texts = suites.map (fatedText fate m selection) := by
  induction h with
  | nil => rfl
  | @cons suite text suites texts hshows _ ih =>
    obtain ⟨ended, -, hordered, htext⟩ := hshows
    have hsuite : text = fatedText fate m selection suite := by
      rcases hm with hsilent | hjobs
      · rw [htext, fatedText, if_pos hsilent, if_pos hsilent]
      · rw [htext, fatedText, hordered hjobs]
    rw [List.map_cons, ← hsuite, ← ih]

namespace Leg

variable {fate} {leg : Leg}

theorem untimed_results (h : ∀ r ∈ leg.results, r.outcome = fate r.test r.target) :
    leg.results.map Trial.Result.untimed = fated fate leg.suite := by
  rw [fated, suite, ← leg.tests, List.map_map]
  refine List.map_congr_left fun r hr => ?_
  rw [Trial.Result.untimed, Function.comp_apply, h r hr, ← leg.targets r hr]

theorem records_eq_fated (h : ∀ r ∈ leg.results, r.outcome = fate r.test r.target) :
    leg.records = recordsOf (fated fate leg.suite) := by
  rw [← untimed_results h, recordsOf, List.filterMap_map]
  rfl

theorem tally_eq_fated (h : ∀ r ∈ leg.results, r.outcome = fate r.test r.target) :
    leg.tally = fatedTally fate leg.suite := by
  refine Tally.ofResults_congr leg.kind leg.target ?_
  rw [← untimed_results h, List.map_map]
  rfl

theorem shows_text (h : ∀ r ∈ leg.results, r.outcome = fate r.test r.target) (m : Manner)
    (selection : Selection) (hordered : m.settings.jobs = 1 → leg.ended = leg.results) :
    Shows fate m selection leg.suite (leg.text m selection) := by
  refine ⟨leg.ended.map Trial.Result.untimed, ?_, fun hjobs => ?_, ?_⟩
  · rw [← untimed_results h]
    exact leg.once.map _
  · rw [hordered hjobs, untimed_results h]
  · rw [text, tally_eq_fated h, List.map_map]
    rfl

end Leg

/-- What a run has to show for some suites by the fates of their cases. -/
structure Told (m : Manner) (selection : Selection) (suites : List (Kind × Target × List Case))
    (p : Progress) : Prop where
  ledger : p.ledger.failures = suites.flatMap fun suite => recordsOf (fated fate suite)
  tallies : p.tallies = suites.map (fatedTally fate)
  sections : ∃ texts, List.Forall₂ (Shows fate m selection) suites texts ∧
    p.stdout = String.join texts

theorem told_of_completes {m : Manner} {selection : Selection}
    {suites : List (Kind × Target × List Case)} {w : World} {p : Progress}
    (h : Completes m selection suites ⟨w, .empty, [], [], ""⟩ p)
    (hfate : ∀ r ∈ p.ended, r.outcome = fate r.test r.target) :
    Told fate m selection suites p := by
  obtain ⟨legs, rfl, hpasses⟩ := h.exists_legs
  have hlegs : ∀ leg ∈ legs, ∀ r ∈ leg.results, r.outcome = fate r.test r.target := by
    intro leg hleg r hr
    apply hfate
    rw [hpasses.ended]
    exact List.mem_append_right _ (List.mem_flatMap.2 ⟨leg, hleg, leg.once.mem_iff.2 hr⟩)
  refine ⟨?_, ?_, legs.map (Leg.text m selection), ?_, ?_⟩
  · rw [hpasses.ledger, List.flatMap_map]
    exact List.flatMap_congr fun leg hleg => Leg.records_eq_fated (hlegs leg hleg)
  · rw [hpasses.tallies, List.map_map]
    exact List.map_congr_left fun leg hleg => Leg.tally_eq_fated (hlegs leg hleg)
  · rw [List.forall₂_map_left_iff, List.forall₂_map_right_iff, List.forall₂_same]
    exact fun leg hleg => Leg.shows_text (hlegs leg hleg) m selection
      fun hjobs => hpasses.ordered hjobs leg hleg
  · rw [hpasses.stdout]
    exact String.empty_append

end fated

section suites

variable {w : World} {settings : Settings} {kinds kinds' : List Kind}
  {targets targets' : List Target}

/-- The suites over the corpora of some kinds. -/
def corpusSuites (w : World) (settings : Settings) (kinds : List Kind) (targets : List Target) :
    List (Kind × Target × List Case) :=
  kinds.flatMap fun kind => targets.map fun target => (kind, target, caseList w settings kind)

theorem suites_eq_corpusSuites {selection : Selection}
    (h : checkCorpora w settings kinds targets = .ok selection) (targets : List Target) :
    (∃ groups, selection = .corpora groups) ∧
      selection.suites targets = corpusSuites w settings kinds targets := by
  obtain ⟨-, groups, hgroups, rfl⟩ := checkCorpora_eq_ok_iff.1 h
  refine ⟨⟨groups, rfl⟩, ?_⟩
  rw [Selection.suites, Selection.groups, groups_eq hgroups, List.flatMap_map]
  rfl

theorem corpusSuites_perm (hkinds : kinds.Perm kinds') (htargets : targets.Perm targets') :
    (corpusSuites w settings kinds targets).Perm (corpusSuites w settings kinds' targets') := by
  refine (hkinds.flatMap_right _).trans (List.Perm.flatMap_left _ fun kind _ => ?_)
  exact htargets.map _

theorem eq_of_mem_corpusSuites {a b : Kind × Target × List Case}
    (ha : a ∈ corpusSuites w settings kinds targets)
    (hb : b ∈ corpusSuites w settings kinds targets) (h : (a.1, a.2.1) = (b.1, b.2.1)) :
    a = b := by
  simp only [corpusSuites, List.mem_flatMap, List.mem_map] at ha hb
  obtain ⟨kind, -, target, -, rfl⟩ := ha
  obtain ⟨kind', -, target', -, rfl⟩ := hb
  obtain ⟨rfl, rfl⟩ := Prod.mk.inj h
  rfl

theorem place_of_mem_records {fate : Fate} {suite : Kind × Target × List Case}
    (hsuite : suite ∈ corpusSuites w settings kinds targets) {f : Failure}
    (hf : f ∈ recordsOf (fated fate suite)) : (f.kind, f.target) = (suite.1, suite.2.1) := by
  simp only [corpusSuites, List.mem_flatMap, List.mem_map] at hsuite
  obtain ⟨kind, -, target, -, rfl⟩ := hsuite
  obtain ⟨r, hr, hrecord⟩ := List.mem_filterMap.1 hf
  obtain ⟨c, hc, rfl⟩ := List.mem_map.1 hr
  have hrecords := Failure.records_of_ofOutcome hrecord
  rw [hrecords.kind, hrecords.target, kind_of_mem_caseList hc]

theorem filter_records {fate : Fate} {suite : Kind × Target × List Case}
    (hsuite : suite ∈ corpusSuites w settings kinds targets) (place : Kind × Target) :
    (recordsOf (fated fate suite)).filter (Report.FailureGroup.holds place) =
      if place = (suite.1, suite.2.1) then recordsOf (fated fate suite) else [] := by
  have hholds {f : Failure} (hf : f ∈ recordsOf (fated fate suite)) :
      Report.FailureGroup.holds place f = true ↔ place = (suite.1, suite.2.1) := by
    rw [← place_of_mem_records hsuite hf, Report.FailureGroup.holds, Bool.and_eq_true,
      beq_iff_eq, beq_iff_eq, Prod.ext_iff]
    exact and_congr eq_comm eq_comm
  split
  · next hplace => exact List.filter_eq_self.2 fun f hf => (hholds hf).2 hplace
  · next hplace => exact List.filter_eq_nil_iff.2 fun f hf => mt (hholds hf).1 hplace

/-- The failures of a kind on a target are recorded in the same order, whatever the order of the
suites. -/
theorem filter_records_eq {fate : Fate} {suites suites' : List (Kind × Target × List Case)}
    (hperm : suites.Perm suites')
    (hsuites : ∀ suite ∈ suites, suite ∈ corpusSuites w settings kinds targets)
    (place : Kind × Target) :
    (suites.flatMap fun suite => recordsOf (fated fate suite)).filter
        (Report.FailureGroup.holds place) =
      (suites'.flatMap fun suite => recordsOf (fated fate suite)).filter
        (Report.FailureGroup.holds place) := by
  rw [List.filter_flatMap, List.filter_flatMap]
  refine flatMap_eq_of_perm hperm fun a ha b hb => ?_
  rw [filter_records (hsuites a ha), filter_records (hsuites b hb)]
  by_cases hplace : place = (a.1, a.2.1)
  · by_cases hplace' : place = (b.1, b.2.1)
    -- two suites of one place are the same suite, so it does not matter which came first
    · rw [eq_of_mem_corpusSuites (hsuites a ha) (hsuites b hb) (hplace.symm.trans hplace')]
    · rw [if_neg hplace', List.append_nil, List.nil_append]
  · rw [if_neg hplace, List.append_nil, List.nil_append]

end suites

section orderings

variable {m m' : Manner} {kinds kinds' : List Kind} {targets targets' : List Target} {w : World}
  {selection selection' : Selection} {p p' : Progress} {fate : Fate}

/-- A run over the corpora of some kinds that is not ended early: what it selects, and where it
stands after the last suite. -/
structure Finishes (m : Manner) (kinds : List Kind) (targets : List Target) (w : World)
    (selection : Selection) (p : Progress) : Prop where
  check : checkCorpora w m.settings kinds targets = .ok selection
  completes : Completes m selection (selection.suites targets) ⟨w, .empty, [], [], ""⟩ p

/-- What is printed after the last suite: the counts of all suites, and the report if there are
failures. -/
def closing (selection : Selection) (p : Progress) : String :=
  summary selection p.tallies ++ if p.ledger.isEmpty then "" else line "" ++ p.ledger.report

theorem Finishes.runErrand_eq (h : Finishes m kinds targets w selection p) :
    (runErrand m (.corpora kinds) targets w).1 =
      { exit := (conclude selection p).exit
        stdout := p.stdout ++ closing selection p
        stderr := warnings targets ++ (conclude selection p).stderr } := by
  have hcheck : (Errand.corpora kinds).check w m.settings targets = .ok selection := h.check
  have hstdout : (conclude selection p).stdout = p.stdout ++ closing selection p := by
    unfold conclude closing
    cases p.ledger.isEmpty with
    | true => simp
    | false => simp [String.append_assoc]
  rw [runErrand_of_check hcheck, h.completes.runSelection_eq, ← hstdout]

theorem Finishes.told (h : Finishes m kinds targets w selection p)
    (hfate : ∀ r ∈ p.ended, r.outcome = fate r.test r.target) :
    Told fate m selection (corpusSuites w m.settings kinds targets) p := by
  have hcompletes := h.completes
  rw [(suites_eq_corpusSuites h.check targets).2] at hcompletes
  exact told_of_completes fate hcompletes hfate

theorem totals_perm {tallies tallies' : List Tally} (h : tallies.Perm tallies') :
    totals tallies = totals tallies' := by
  have htotal (count : Tally → ℕ) : total count tallies = total count tallies' := by
    rw [total_eq_sum, total_eq_sum]
    exact (h.map count).sum_nat
  rw [totals, totals, htotal, htotal, htotal]

/-- The failures of two runs with the same suites make one report, and as many of them are
recorded. -/
theorem report_eq_of_told {suites suites' : List (Kind × Target × List Case)}
    (hperm : suites.Perm suites') {settings : Settings}
    (hsuites : ∀ suite ∈ suites, suite ∈ corpusSuites w settings kinds targets)
    (h : Told fate m selection suites p) (h' : Told fate m' selection' suites' p') :
    p.ledger.size = p'.ledger.size ∧ p.ledger.report = p'.ledger.report := by
  have hsize : p.ledger.size = p'.ledger.size := by
    rw [Ledger.size, Ledger.size, h.ledger, h'.ledger]
    exact (hperm.flatMap_right _).length_eq
  refine ⟨hsize, Ledger.report_congr hsize fun place => ?_⟩
  rw [Report.FailureGroup.ofPlace, Report.FailureGroup.ofPlace, h.ledger, h'.ledger,
    filter_records_eq hperm hsuites]

/-- The order in which kinds and targets are given makes no difference to the exit code, the counts
and the report of a run in which every case comes to the same on every target. What the suites
print comes in another order, and that is all. -/
theorem order_irrelevant (m : Manner) (programs' : Behaviour) (turns' : ℕ → List Turn)
    {kinds kinds' : List Kind} {targets targets' : List Target} (hkinds : kinds.Perm kinds')
    (htargets : targets.Perm targets') {w : World} {selection selection' : Selection}
    {p p' : Progress} (h : Finishes m kinds targets w selection p)
    (h' : Finishes { m with programs := programs', turns := turns' } kinds' targets' w selection' p')
    (fate : Fate) (hfate : ∀ r ∈ p.ended, r.outcome = fate r.test r.target)
    (hfate' : ∀ r ∈ p'.ended, r.outcome = fate r.test r.target) :
    let m' : Manner := { m with programs := programs', turns := turns' }
    let t := (runErrand m (.corpora kinds) targets w).1
    let t' := (runErrand m' (.corpora kinds') targets' w).1
    t.exit = t'.exit ∧ p.ledger.report = p'.ledger.report ∧
      summary selection p.tallies = summary selection' p'.tallies ∧ t.stderr = t'.stderr ∧
      (corpusSuites w m.settings kinds targets).Perm (corpusSuites w m.settings kinds' targets') ∧
      ∃ texts texts' : List String,
        List.Forall₂ (Shows fate m selection) (corpusSuites w m.settings kinds targets) texts ∧
        List.Forall₂ (Shows fate m' selection')
          (corpusSuites w m.settings kinds' targets') texts' ∧
        (m.silent = true ∨ m.settings.jobs = 1 → texts.Perm texts') ∧
        t.stdout = String.join texts ++ closing selection p ∧
        t'.stdout = String.join texts' ++ closing selection p := by
  intro m' t t'
  have hperm : (corpusSuites w m.settings kinds targets).Perm
      (corpusSuites w m.settings kinds' targets') := corpusSuites_perm hkinds htargets
  have htold := h.told hfate
  have htold' := h'.told hfate'
  obtain ⟨hsize, hreport⟩ := report_eq_of_told hperm (fun suite hsuite => hsuite) htold htold'
  have hsummary : summary selection p.tallies = summary selection' p'.tallies := by
    obtain ⟨⟨groups, rfl⟩, -⟩ := suites_eq_corpusSuites h.check targets
    obtain ⟨⟨groups', rfl⟩, -⟩ := suites_eq_corpusSuites h'.check targets'
    have htallies : p.tallies.Perm p'.tallies := by
      rw [htold.tallies, htold'.tallies]
      exact hperm.map _
    rw [summary, summary, totals_perm htallies]
  have hempty : p.ledger.isEmpty = p'.ledger.isEmpty := by
    rw [Bool.eq_iff_iff, Ledger.isEmpty, Ledger.isEmpty, List.isEmpty_iff_length_eq_zero,
      List.isEmpty_iff_length_eq_zero]
    exact Eq.congr_left hsize
  have hclosing : closing selection p = closing selection' p' := by
    rw [closing, closing, hsummary, hempty, hreport]
  have hconclude : (conclude selection p).exit = (conclude selection' p').exit ∧
      (conclude selection p).stderr = (conclude selection' p').stderr := by
    unfold conclude
    rw [hempty]
    cases p'.ledger.isEmpty with
    | true => exact ⟨rfl, rfl⟩
    | false => exact ⟨rfl, rfl⟩
  obtain ⟨texts, hshows, hstdout⟩ := htold.sections
  obtain ⟨texts', hshows', hstdout'⟩ := htold'.sections
  have ht : t = _ := h.runErrand_eq
  have ht' : t' = _ := h'.runErrand_eq
  rw [ht, ht']
  have htexts (hm : m.silent = true ∨ m.settings.jobs = 1) : texts.Perm texts' := by
    have hfated : fatedText fate m selection = fatedText fate m' selection' := by
      obtain ⟨⟨groups, rfl⟩, -⟩ := suites_eq_corpusSuites h.check targets
      obtain ⟨⟨groups', rfl⟩, -⟩ := suites_eq_corpusSuites h'.check targets'
      rfl
    rw [eq_map_of_shows hshows hm, eq_map_of_shows hshows' hm, hfated]
    exact hperm.map _
  refine ⟨hconclude.1, hreport, hsummary, ?_, hperm, texts, texts', hshows, hshows', htexts,
    ?_, ?_⟩
  · rw [hconclude.2, warnings_eq_replicate, warnings_eq_replicate, htargets.count_eq]
  · rw [hstdout]
  · rw [hstdout', hclosing]

/-- The run over some groups of cases that a world has, if every case comes to its fate and the
cases end in the order of `names`. -/
def Goes (m : Manner) (fate : Fate) (w : World) (groups : List (Kind × List Case))
    (names : List String) : Prop :=
  let run := runSuites m (.corpora groups) ((Selection.corpora groups).suites [.riscv64])
    ⟨w, .empty, [], [], ""⟩
  checkCorpora w m.settings (groups.map Prod.fst) [.riscv64] = .ok (.corpora groups) ∧
    run.2 = none ∧ (∀ r ∈ run.1.ended, r.outcome = fate r.test r.target) ∧
    run.1.ended.map (fun r => r.test.name) = names

instance (m : Manner) (fate : Fate) (w : World) (groups : List (Kind × List Case))
    (names : List String) : Decidable (Goes m fate w groups names) :=
  inferInstanceAs (Decidable (_ ∧ _ ∧ _ ∧ _))

theorem Goes.exists_finishes {groups : List (Kind × List Case)} {names : List String}
    (h : Goes m fate w groups names) : ∃ p,
      Finishes m (groups.map Prod.fst) [.riscv64] w (.corpora groups) p ∧
      (∀ r ∈ p.ended, r.outcome = fate r.test r.target) ∧
      p.ended.map (fun r => r.test.name) = names := by
  obtain ⟨hcheck, hend, hfate, hnames⟩ := h
  exact ⟨_, ⟨hcheck, runSuites_eq_none_iff.1 (Prod.ext rfl hend)⟩, hfate, hnames⟩

/-- Of two cases one passes and one fails, in whatever order they are run. -/
theorem order_irrelevant_stocked :
    let m : Manner := ⟨Settings.standard, false, scribe, fun _ => []⟩
    let fate : Fate := fun c _ =>
      if c.kind = .c then .passed else .failedOnMismatch ⟨none, some ⟨Text.utf8 "b", []⟩, none⟩
    ∃ selection selection' p p',
      Finishes m [.c, .miniMoonBit] [.riscv64] stockedWorld selection p ∧
      Finishes m [.miniMoonBit, .c] [.riscv64] stockedWorld selection' p' ∧
      (∀ r ∈ p.ended, r.outcome = fate r.test r.target) ∧
      (∀ r ∈ p'.ended, r.outcome = fate r.test r.target) ∧
      p.ended.map (fun r => r.test.name) = ["a", "b"] ∧
      p'.ended.map (fun r => r.test.name) = ["b", "a"] ∧ p.ledger.report = p'.ledger.report := by
  intro m fate
  let a : Case := .ofPath (.ofText "./real_tests/C/a.c") .c
  let b : Case := .ofPath (.ofText "./real_tests/MiniMoonBit/b.mbt") .miniMoonBit
  have hgoes : Goes m fate stockedWorld [(.c, [a]), (.miniMoonBit, [b])] ["a", "b"] := by
    decide +kernel
  have hgoes' : Goes m fate stockedWorld [(.miniMoonBit, [b]), (.c, [a])] ["b", "a"] := by
    decide +kernel
  obtain ⟨p, h, hfate, hnames⟩ := hgoes.exists_finishes
  obtain ⟨p', h', hfate', hnames'⟩ := hgoes'.exists_finishes
  have hkinds : [Kind.c, .miniMoonBit].Perm [.miniMoonBit, .c] := by decide
  have hsame := order_irrelevant m m.programs m.turns hkinds (.refl _) h h' fate hfate hfate'
  exact ⟨_, _, p, p', h, h', hfate, hfate', hnames, hnames', hsame.2.1⟩

end orderings

end Session

end Crosscheck
