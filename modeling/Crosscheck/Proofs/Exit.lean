import Crosscheck.Proofs.Accounts
import Crosscheck.Proofs.Groups
import Crosscheck.Proofs.Parallel
import Crosscheck.Proofs.Preflight

/-!
# How a session ends

The exit code comes from the ledger and the printed counts come from the tallies of the suites. Both
agree with what became of the cases: after every suite that comes to its end, what has been counted
as failed is as much as has been recorded, and as many of the executed cases have failed.
-/

namespace Crosscheck

namespace Session

/-- What a suite that comes to its end prints. -/
def suiteText (m : Manner) (selection : Selection) (kind : Kind) (target : Target)
    (cases : List Case) (run : SuiteRun) (tally : Tally) : String :=
  suiteHead m selection kind target cases ++
    (if m.silent then "" else String.join (run.ended.map caseLine)) ++ suiteFoot selection tally

/-- The progress of a run after a suite that came to its end. -/
def Progress.next (p : Progress) (run : SuiteRun) (tally : Tally) (w : World) (text : String) :
    Progress where
  world := w
  ledger := run.ledger
  tallies := p.tallies ++ [tally]
  ended := p.ended ++ run.ended
  stdout := p.stdout ++ text

/-- Suites that are run one after the other, each in the world and with the ledger that the one
before it left, and that all come to their end. -/
inductive Completes (m : Manner) (selection : Selection) :
    List (Kind × Target × List Case) → Progress → Progress → Prop
  | nil {p : Progress} : Completes m selection [] p p
  | cons {kind : Kind} {target : Target} {cases : List Case}
      {more : List (Kind × Target × List Case)} {p p' : Progress} {run : SuiteRun} {w : World}
      {tally : Tally}
      (hrun : Suite.run m.programs (m.turns p.tallies.length) m.settings kind target cases
        p.ledger p.world = (run, w))
      (hverdict : run.verdict = .ok tally)
      (hrest : Completes m selection more
        (p.next run tally w (suiteText m selection kind target cases run tally)) p') :
      Completes m selection ((kind, target, cases) :: more) p p'

/-- The pairs of a case and a target in some suites. -/
def pairs (suites : List (Kind × Target × List Case)) : List (Case × Target) :=
  suites.flatMap fun (_, target, cases) => cases.map fun c => (c, target)

/-- The accounts of a run after some suites. -/
structure Balanced (suites : List (Kind × Target × List Case)) (p : Progress) : Prop where
  executed : (p.ended.map fun r => (r.test, r.target)).Perm (pairs suites)
  counted : total Tally.passed p.tallies + total Tally.failedCount p.tallies +
    total Tally.skipped p.tallies = (suites.map fun suite => suite.2.2.length).sum
  recorded : total Tally.failedCount p.tallies = p.ledger.size
  failed : p.ledger.size = p.ended.countP fun r => r.outcome.isFailure

section balanced

variable {m : Manner} {selection : Selection} {suites more : List (Kind × Target × List Case)}
  {p p' : Progress}

theorem total_append (count : Tally → Nat) (ts : List Tally) (t : Tally) :
    total count (ts ++ [t]) = total count ts + count t := by
  simp [total]

theorem balanced_start (w : World) : Balanced [] ⟨w, .empty, [], [], ""⟩ :=
  ⟨.refl _, rfl, rfl, rfl⟩

/-- A suite keeps the accounts whether or not its directory had to be made. -/
theorem accounted_of_run {programs : Behaviour} {turns : List Turn} {settings : Settings}
    {kind : Kind} {target : Target} {cases : List Case} {ledger : Ledger} {w w' : World}
    {run : SuiteRun} {tally : Tally}
    (hrun : Suite.run programs turns settings kind target cases ledger w = (run, w'))
    (hverdict : run.verdict = .ok tally) :
    ∃ results, Suite.Accounted target cases ledger run tally results := by
  obtain ⟨workDir, w', rfl⟩ := Suite.exists_runIn hrun hverdict
  obtain ⟨results, -, -, haccounted, -⟩ := Suite.accounted_of_ok hverdict
  exact ⟨results, haccounted⟩

/-- One more suite that comes to its end leaves the accounts balanced. -/
theorem Balanced.next (h : Balanced suites p) (kind : Kind) {target : Target} {cases : List Case}
    {run : SuiteRun} {tally : Tally} {results : List Trial.Result}
    (haccounted : Suite.Accounted target cases p.ledger run tally results) (w : World)
    (text : String) :
    Balanced (suites ++ [(kind, target, cases)]) (p.next run tally w text) := by
  obtain ⟨records, hrecords, hforall⟩ := haccounted.recorded
  have hfailing : tally.failedCount = results.countP fun r => r.outcome.isFailure := by
    rw [Tally.failedCount, haccounted.failed, List.length_map, List.countP_eq_length_filter]
  have hsize : run.ledger.size = p.ledger.size + tally.failedCount := by
    rw [hfailing, List.countP_eq_length_filter, hforall.length_eq, Ledger.size, hrecords,
      List.length_append, Ledger.size]
  have hpairs : results.map (fun r => (r.test, r.target)) = cases.map fun c => (c, target) := by
    rw [← haccounted.tests, List.map_map]
    exact List.map_congr_left fun r hr => by rw [Function.comp_apply, haccounted.targets r hr]
  refine ⟨?_, ?_, ?_, ?_⟩
  · have hended := (haccounted.ended.map fun r => (r.test, r.target)).trans (.of_eq hpairs)
    simp only [Progress.next, pairs, List.map_append, List.flatMap_append, List.flatMap_cons,
      List.flatMap_nil, List.append_nil]
    exact h.executed.append hended
  · have htotal := haccounted.total
    have hcounted := h.counted
    simp only [Progress.next, total_append, Tally.failedCount, List.map_append, List.map_cons,
      List.map_nil, List.sum_append, List.sum_cons, List.sum_nil] at hcounted ⊢
    omega
  · simp only [Progress.next, total_append, hsize, h.recorded]
  · simp only [Progress.next, List.countP_append]
    rw [haccounted.ended.countP_eq, ← hfailing, ← h.failed, hsize]

/-- The accounts are balanced after every run that comes to its end. -/
theorem Balanced.completes (h : Balanced suites p) (hcompletes : Completes m selection more p p') :
    Balanced (suites ++ more) p' := by
  induction hcompletes generalizing suites with
  | nil => simpa using h
  | @cons kind target cases more p p' run w tally hrun hverdict hrest ih =>
    obtain ⟨results, haccounted⟩ := accounted_of_run hrun hverdict
    have hnext := ih (h.next kind haccounted w _)
    rwa [List.append_assoc] at hnext

section completes

variable (m : Manner) (selection : Selection) (kind : Kind) (target : Target) (cases : List Case)
  (more : List (Kind × Target × List Case)) (p : Progress)

theorem completes_cons_iff {p' : Progress} :
    let out := Suite.run m.programs (m.turns p.tallies.length) m.settings kind target cases
      p.ledger p.world
    Completes m selection ((kind, target, cases) :: more) p p' ↔
      ∃ tally, out.1.verdict = .ok tally ∧ Completes m selection more
        (p.next out.1 tally out.2 (suiteText m selection kind target cases out.1 tally)) p' := by
  intro out
  constructor
  · intro h
    cases h with
    | @cons _ _ _ _ _ _ run w tally hrun hverdict hrest =>
      obtain rfl : out.1 = run := congrArg Prod.fst hrun
      obtain rfl : out.2 = w := congrArg Prod.snd hrun
      exact ⟨tally, hverdict, hrest⟩
  · rintro ⟨tally, hverdict, hrest⟩
    exact .cons rfl hverdict hrest

theorem runSuites_cons :
    let out := Suite.run m.programs (m.turns p.tallies.length) m.settings kind target cases
      p.ledger p.world
    match out.1.verdict with
    | .ok tally => runSuites m selection ((kind, target, cases) :: more) p =
        runSuites m selection more
          (p.next out.1 tally out.2 (suiteText m selection kind target cases out.1 tally))
    | .error fatal => (runSuites m selection ((kind, target, cases) :: more) p).2 = some fatal := by
  intro out
  rw [runSuites]
  cases hverdict : out.1.verdict with
  | error fatal => simp only [out] at hverdict ⊢; rw [hverdict]
  | ok tally =>
    simp only [out] at hverdict ⊢
    rw [hverdict]
    simp only [Progress.next, suiteText, String.append_assoc]

end completes

/-- A run comes to the end of its last suite exactly if every suite comes to its end. -/
theorem runSuites_eq_none_iff :
    runSuites m selection suites p = (p', none) ↔ Completes m selection suites p p' := by
  induction suites generalizing p with
  | nil =>
    constructor
    · intro h
      cases h
      exact .nil
    · intro h
      cases h
      rfl
  | cons suite more ih =>
    obtain ⟨kind, target, cases⟩ := suite
    have hcons := runSuites_cons m selection kind target cases more p
    refine Iff.trans ?_ (completes_cons_iff m selection kind target cases more p).symm
    cases hverdict : (Suite.run m.programs (m.turns p.tallies.length) m.settings kind target cases
        p.ledger p.world).1.verdict with
    | error fatal =>
      simp only [hverdict] at hcons
      constructor
      · intro h
        rw [h] at hcons
        cases hcons
      · rintro ⟨tally, hok, -⟩
        cases hok
    | ok tally =>
      simp only [hverdict] at hcons
      rw [hcons, ih]
      constructor
      · exact fun hrest => ⟨tally, rfl, hrest⟩
      · rintro ⟨tally', hok, hrest⟩
        cases hok
        exact hrest

/-- What a run whose suites all come to their end shows, and what it leaves. -/
theorem Completes.runSelection_eq {targets : List Target} {w : World}
    (h : Completes m selection (selection.suites targets) ⟨w, .empty, [], [], ""⟩ p) :
    runSelection m selection targets w =
      ({ conclude selection p with stderr := warnings targets ++ (conclude selection p).stderr },
        p.ended, p.world) := by
  rw [runSelection, runSuites_eq_none_iff.2 h]

end balanced

/-- How the options are carried out. -/
def manner (programs : Behaviour) (turns : Nat → List Turn) (o : Options) (w : World) : Manner :=
  ⟨o.settings (.detect w), o.silent, programs, turns⟩

/-- A session that is not ended early: what it selects, and where it stands after the last suite. -/
structure Ends (programs : Behaviour) (turns : Nat → List Turn) (o : Options) (w : World)
    (selection : Selection) (targets : List Target) (p : Progress) : Prop where
  selects : Selects o w (o.settings (.detect w)) selection targets
  completes : Completes (manner programs turns o w) selection (selection.suites targets)
    ⟨w, .empty, [], [], ""⟩ p

/-- The counts of a run as they are printed. -/
def overall (selection : Selection) (passed failed skipped : Nat) : String :=
  match selection with
  | .single _ => line "" ++ line ("Summary: " ++ counts passed failed skipped)
  | .corpora _ =>
    line "" ++ line rule ++ line ("OVERALL: " ++ counts passed failed skipped) ++ line rule

/-- The metrics as they are printed, if they are asked for. -/
def metricsText (o : Options) (ended : List Trial.Result) : String :=
  if o.metrics then line "" ++ (Metrics.empty.recordResults ended).summary else ""

/-- A transcript that tells the truth about a session. -/
structure Truthful (programs : Behaviour) (turns : Nat → List Turn) (o : Options) (w : World)
    (t : Transcript) : Prop where
  exit : t.exit = 0 ↔ ∃ selection targets p, Ends programs turns o w selection targets p ∧
    ∀ r ∈ p.ended, r.outcome.isPass = true ∨ r.outcome.isSkip = true
  executed : ∀ selection targets p, Ends programs turns o w selection targets p →
    (p.ended.map fun r => (r.test, r.target)).Perm (pairs (selection.suites targets))
  printed : ∀ selection targets p, Ends programs turns o w selection targets p →
    ∃ passed failed skipped groups,
      t.stdout = p.stdout ++ overall selection passed failed skipped ++
        (if 0 < failed then line "" ++ Report.text groups failed else "") ++
        metricsText o p.ended ∧
      passed + failed + skipped =
        ((selection.suites targets).map fun suite => suite.2.2.length).sum ∧
      failed = p.ledger.size ∧ (groups.map Report.FailureGroup.size).sum = failed

section truthful

variable {programs : Behaviour} {turns : Nat → List Turn} {o : Options} {w : World}
  {selection : Selection} {targets : List Target} {p : Progress}

theorem Ends.balanced (h : Ends programs turns o w selection targets p) :
    Balanced (selection.suites targets) p :=
  (balanced_start w).completes h.completes

/-- What a session that is not ended early shows. -/
theorem Ends.runOptions_eq (h : Ends programs turns o w selection targets p) :
    (runOptions programs turns o w).1 =
      { exit := (conclude selection p).exit
        stdout := (conclude selection p).stdout ++ metricsText o p.ended
        stderr := warnings targets ++ (conclude selection p).stderr } := by
  have hselect := select_eq_ok_iff.2 h.selects
  have hrun := h.completes.runSelection_eq
  have hexit : (conclude selection p).exit ≠ exitOverflow := by
    unfold conclude
    split
    · exact nofun
    · exact nofun
  unfold manner at hrun
  simp only [runOptions, hselect, hrun, metricsText]
  cases o.metrics <;> simp [hexit, String.append_assoc]

/-- Only a session that is not ended early may exit with zero. -/
theorem exists_ends_of_exit (h : (runOptions programs turns o w).1.exit = 0) :
    ∃ selection targets p, Ends programs turns o w selection targets p := by
  have hexit {t : Transcript} {ended : List Trial.Result} {w' : World}
      (ht : (if o.metrics && t.exit ≠ exitOverflow then
        ({ t with stdout := t.stdout ++ line "" ++
          (Metrics.empty.recordResults ended).summary }, w') else (t, w')).1.exit = 0) :
      t.exit = 0 := by
    split at ht <;> exact ht
  unfold runOptions at h
  have hzero := hexit h
  cases hselect : select o w (o.settings (.detect w)) with
  | error message =>
    rw [hselect] at hzero
    cases hzero
  | ok selected =>
    obtain ⟨selection, targets⟩ := selected
    cases hrun : runSuites (manner programs turns o w) selection (selection.suites targets)
        ⟨w, .empty, [], [], ""⟩ with
    | mk p ending? =>
      cases ending? with
      | none => exact ⟨selection, targets, p, select_eq_ok_iff.1 hselect,
          runSuites_eq_none_iff.1 hrun⟩
      | some fatal =>
        unfold manner at hrun
        simp only [hselect, runSelection, hrun] at hzero
        cases fatal <;> cases hzero

end truthful

/-- A source in the root directory, with the runtime and the tools that it needs. -/
def equippedWorld : World where
  files := ["a.c", "clang", "moon", "riscv64-unknown-elf-gcc", "spike"].foldr
    (fun name t => t.insert [Text.utf8 name] (.file [] false))
    ((FileTree.empty.insert [Text.utf8 "real_tests"] .directory).insert
      [Text.utf8 "real_tests", Text.utf8 "cruntime.c"] (.file [] false))
  here := []
  searchPath := some [slash]
  clock := 0
  processors := 1
  launched := []

end Session

end Crosscheck
