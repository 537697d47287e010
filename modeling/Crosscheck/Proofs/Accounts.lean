import Crosscheck.Proofs.Histories
import Crosscheck.Proofs.Verdict
import Crosscheck.Suite

/-!
# Accounts of a suite

A suite keeps its accounts in three places: the counts, the ledger of failures, and the results in
the order in which the cases ended. For a suite that comes to its end they agree: every case was
executed once and stands in each of them once at most, whatever turns the workers took. A suite that
is ended by a fatal error records nothing, and one worker starts no case after the one that ended
it.
-/

namespace Crosscheck

/-- A failure as it is recorded of a result. -/
structure Failure.Records (r : Trial.Result) (f : Failure) : Prop where
  test : f.test = r.test.name
  kind : f.kind = r.test.kind
  target : f.target = r.target
  stage : r.outcome.stage? = some f.stage
  detail : f.detail = truncateDetail r.outcome.detail

theorem Failure.records_of_ofOutcome {r : Trial.Result} {f : Failure}
    (h : ofOutcome? r.test r.target r.outcome = some f) : Records r f := by
  obtain ⟨stage, hstage, rfl⟩ := Option.map_eq_some_iff.1 h
  exact ⟨rfl, rfl, rfl, hstage, rfl⟩

/-- The results that fail are those that are recorded. -/
theorem Failure.forall₂_records (rs : List Trial.Result) :
    List.Forall₂ Records (rs.filter fun r => r.outcome.isFailure)
      (rs.filterMap fun r => ofOutcome? r.test r.target r.outcome) := by
  induction rs with
  | nil => exact .nil
  | cons r rs ih =>
    have hfailure := r.outcome.isFailure_eq_isSome_stage?
    cases hrecord : ofOutcome? r.test r.target r.outcome with
    | none =>
      have hstage : r.outcome.stage? = none := Option.map_eq_none_iff.1 hrecord
      rw [List.filter_cons_of_neg (by simp [hfailure, hstage])]
      simp only [List.filterMap_cons, hrecord]
      exact ih
    | some f =>
      have hrecords := records_of_ofOutcome hrecord
      rw [List.filter_cons_of_pos (by simp [hfailure, hrecords.stage])]
      simp only [List.filterMap_cons, hrecord]
      exact .cons hrecords ih

theorem Ledger.failures_foldl_record (fs : List Failure) (l : Ledger) :
    (fs.foldl record l).failures = l.failures ++ fs := by
  induction fs generalizing l with
  | nil => simp
  | cons f fs ih => simp [ih]

theorem Ledger.failures_recordAll (l : Ledger) (rs : List Trial.Result) :
    (l.recordAll rs).failures =
      l.failures ++ rs.filterMap fun r => Failure.ofOutcome? r.test r.target r.outcome :=
  failures_foldl_record _ l

/-- Every outcome is one of the three. -/
theorem Outcome.one_of_three (o : Outcome) :
    (if o.isPass then 1 else 0) + (if o.isSkip then 1 else 0) + (if o.isFailure then 1 else 0) =
      1 := by
  cases o <;> rfl

theorem Tally.total_ofResults (kind : Kind) (target : Target) (rs : List Trial.Result) :
    (ofResults kind target rs).passed + (ofResults kind target rs).skipped +
      (ofResults kind target rs).failed.length = rs.length := by
  simp only [ofResults, List.length_map, ← List.countP_eq_length_filter]
  induction rs with
  | nil => rfl
  | cons r rs ih =>
    have hone := r.outcome.one_of_three
    simp only [List.countP_cons, List.length_cons]
    omega

namespace Trial

/-- One whole execution of a trial, from one look at the clock to another, and its result. -/
structure Executed (t : Trial) (es : List Exchange) (r : Result) : Prop where
  test : r.test = t.test
  target : r.target = t.target
  steps : ∃ (start stop : Nat) (body : List Exchange),
    es = ⟨.now, start⟩ :: body ++ [⟨.now, stop⟩] ∧ r.elapsed = ⟨stop - start⟩ ∧
      t.plan.Leaves body (.done (.ok r.outcome))

theorem executed_of_leaves {t : Trial} {es : List Exchange} {r : Result}
    (h : t.timed.Leaves es (.done (.ok r))) : t.Executed es r := by
  obtain ⟨start, _, es', rfl, hstart, hrest⟩ := h.exists_of_bind
  obtain ⟨v, body, es'', rfl, hplan, hstop⟩ := hrest.exists_of_bind
  obtain ⟨stop, _, rest, rfl, hstop, hdone⟩ := hstop.exists_of_bind
  obtain rfl := hstart.eq_of_request
  obtain rfl := hstop.eq_of_request
  obtain ⟨rfl, hvalue⟩ := hdone.eq_of_done
  cases v with
  | error fatal => cases hvalue
  | ok outcome =>
    cases hvalue
    exact ⟨rfl, rfl, start, stop, body, by simp, rfl, hplan⟩

theorem test_of_run_timed {t : Trial} {programs : Behaviour} {w w' : World} {r : Result}
    (h : t.timed.run programs w = (.ok r, w')) : r.test = t.test := by
  have hvalue := congrArg Prod.fst h
  simp only [timed, Plan.run_bind, Plan.run_pure] at hvalue
  obtain ⟨outcome, -, rfl⟩ := map_eq_ok_iff.1 hvalue
  rfl

end Trial

/-- The accounts of a suite that came to its end, as its results in the order of the cases tell. -/
structure Suite.Accounted (target : Target) (cases : List Case) (ledger : Ledger) (run : SuiteRun)
    (tally : Tally) (results : List Trial.Result) : Prop where
  tests : results.map Trial.Result.test = cases
  targets : ∀ r ∈ results, r.target = target
  ended : run.ended.Perm results
  total : tally.passed + tally.skipped + tally.failed.length = cases.length
  passed : tally.passed = (results.filter fun r => r.outcome.isPass).length
  skipped : tally.skipped = (results.filter fun r => r.outcome.isSkip).length
  failed : tally.failed = (results.filter fun r => r.outcome.isFailure).map fun r => r.test.name
  recorded : ∃ records, run.ledger.failures = ledger.failures ++ records ∧
    List.Forall₂ Failure.Records (results.filter fun r => r.outcome.isFailure) records

namespace Suite

variable {programs : Behaviour} {turns : List Turn} {settings : Settings} {workDir : Path}
  {kind : Kind} {target : Target} {cases : List Case} {ledger : Ledger} {w : World}

theorem timed_getElem {i : Nat} {t : Trial}
    (h : (trials settings workDir target cases)[i]? = some t) :
    ((trials settings workDir target cases).map Trial.timed)[i]? = some t.timed := by
  rw [List.getElem?_map, h, Option.map_some]

theorem executed_of_carriedOut {h : History} {results : List Trial.Result} {w' : World}
    (hcarried : CarriedOut programs ((trials settings workDir target cases).map Trial.timed) w h
      results w') {i : Nat} {t : Trial} {r : Trial.Result}
    (ht : (trials settings workDir target cases)[i]? = some t) (hr : results[i]? = some r) :
    t.Executed (h.part i) r :=
  Trial.executed_of_leaves (hcarried.once i t.timed r (timed_getElem ht) hr)

theorem getElem_trials_of_getElem {i : Nat} {c : Case} (h : cases[i]? = some c) :
    (trials settings workDir target cases)[i]? = some ⟨settings, workDir, c, target⟩ := by
  rw [trials, List.getElem?_map, h, Option.map_some]

theorem tests_of_carriedOut {h : History} {results : List Trial.Result} {w' : World}
    (hcarried : CarriedOut programs ((trials settings workDir target cases).map Trial.timed) w h
      results w') :
    results.map Trial.Result.test = cases ∧ ∀ r ∈ results, r.target = target := by
  have hlength : results.length = cases.length := by
    simpa [trials] using hcarried.length
  have hresult (i : Nat) (r : Trial.Result) (hr : results[i]? = some r) :
      ∃ c, cases[i]? = some c ∧ r.test = c ∧ r.target = target := by
    have hi : i < cases.length := by
      rw [← hlength]
      exact (List.getElem?_eq_some_iff.1 hr).1
    have hc := List.getElem?_eq_getElem hi
    have hexecuted := executed_of_carriedOut hcarried (getElem_trials_of_getElem hc) hr
    exact ⟨cases[i], hc, hexecuted.test, hexecuted.target⟩
  constructor
  · refine List.ext_getElem? fun i => ?_
    rw [List.getElem?_map]
    cases hr : results[i]? with
    | none =>
      have hi : cases.length ≤ i := hlength ▸ List.getElem?_eq_none_iff.1 hr
      rw [List.getElem?_eq_none_iff.2 hi]
      rfl
    | some r =>
      obtain ⟨c, hc, htest, -⟩ := hresult i r hr
      rw [hc, Option.map_some, htest]
  · intro r hr
    obtain ⟨i, hi⟩ := List.getElem?_of_mem hr
    obtain ⟨c, -, -, htarget⟩ := hresult i r hi
    exact htarget

/-- What a suite comes to is what the work of its trials comes to. -/
theorem runIn_eq (programs : Behaviour) (turns : List Turn) (settings : Settings)
    (workDir : Path) (kind : Kind) (target : Target) (cases : List Case) (ledger : Ledger)
    (w : World) :
    let out := work programs (settings.workers w.processors) turns
      ((trials settings workDir target cases).map Trial.timed) w
    runIn programs turns settings workDir kind target cases ledger w =
      (match out.1.verdict with
        | .ok results => ⟨.ok (.ofResults kind target results), ledger.recordAll results,
            out.1.ended⟩
        | .error fatal => ⟨.error fatal, ledger, out.1.ended⟩, out.2) := rfl

/-- Whether a suite is run by one worker. -/
def Sequential (settings : Settings) (w : World) (cases : List Case) : Prop :=
  settings.workers w.processors ≤ 1 ∨ cases.length ≤ 1

theorem work_of_sequential (h : Sequential settings w cases) :
    work programs (settings.workers w.processors) turns
        ((trials settings workDir target cases).map Trial.timed) w =
      workInOrder programs ((trials settings workDir target cases).map Trial.timed) w := by
  unfold work
  rw [if_neg]
  simp only [trials, List.length_map, Bool.and_eq_true, decide_eq_true_eq]
  rcases h with h | h <;> omega

/-- A suite that comes to its end has carried out every case. It counts and records the results in
the order of the cases, and one worker has them in that order. -/
theorem carriedOut_of_ok {tally : Tally}
    (hverdict : (runIn programs turns settings workDir kind target cases ledger w).1.verdict =
      .ok tally) :
    let run := runIn programs turns settings workDir kind target cases ledger w
    ∃ results h, CarriedOut programs ((trials settings workDir target cases).map Trial.timed) w h
        results run.2 ∧
      run.1.ended.Perm results ∧ tally = .ofResults kind target results ∧
      run.1.ledger = ledger.recordAll results ∧
      (Sequential settings w cases → run.1.ended = results) := by
  rw [runIn_eq] at hverdict ⊢
  cases hwork : (work programs (settings.workers w.processors) turns
      ((trials settings workDir target cases).map Trial.timed) w).1.verdict with
  | error fatal =>
    rw [hwork] at hverdict
    cases hverdict
  | ok results =>
    rw [hwork] at hverdict
    cases hverdict
    obtain ⟨hended, h, hcarried⟩ := carriedOut_work _ _ _ _ _ hwork
    refine ⟨results, h, hcarried, hended, rfl, rfl, fun hsequential => ?_⟩
    rw [work_of_sequential hsequential] at hwork ⊢
    have horder := oneByOne_workInOrder programs
      ((trials settings workDir target cases).map Trial.timed) w
    rw [hwork] at horder
    exact horder.1

/-- A suite that comes to its end has carried out every case once and kept its accounts. -/
theorem accounted_of_ok {tally : Tally}
    (hverdict : (runIn programs turns settings workDir kind target cases ledger w).1.verdict =
      .ok tally) :
    let run := runIn programs turns settings workDir kind target cases ledger w
    ∃ results h, CarriedOut programs ((trials settings workDir target cases).map Trial.timed) w h
        results run.2 ∧
      Accounted target cases ledger run.1 tally results ∧
      (Sequential settings w cases → run.1.ended = results) := by
  obtain ⟨results, h, hcarried, hended, rfl, hledger, horder⟩ := carriedOut_of_ok hverdict
  obtain ⟨htests, htargets⟩ := tests_of_carriedOut hcarried
  have htotal := Tally.total_ofResults kind target results
  have hlength : results.length = cases.length := by rw [← htests, List.length_map]
  rw [hlength] at htotal
  refine ⟨results, h, hcarried, ⟨htests, htargets, hended, htotal, rfl, rfl, rfl, ?_⟩, horder⟩
  rw [hledger, Ledger.failures_recordAll]
  exact ⟨_, rfl, Failure.forall₂_records results⟩

/-- A suite that comes to its end has had a directory to run its cases in. -/
theorem exists_runIn {run : SuiteRun} {w' : World} {tally : Tally}
    (hrun : Suite.run programs turns settings kind target cases ledger w = (run, w'))
    (hverdict : run.verdict = .ok tally) :
    ∃ workDir w', run = (runIn programs turns settings workDir kind target cases ledger w').1 := by
  unfold Suite.run at hrun
  simp only at hrun
  cases hprepared : (w.prepareWorkDir settings).1 with
  | error e =>
    rw [hprepared] at hrun
    cases hrun
    cases hverdict
  | ok workDir =>
    rw [hprepared] at hrun
    exact ⟨workDir, _, (congrArg Prod.fst hrun).symm⟩

theorem ledger_of_error {fatal : Fatal}
    (hverdict : (runIn programs turns settings workDir kind target cases ledger w).1.verdict =
      .error fatal) :
    (runIn programs turns settings workDir kind target cases ledger w).1.ledger = ledger := by
  rw [runIn_eq] at hverdict ⊢
  cases hwork : (work programs (settings.workers w.processors) turns
      ((trials settings workDir target cases).map Trial.timed) w).1.verdict with
  | ok results =>
    rw [hwork] at hverdict
    cases hverdict
  | error fatal' => rfl

theorem tests_of_oneByOne {results : List Trial.Result} {w w' : World}
    (h : OneByOne programs w ((trials settings workDir target cases).map Trial.timed) results w') :
    results.map Trial.Result.test = cases := by
  induction cases generalizing w results with
  | nil =>
    cases h
    rfl
  | cons c cases ih =>
    cases h with
    | cons hjob hrest =>
      have htest := Trial.test_of_run_timed hjob
      rw [List.map_cons, htest, ih hrest]

/-- A fatal error that ends a suite of one worker is that of the first case that has one. -/
theorem fatal_of_sequential {fatal : Fatal} (hsequential : Sequential settings w cases)
    (hverdict : (runIn programs turns settings workDir kind target cases ledger w).1.verdict =
      .error fatal) :
    let run := runIn programs turns settings workDir kind target cases ledger w
    ∃ front c back w', cases = front ++ c :: back ∧
      run.1.ended.map Trial.Result.test = front ∧
      OneByOne programs w ((trials settings workDir target front).map Trial.timed)
        run.1.ended w' ∧
      (⟨settings, workDir, c, target⟩ : Trial).timed.run programs w' = (.error fatal, run.2) := by
  rw [runIn_eq, work_of_sequential hsequential] at hverdict ⊢
  have horder := oneByOne_workInOrder programs
    ((trials settings workDir target cases).map Trial.timed) w
  cases hwork : (workInOrder programs ((trials settings workDir target cases).map Trial.timed)
      w).1.verdict with
  | ok results =>
    rw [hwork] at hverdict
    cases hverdict
  | error fatal' =>
    rw [hwork] at hverdict horder
    cases hverdict
    obtain ⟨front, job, back, w', hjobs, hfront, hjob⟩ := horder
    rw [trials, List.map_map, List.map_eq_append_iff] at hjobs
    obtain ⟨cases₁, cases₂, rfl, rfl, hlast⟩ := hjobs
    obtain ⟨c, cases₃, rfl, rfl, rfl⟩ := List.map_eq_cons_iff.1 hlast
    rw [← List.map_map] at hfront
    exact ⟨cases₁, c, cases₃, w', rfl, tests_of_oneByOne hfront, hfront, hjob⟩

/-- However a suite is run, its accounts are in order. If it comes to its end, every case was
executed once, counted once, and recorded once if it failed. If it is ended by a fatal error,
nothing is recorded, and a single worker has gone through the cases before the fatal one and no
further. -/
theorem runIn_accounts (programs : Behaviour) (turns : List Turn) (settings : Settings)
    (workDir : Path) (kind : Kind) (target : Target) (cases : List Case) (ledger : Ledger)
    (w : World) :
    let run := runIn programs turns settings workDir kind target cases ledger w
    (∀ tally, run.1.verdict = .ok tally → ∃ (results : List Trial.Result) (h : History),
      h.Happens programs w run.2 ∧ (∀ entry ∈ h, entry.1 < cases.length) ∧
      (∀ (i : Nat) (t : Trial) (r : Trial.Result),
        (trials settings workDir target cases)[i]? = some t → results[i]? = some r →
          t.Executed (h.part i) r) ∧
      Accounted target cases ledger run.1 tally results ∧
      (Sequential settings w cases → run.1.ended = results)) ∧
    ∀ fatal, run.1.verdict = .error fatal → run.1.ledger = ledger ∧
      (Sequential settings w cases → ∃ front c back w',
        cases = front ++ c :: back ∧ run.1.ended.map Trial.Result.test = front ∧
        OneByOne programs w ((trials settings workDir target front).map Trial.timed)
          run.1.ended w' ∧
        (⟨settings, workDir, c, target⟩ : Trial).timed.run programs w' =
          (.error fatal, run.2)) := by
  intro run
  constructor
  · intro tally hverdict
    obtain ⟨results, h, hcarried, haccounted, horder⟩ := accounted_of_ok hverdict
    have hknown : ∀ entry ∈ h, entry.1 < cases.length := by
      simpa [trials] using hcarried.known
    exact ⟨results, h, hcarried.happens, hknown, fun i t r => executed_of_carriedOut hcarried,
      haccounted, horder⟩
  · intro fatal hverdict
    exact ⟨ledger_of_error hverdict, fun hsequential => fatal_of_sequential hsequential hverdict⟩

end Suite

end Crosscheck
