import Crosscheck.Proofs.Exit
import Crosscheck.Proofs.Collisions

/-!
# The legs of a run

A run that comes to its end is a list of legs, one for each suite. A leg has the results of its
suite in the order of the cases, and all that the run prints, counts and records is put together
from its legs, one after the other. The suites themselves come from the kinds and targets that were
given: each kind has its list of cases, and it has them on each target.
-/

namespace Crosscheck

namespace Session

/-- The failures among some results, as they are recorded. -/
def recordsOf (results : List Trial.Result) : List Failure :=
  results.filterMap fun r => Failure.ofOutcome? r.test r.target r.outcome

/-- A suite that came to its end, with its results in the order of the cases. -/
structure Leg where
  kind : Kind
  target : Target
  cases : List Case
  results : List Trial.Result
  /-- The same results in the order in which they came. -/
  ended : List Trial.Result
  tests : results.map Trial.Result.test = cases
  targets : ∀ r ∈ results, r.target = target
  once : ended.Perm results

namespace Leg

def suite (leg : Leg) : Kind × Target × List Case := (leg.kind, leg.target, leg.cases)

def tally (leg : Leg) : Tally := .ofResults leg.kind leg.target leg.results

def records (leg : Leg) : List Failure := recordsOf leg.results

def text (m : Manner) (selection : Selection) (leg : Leg) : String :=
  suiteHead m selection leg.kind leg.target leg.cases ++
    (if m.silent then "" else String.join (leg.ended.map caseLine)) ++
    suiteFoot selection leg.tally

end Leg

section run

variable {programs : Behaviour} {turns : List Turn} {settings : Settings} {kind : Kind}
  {target : Target} {cases : List Case} {ledger : Ledger} {w w' : World} {run : SuiteRun}
  {tally : Tally}

theorem exists_leg (hrun : Suite.run programs turns settings kind target cases ledger w = (run, w'))
    (hverdict : run.verdict = .ok tally) :
    ∃ leg : Leg, leg.suite = (kind, target, cases) ∧ leg.tally = tally ∧ leg.ended = run.ended ∧
      run.ledger.failures = ledger.failures ++ leg.records ∧
      (settings.jobs = 1 → leg.ended = leg.results) := by
  obtain ⟨workDir, w', rfl⟩ := Suite.exists_runIn hrun hverdict
  obtain ⟨results, h, hcarried, hended, rfl, hledger, horder⟩ := Suite.carriedOut_of_ok hverdict
  obtain ⟨htests, htargets⟩ := Suite.tests_of_carriedOut hcarried
  have hsequential (hjobs : settings.jobs = 1) : Suite.Sequential settings w' cases := by
    left
    simp [Settings.workers, hjobs]
  refine ⟨⟨kind, target, cases, results, _, htests, htargets, hended⟩, rfl, rfl, rfl, ?_,
    fun hjobs => horder (hsequential hjobs)⟩
  rw [hledger]
  exact Ledger.failures_recordAll ledger results

end run

/-- From `p` to `p'`, a run goes through some legs. -/
structure Passes (m : Manner) (selection : Selection) (legs : List Leg) (p p' : Progress) :
    Prop where
  ledger : p'.ledger.failures = p.ledger.failures ++ legs.flatMap Leg.records
  tallies : p'.tallies = p.tallies ++ legs.map Leg.tally
  ended : p'.ended = p.ended ++ legs.flatMap Leg.ended
  stdout : p'.stdout = p.stdout ++ String.join (legs.map (Leg.text m selection))
  ordered : m.settings.jobs = 1 → ∀ leg ∈ legs, leg.ended = leg.results

section passes

variable {m : Manner} {selection : Selection} {suites : List (Kind × Target × List Case)}
  {legs : List Leg} {p p' : Progress}

theorem Passes.nil (p : Progress) : Passes m selection [] p p :=
  ⟨by simp, by simp, by simp, by simp, fun _ leg hleg => by cases hleg⟩

/-- Suites that all come to their end are the legs of the run. -/
theorem Completes.exists_legs (h : Completes m selection suites p p') :
    ∃ legs : List Leg, legs.map Leg.suite = suites ∧ Passes m selection legs p p' := by
  induction h with
  | nil => exact ⟨[], rfl, Passes.nil _⟩
  | @cons kind target cases more p p' run w tally hrun hverdict hrest ih =>
    obtain ⟨leg, hsuite, htally, hended, hledger, hordered⟩ := exists_leg hrun hverdict
    obtain ⟨legs, hsuites, hpasses⟩ := ih
    refine ⟨leg :: legs, by rw [List.map_cons, hsuite, hsuites], ?_, ?_, ?_, ?_, ?_⟩
    · rw [hpasses.ledger, Progress.next, hledger, List.flatMap_cons, List.append_assoc]
    · rw [hpasses.tallies, Progress.next, List.map_cons, htally, List.append_assoc]
      rfl
    · rw [hpasses.ended, Progress.next, List.flatMap_cons, hended, List.append_assoc]
    · have htext : suiteText m selection kind target cases run tally = leg.text m selection := by
        obtain ⟨rfl, rfl, rfl⟩ : leg.kind = kind ∧ leg.target = target ∧ leg.cases = cases := by
          simpa [Leg.suite] using hsuite
        rw [suiteText, Leg.text, hended, htally]
      rw [hpasses.stdout, Progress.next, htext, List.map_cons, String.join_cons,
        String.append_assoc]
    · exact fun hjobs => List.forall_mem_cons.2 ⟨hordered hjobs, hpasses.ordered hjobs⟩

theorem total_eq_sum (count : Tally → ℕ) (tallies : List Tally) :
    total count tallies = (tallies.map count).sum := by
  have hfold (start : ℕ) : tallies.foldl (fun n t => n + count t) start =
      start + (tallies.map count).sum := by
    induction tallies generalizing start with
    | nil => rfl
    | cons t tallies ih => rw [List.foldl_cons, ih, List.map_cons, List.sum_cons, Nat.add_assoc]
  rw [total, hfold, Nat.zero_add]

end passes

section selection

variable {w : World} {settings : Settings}

/-- The cases of a kind, in the order in which they are found. -/
def caseList (w : World) (settings : Settings) (kind : Kind) : List Case :=
  (Discovery.cases w (Discovery.corpusPath settings kind) kind).toOption.getD []

theorem groups_eq {kinds : List Kind} {groups : List (Kind × List Case)}
    (h : List.Forall₂ (Lists w settings) kinds groups) :
    groups = kinds.map fun kind => (kind, caseList w settings kind) := by
  induction h with
  | nil => rfl
  | @cons kind group kinds groups hlists _ ih =>
    obtain ⟨rfl, hcases⟩ := hlists
    rw [List.map_cons, ← ih, caseList, hcases]
    rfl

theorem kind_of_mem_caseList {kind : Kind} {c : Case} (h : c ∈ caseList w settings kind) :
    c.kind = kind := by
  unfold caseList at h
  cases hcases : Discovery.cases w (Discovery.corpusPath settings kind) kind with
  | error e =>
    rw [hcases] at h
    cases h
  | ok cs =>
    rw [hcases] at h
    exact Discovery.kind_of_mem_cases hcases h

end selection

/-- The one warning there is comes once for each mention of its target. -/
theorem warnings_eq_replicate (targets : List Target) : warnings targets =
    String.join (List.replicate (targets.count .aarch64) (warning .aarch64)) := by
  have hwarned (t : Target) : (t == .aarch64 && !t.isHostNative) = (t == .aarch64) := by
    cases t <;> decide +kernel
  simp only [warnings, hwarned, List.filter_beq, List.map_replicate]

/-- A world with one case of each kind, the answer that the second one should give, and all that a
run over both corpora needs. -/
def stockedWorld : World where
  files := List.foldr
    (fun (entry : String × Entry) t => t.insert (pieces slash (Text.utf8 entry.1)) entry.2)
    FileTree.empty [
      ("clang", .file [] false), ("moon", .file [] false), ("real_tests", .directory),
      ("real_tests/C", .directory), ("real_tests/C/a.c", .file [] false),
      ("real_tests/MiniMoonBit", .directory), ("real_tests/MiniMoonBit/b.mbt", .file [] false),
      ("real_tests/MiniMoonBitAns", .directory),
      ("real_tests/MiniMoonBitAns/b.ans", .file (Text.utf8 "b") false),
      ("real_tests/cruntime.c", .file [] false), ("real_tests/mbtruntime.c", .file [] false),
      ("riscv64-unknown-elf-gcc", .file [] false), ("spike", .file [] false)]
  here := []
  searchPath := some [slash]
  clock := 0
  processors := 1
  launched := []

end Session

end Crosscheck
