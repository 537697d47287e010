import Crosscheck.Proofs.Exit

/-!
# What the metrics have recorded

An executed case is taken into the metrics by two recordings: its counter is raised and its duration
is kept. Recordings under one key add up and those under other keys leave it alone, so it makes no
difference how those of several workers get mixed. What is found under the keys of a kind and a
target then agrees with the counts of the suites of that kind on that target.
-/

namespace Crosscheck

namespace Keyed

variable {β : Type}

theorem find?_cons (k : String) (b : β) (rest : Keyed β) (key : String) :
    find? ((k, b) :: rest) key = if key = k then some b else find? rest key := by
  by_cases h : key = k
  · rw [if_pos h, find?, List.lookup_cons, beq_iff_eq.2 h]
  · rw [if_neg h, find?, List.lookup_cons, beq_eq_false_iff_ne.2 h]
    rfl

theorem find?_update (key : String) (change : Option β → β) (xs : Keyed β) (key' : String) :
    find? (update key change xs) key' =
      if key' = key then some (change (find? xs key)) else find? xs key' := by
  induction xs with
  | nil => exact find?_cons key (change none) [] key'
  | cons entry xs ih =>
    obtain ⟨k, b⟩ := entry
    by_cases hk : k = key
    · rw [update, if_pos hk, find?_cons, find?_cons, find?_cons, hk, if_pos rfl]
      by_cases hkey : key' = key
      · rw [if_pos hkey, if_pos hkey]
      · rw [if_neg hkey, if_neg hkey, if_neg hkey]
    · rw [update, if_neg hk, find?_cons, find?_cons, find?_cons, ih, if_neg (Ne.symm hk)]
      by_cases hkey : key' = key
      · rw [if_pos hkey, if_neg (hkey ▸ Ne.symm hk), if_pos hkey]
      · rw [if_neg hkey, if_neg hkey]

end Keyed

namespace Metrics

section keys

/-- What the key of a counter begins with. -/
def casesStem (kind : Kind) (target : Target) : List Char :=
  ("asmdiff_cases_total\x7bkind=" ++ kind.extension ++ ",arch=" ++ target.token ++
    ",outcome=").toList

theorem toList_casesKey (kind : Kind) (target : Target) (label : String) :
    (casesKey kind target label).toList = casesStem kind target ++ (label.toList ++ ['\x7d']) := by
  cases kind <;> cases target <;> simp [casesKey, metricKey, casesStem]

theorem eq_of_casesStem_begins {kind kind' : Kind} {target target' : Target}
    (h : casesStem kind target <+: casesStem kind' target') : kind = kind' ∧ target = target' := by
  have hall : ∀ k ∈ Kind.all, ∀ k' ∈ Kind.all, ∀ t ∈ Target.all, ∀ t' ∈ Target.all,
      (casesStem k t).isPrefixOf (casesStem k' t') = true → k = k' ∧ t = t' := by
    decide +kernel
  exact hall kind (Kind.mem_all _) kind' (Kind.mem_all _) target (Target.mem_all _) target'
    (Target.mem_all _) (List.isPrefixOf_iff_prefix.2 h)

theorem casesKey_inj {kind kind' : Kind} {target target' : Target} {label label' : String} :
    casesKey kind target label = casesKey kind' target' label' ↔
      kind = kind' ∧ target = target' ∧ label = label' := by
  constructor
  · intro h
    have hchars := congrArg String.toList h
    rw [toList_casesKey, toList_casesKey] at hchars
    -- one of the stems begins the other, since both begin the same key
    have hplace : kind = kind' ∧ target = target' := by
      have hstem := List.prefix_append (casesStem kind target) (label.toList ++ ['\x7d'])
      have hstem' := List.prefix_append (casesStem kind' target') (label'.toList ++ ['\x7d'])
      rw [hchars] at hstem
      rcases List.prefix_or_prefix_of_prefix hstem hstem' with hprefix | hprefix
      · exact eq_of_casesStem_begins hprefix
      · exact (eq_of_casesStem_begins hprefix).imp Eq.symm Eq.symm
    obtain ⟨rfl, rfl⟩ := hplace
    have hlabel := List.append_cancel_right (List.append_cancel_left hchars)
    exact ⟨rfl, rfl, String.toList_inj.1 hlabel⟩
  · rintro ⟨rfl, rfl, rfl⟩
    rfl

theorem durationKey_inj {kind kind' : Kind} {target target' : Target} :
    durationKey kind target = durationKey kind' target' ↔ kind = kind' ∧ target = target' := by
  cases kind <;> cases kind' <;> cases target <;> cases target' <;> decide +kernel

end keys

section recordings

/-- One change of the metrics. Those of several workers come one after the other. -/
inductive Recording where
  | increment (key : String) (amount : ℕ)
  | sample (key : String) (value : Double)

def take (m : Metrics) : Recording → Metrics
  | .increment key amount => m.increment key amount
  | .sample key value => m.sample key value

def takeAll (m : Metrics) (rs : List Recording) : Metrics := rs.foldl take m

namespace Recording

/-- What a recording adds to the counter under a key. -/
def amount? (key : String) : Recording → Option ℕ
  | increment key' amount => if key = key' then some amount else none
  | sample .. => none

/-- What a recording adds to the histogram under a key. -/
def value? (key : String) : Recording → Option Double
  | increment .. => none
  | sample key' value => if key = key' then some value else none

end Recording

theorem counter?_take (m : Metrics) (r : Recording) (key : String) : (m.take r).counter? key =
    ((r.amount? key).map fun n => (m.counter? key).getD 0 + n).or (m.counter? key) := by
  cases r with
  | increment key' amount =>
    rw [take, increment, counter?, Keyed.find?_update, Recording.amount?]
    by_cases h : key = key'
    · rw [if_pos h, if_pos h, h]
      rfl
    · rw [if_neg h, if_neg h]
      rfl
  | sample key' value => rfl

theorem histogram?_take (m : Metrics) (r : Recording) (key : String) : (m.take r).histogram? key =
    ((r.value? key).map fun v => (m.histogram? key).getD [] ++ [v]).or (m.histogram? key) := by
  cases r with
  | increment key' amount => rfl
  | sample key' value =>
    rw [take, sample, histogram?, Keyed.find?_update, Recording.value?]
    by_cases h : key = key'
    · rw [if_pos h, if_pos h, h]
      rfl
    · rw [if_neg h, if_neg h]
      rfl

variable (rs : List Recording) (key : String)

theorem counter?_takeAll (m : Metrics) : (m.takeAll rs).counter? key =
    if rs.filterMap (Recording.amount? key) = [] then m.counter? key
    else some ((m.counter? key).getD 0 + (rs.filterMap (Recording.amount? key)).sum) := by
  induction rs generalizing m with
  | nil => rfl
  | cons r rs ih =>
    rw [takeAll, List.foldl_cons, ← takeAll, ih, counter?_take]
    cases hamount : r.amount? key with
    | none => rw [List.filterMap_cons_none hamount, Option.map_none, Option.none_or]
    | some n =>
      rw [List.filterMap_cons_some hamount, Option.map_some, Option.some_or,
        if_neg (List.cons_ne_nil _ _), List.sum_cons, Option.getD_some, ← Nat.add_assoc]
      split
      · next hnone => rw [hnone, List.sum_nil, Nat.add_zero]
      · rfl

theorem histogram?_takeAll (m : Metrics) : (m.takeAll rs).histogram? key =
    if rs.filterMap (Recording.value? key) = [] then m.histogram? key
    else some ((m.histogram? key).getD [] ++ rs.filterMap (Recording.value? key)) := by
  induction rs generalizing m with
  | nil => rfl
  | cons r rs ih =>
    rw [takeAll, List.foldl_cons, ← takeAll, ih, histogram?_take]
    cases hvalue : r.value? key with
    | none => rw [List.filterMap_cons_none hvalue, Option.map_none, Option.none_or]
    | some v =>
      rw [List.filterMap_cons_some hvalue, Option.map_some, Option.some_or,
        if_neg (List.cons_ne_nil _ _), Option.getD_some, List.append_assoc]
      split
      · next hnone => rw [hnone]
      · rfl

end recordings

end Metrics

namespace Trial.Result

open Metrics

def casesKey (r : Trial.Result) : String :=
  Metrics.casesKey r.test.kind r.target r.outcome.metricLabel

def durationKey (r : Trial.Result) : String := Metrics.durationKey r.test.kind r.target

/-- The recordings of an executed case. -/
def recordings (r : Trial.Result) : List Recording :=
  [.increment r.casesKey 1, .sample r.durationKey r.elapsed.toDouble]

theorem amounts_recordings (rs : List Trial.Result) (key : String) :
    (rs.flatMap recordings).filterMap (Recording.amount? key) =
      List.replicate (rs.countP fun r => r.casesKey = key) 1 := by
  induction rs with
  | nil => rfl
  | cons r rs ih =>
    have hduration : Recording.amount? key (.sample r.durationKey r.elapsed.toDouble) = none := rfl
    rw [List.flatMap_cons, List.filterMap_append, ih, recordings, List.countP_cons]
    by_cases hkey : r.casesKey = key
    · have hcase : Recording.amount? key (.increment r.casesKey 1) = some 1 := if_pos hkey.symm
      rw [List.filterMap_cons_some hcase, List.filterMap_cons_none hduration,
        if_pos (decide_eq_true hkey), List.replicate_succ]
      rfl
    · have hcase : Recording.amount? key (.increment r.casesKey 1) = none := if_neg (Ne.symm hkey)
      rw [List.filterMap_cons_none hcase, List.filterMap_cons_none hduration,
        if_neg (by simpa using hkey)]
      rfl

theorem length_values_recordings (rs : List Trial.Result) (key : String) :
    ((rs.flatMap recordings).filterMap (Recording.value? key)).length =
      rs.countP fun r => r.durationKey = key := by
  induction rs with
  | nil => rfl
  | cons r rs ih =>
    have hcase : Recording.value? key (.increment r.casesKey 1) = none := rfl
    rw [List.flatMap_cons, List.filterMap_append, List.length_append, ih, recordings,
      List.filterMap_cons_none hcase, List.countP_cons, Nat.add_comm]
    by_cases hkey : r.durationKey = key
    · have hduration : Recording.value? key (.sample r.durationKey r.elapsed.toDouble) =
          some r.elapsed.toDouble := if_pos hkey.symm
      rw [List.filterMap_cons_some hduration, if_pos (decide_eq_true hkey)]
      rfl
    · have hduration : Recording.value? key (.sample r.durationKey r.elapsed.toDouble) = none :=
        if_neg (Ne.symm hkey)
      rw [List.filterMap_cons_none hduration, if_neg (by simpa using hkey)]
      rfl

end Trial.Result

namespace Metrics

open Trial

/-- A number as it stands in the metrics, where nothing stands for zero. -/
def positive? (n : ℕ) : Option ℕ := if n = 0 then none else some n

theorem getD_positive? (n : ℕ) : (positive? n).getD 0 = n := by
  unfold positive?
  split
  · next h => rw [h, Option.getD_none]
  · rfl

/-- Metrics that have taken in the recordings of some results, in whatever order they came. -/
def HasRecorded (m : Metrics) (results : List Result) : Prop :=
  ∃ rs : List Recording, rs.Perm (results.flatMap Result.recordings) ∧ m = empty.takeAll rs

theorem hasRecorded_recordResults (results : List Result) :
    (empty.recordResults results).HasRecorded results := by
  have htaken (m : Metrics) :
      m.recordResults results = m.takeAll (results.flatMap Result.recordings) := by
    induction results generalizing m with
    | nil => rfl
    | cons r results ih =>
      rw [List.flatMap_cons, takeAll, List.foldl_append, ← takeAll]
      exact ih _
  exact ⟨_, .refl _, htaken empty⟩

variable {m : Metrics} {results : List Result}

theorem HasRecorded.counter? (h : m.HasRecorded results) (key : String) :
    m.counter? key = positive? (results.countP fun r => r.casesKey = key) := by
  obtain ⟨rs, hperm, rfl⟩ := h
  have hamounts := hperm.filterMap (Recording.amount? key)
  rw [Result.amounts_recordings, List.perm_replicate] at hamounts
  have hstart : empty.counter? key = none := rfl
  simp only [counter?_takeAll, hamounts, hstart, List.replicate_eq_nil_iff,
    List.sum_replicate_nat, Option.getD_none, Nat.zero_add, Nat.mul_one]
  rfl

theorem HasRecorded.histogram? (h : m.HasRecorded results) (key : String) :
    (m.histogram? key).map List.length =
      positive? (results.countP fun r => r.durationKey = key) := by
  obtain ⟨rs, hperm, rfl⟩ := h
  have hlength := (hperm.filterMap (Recording.value? key)).length_eq
  rw [Result.length_values_recordings] at hlength
  have hstart : empty.histogram? key = none := rfl
  rw [histogram?_takeAll, hstart, ← hlength, positive?]
  simp only [List.length_eq_zero_iff, apply_ite (Option.map List.length), Option.map_none,
    Option.map_some, Option.getD_none, List.nil_append]

end Metrics

/-- A suite of cases of its own kind that came to its end. -/
structure FinishedSuite where
  programs : Behaviour
  turns : List Turn
  settings : Settings
  kind : Kind
  target : Target
  cases : List Case
  ledger : Ledger
  world : World
  tally : Tally
  ends : (Suite.run programs turns settings kind target cases ledger world).1.verdict = .ok tally
  own : ∀ c ∈ cases, c.kind = kind

namespace FinishedSuite

variable (s : FinishedSuite)

def run : SuiteRun :=
  (Suite.run s.programs s.turns s.settings s.kind s.target s.cases s.ledger s.world).1

def IsOf (kind : Kind) (target : Target) : Prop := s.kind = kind ∧ s.target = target

instance (kind : Kind) (target : Target) : Decidable (s.IsOf kind target) :=
  inferInstanceAs (Decidable (_ ∧ _))

theorem exists_accounted :
    ∃ results, Suite.Accounted s.target s.cases s.ledger s.run s.tally results :=
  Session.accounted_of_run (Prod.eta _).symm s.ends

theorem place_of_mem {r : Trial.Result} (h : r ∈ s.run.ended) :
    r.test.kind = s.kind ∧ r.target = s.target := by
  obtain ⟨results, haccounted⟩ := s.exists_accounted
  have hmem := haccounted.ended.mem_iff.1 h
  refine ⟨s.own r.test ?_, haccounted.targets r hmem⟩
  rw [← haccounted.tests]
  exact List.mem_map_of_mem hmem

theorem countP_isPass : s.run.ended.countP (fun r => r.outcome.isPass) = s.tally.passed := by
  obtain ⟨results, haccounted⟩ := s.exists_accounted
  rw [haccounted.passed, haccounted.ended.countP_eq, List.countP_eq_length_filter]

theorem countP_isSkip : s.run.ended.countP (fun r => r.outcome.isSkip) = s.tally.skipped := by
  obtain ⟨results, haccounted⟩ := s.exists_accounted
  rw [haccounted.skipped, haccounted.ended.countP_eq, List.countP_eq_length_filter]

theorem countP_isFailure :
    s.run.ended.countP (fun r => r.outcome.isFailure) = s.tally.failedCount := by
  obtain ⟨results, haccounted⟩ := s.exists_accounted
  rw [Tally.failedCount, haccounted.failed, haccounted.ended.countP_eq, List.length_map,
    List.countP_eq_length_filter]

theorem length_ended : s.run.ended.length = s.cases.length := by
  obtain ⟨results, haccounted⟩ := s.exists_accounted
  rw [haccounted.ended.length_eq, ← haccounted.tests, List.length_map]

/-- All that was executed in some suites, suite by suite. -/
def allEnded (suites : List FinishedSuite) : List Trial.Result :=
  suites.flatMap fun s => s.run.ended

/-- One count of the suites of a kind on a target together. -/
def total (suites : List FinishedSuite) (kind : Kind) (target : Target)
    (count : FinishedSuite → ℕ) : ℕ :=
  ((suites.filter fun s => s.IsOf kind target).map count).sum

/-- What was executed of a kind on a target was executed in the suites of that kind on that
target, so it is counted as they count. -/
theorem countP_allEnded (suites : List FinishedSuite) (kind : Kind) (target : Target)
    {keep : Trial.Result → Bool} {count : FinishedSuite → ℕ}
    (hcount : ∀ s : FinishedSuite, s.run.ended.countP keep = count s) :
    (allEnded suites).countP
        (fun r => decide (r.test.kind = kind ∧ r.target = target) && keep r) =
      total suites kind target count := by
  induction suites with
  | nil => rfl
  | cons s suites ih =>
    rw [allEnded, List.flatMap_cons, List.countP_append, ← allEnded, ih, total, total,
      List.filter_cons]
    by_cases hs : s.IsOf kind target
    · have hkept : s.run.ended.countP (fun r =>
          decide (r.test.kind = kind ∧ r.target = target) && keep r) = count s := by
        rw [← hcount]
        refine List.countP_congr fun r hr => ?_
        obtain ⟨hkind, htarget⟩ := s.place_of_mem hr
        simp [hkind, htarget, hs.1, hs.2]
      rw [hkept, if_pos (decide_eq_true hs), List.map_cons, List.sum_cons]
    · have hnone : s.run.ended.countP (fun r =>
          decide (r.test.kind = kind ∧ r.target = target) && keep r) = 0 := by
        refine List.countP_eq_zero.2 fun r hr hkept => ?_
        obtain ⟨hkind, htarget⟩ := s.place_of_mem hr
        obtain ⟨hkind', htarget'⟩ := of_decide_eq_true (Bool.and_eq_true_iff.1 hkept).1
        exact hs ⟨hkind.symm.trans hkind', htarget.symm.trans htarget'⟩
      rw [hnone, if_neg (by simpa using hs), Nat.zero_add]

end FinishedSuite

namespace Outcome

/-- The labels of failures. -/
def failureLabels : List String := "not_found" :: Stage.all.map Stage.token

theorem metricLabel_eq_pass_iff (o : Outcome) : o.metricLabel = "pass" ↔ o.isPass = true := by
  cases o <;> simp [metricLabel, isPass, stage?, Stage.token]

theorem metricLabel_eq_skip_iff (o : Outcome) : o.metricLabel = "skip" ↔ o.isSkip = true := by
  cases o <;> simp [metricLabel, isSkip, stage?, Stage.token]

theorem metricLabel_mem (o : Outcome) : o.metricLabel ∈ "pass" :: "skip" :: failureLabels := by
  cases o <;> simp [metricLabel, stage?, failureLabels, Stage.all]

/-- A failure has one of the labels of failures, and nothing else has. -/
theorem sum_failureLabels (o : Outcome) :
    (failureLabels.map fun label => if o.metricLabel = label then 1 else 0).sum =
      if o.isFailure = true then 1 else 0 := by
  cases o <;>
    simp [metricLabel, stage?, failureLabels, Stage.all, Stage.token, isFailure, isPass, isSkip]

end Outcome

theorem sum_countP_failureLabels (keep : Trial.Result → Bool) (results : List Trial.Result) :
    (Outcome.failureLabels.map fun label =>
      results.countP fun r => keep r && decide (r.outcome.metricLabel = label)).sum =
      results.countP fun r => keep r && r.outcome.isFailure := by
  induction results with
  | nil => simp
  | cons r results ih =>
    simp only [List.countP_cons, List.sum_map_add, ih]
    congr 1
    cases hkeep : keep r with
    | false => simp
    | true => simpa using r.outcome.sum_failureLabels

namespace Metrics

open Trial

/-- What the metrics tell of a kind on a target is what the suites of that kind on that target have
counted. What has not occurred has no counter. -/
structure Agree (m : Metrics) (suites : List FinishedSuite) (kind : Kind) (target : Target) :
    Prop where
  passed : m.counter? (casesKey kind target "pass") =
    positive? (FinishedSuite.total suites kind target fun s => s.tally.passed)
  skipped : m.counter? (casesKey kind target "skip") =
    positive? (FinishedSuite.total suites kind target fun s => s.tally.skipped)
  failed : (Outcome.failureLabels.map fun label =>
      (m.counter? (casesKey kind target label)).getD 0).sum =
    FinishedSuite.total suites kind target fun s => s.tally.failedCount
  others : ∀ label, label ∉ "pass" :: "skip" :: Outcome.failureLabels →
    m.counter? (casesKey kind target label) = none
  samples : (m.histogram? (durationKey kind target)).map List.length =
    positive? (FinishedSuite.total suites kind target fun s => s.cases.length)

section agree

variable {m : Metrics} {suites : List FinishedSuite}

theorem HasRecorded.counter?_casesKey {results : List Result} (h : m.HasRecorded results)
    (kind : Kind) (target : Target) (label : String) :
    m.counter? (casesKey kind target label) = positive? (results.countP fun r =>
      decide (r.test.kind = kind ∧ r.target = target) &&
        decide (r.outcome.metricLabel = label)) := by
  rw [h.counter?]
  refine congrArg positive? (List.countP_congr fun r _ => ?_)
  simp [Result.casesKey, casesKey_inj, and_assoc]

theorem agree_allEnded (h : m.HasRecorded (FinishedSuite.allEnded suites)) (kind : Kind)
    (target : Target) : m.Agree suites kind target where
  passed := by
    rw [h.counter?_casesKey, ← FinishedSuite.countP_allEnded suites kind target
      FinishedSuite.countP_isPass]
    simp only [Outcome.metricLabel_eq_pass_iff, Bool.decide_eq_true]
  skipped := by
    rw [h.counter?_casesKey, ← FinishedSuite.countP_allEnded suites kind target
      FinishedSuite.countP_isSkip]
    simp only [Outcome.metricLabel_eq_skip_iff, Bool.decide_eq_true]
  failed := by
    simp only [h.counter?_casesKey, getD_positive?]
    rw [sum_countP_failureLabels, FinishedSuite.countP_allEnded suites kind target
      FinishedSuite.countP_isFailure]
  others label hlabel := by
    have hnone : (FinishedSuite.allEnded suites).countP (fun r =>
        decide (r.test.kind = kind ∧ r.target = target) &&
          decide (r.outcome.metricLabel = label)) = 0 := by
      refine List.countP_eq_zero.2 fun r _ hr => hlabel ?_
      obtain rfl := of_decide_eq_true (Bool.and_eq_true_iff.1 hr).2
      exact r.outcome.metricLabel_mem
    rw [h.counter?_casesKey, hnone]
    rfl
  samples := by
    have hall (s : FinishedSuite) :
        s.run.ended.countP (fun _ => true) = s.cases.length := by
      rw [List.countP_true, s.length_ended]
    rw [h.histogram?, ← FinishedSuite.countP_allEnded suites kind target hall]
    refine congrArg positive? (List.countP_congr fun r _ => ?_)
    simp [Result.durationKey, durationKey_inj]

theorem positive?_countP_eq_none_iff {results : List Result} {keyOf : Result → String}
    {key : String} : positive? (results.countP fun r => keyOf r = key) = none ↔
      ∀ r ∈ results, keyOf r ≠ key := by
  simp [positive?]

/-- After any suites that came to their end, the metrics agree with the suites, and nothing is
counted or timed that did not occur. The metrics may have taken in the cases one after the other, or
their recordings in any other order. -/
theorem suites_recorded (suites : List FinishedSuite) :
    (empty.recordResults (FinishedSuite.allEnded suites)).HasRecorded
      (FinishedSuite.allEnded suites) ∧
    ∀ m : Metrics, m.HasRecorded (FinishedSuite.allEnded suites) →
      (∀ kind target, m.Agree suites kind target) ∧
      (∀ key, m.counter? key = none ↔ ∀ r ∈ FinishedSuite.allEnded suites, r.casesKey ≠ key) ∧
      ∀ key, m.histogram? key = none ↔
        ∀ r ∈ FinishedSuite.allEnded suites, r.durationKey ≠ key := by
  refine ⟨hasRecorded_recordResults _, fun m h => ⟨agree_allEnded h, fun key => ?_, fun key => ?_⟩⟩
  · rw [h.counter?, positive?_countP_eq_none_iff]
  · rw [← positive?_countP_eq_none_iff, ← h.histogram?, Option.map_eq_none_iff]

end agree

end Metrics

/-- Two cases that two workers share. -/
def sharedSuite : FinishedSuite where
  programs := scribe
  turns := [⟨1, 0⟩, ⟨0, 0⟩, ⟨1, 0⟩]
  settings := Suite.sampleSettings
  kind := .c
  target := .riscv64
  cases := Suite.sampleCases
  ledger := .empty
  world := Suite.sampleWorld
  tally := ⟨.c, .riscv64, 2, 0, []⟩
  ends := by decide +kernel
  own := by simp [Suite.sampleCases, Case.ofPath]

theorem Metrics.suites_recorded_shared :
    let suites := [sharedSuite, sharedSuite]
    let rs := (FinishedSuite.allEnded suites).flatMap Trial.Result.recordings
    (empty.takeAll rs.reverse).HasRecorded (FinishedSuite.allEnded suites) ∧
      (empty.takeAll rs.reverse).Agree suites .c .riscv64 ∧
      FinishedSuite.total suites .c .riscv64 (fun s => s.tally.passed) = 4 := by
  intro suites rs
  have hrecorded : (empty.takeAll rs.reverse).HasRecorded (FinishedSuite.allEnded suites) :=
    ⟨rs.reverse, rs.reverse_perm, rfl⟩
  exact ⟨hrecorded, ((suites_recorded suites).2 _ hrecorded).1 .c .riscv64, rfl⟩

end Crosscheck
