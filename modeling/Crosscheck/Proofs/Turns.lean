import Crosscheck.Workers
import Mathlib.Data.List.Perm.Basic

/-!
# Turns of workers

Whatever turns the workers take, every step is of one of three kinds: an open job makes a request,
an open job ends, or the open jobs are put in another order. What lasts through these three holds of
the work at its end, with one worker or with several.
-/

namespace Crosscheck

variable {ε α : Type}

/-- Jobs with their numbers, from some number on. -/
def numbered (k : Nat) (plans : List (Plan (Except ε α))) : List (Job ε α) :=
  (plans.zipIdx k).map fun (plan, number) => ⟨number, plan⟩

theorem number_numbered (plans : List (Plan (Except ε α))) :
    (numbered 0 plans).map Job.number = List.range plans.length := by
  rw [numbered, List.map_map, List.range_eq_range']
  exact List.zipIdx_map_snd 0 plans

theorem getElem_of_mem_numbered {plans : List (Plan (Except ε α))} {job : Job ε α}
    (h : job ∈ numbered 0 plans) : plans[job.number]? = some job.plan := by
  obtain ⟨⟨plan, number⟩, hmem, rfl⟩ := List.mem_map.1 h
  exact List.mk_mem_zipIdx_iff_getElem?.1 hmem

/-- How work stands: in what world, with which jobs open and which ended. -/
abbrev Standing (ε α : Type) := World → List (Job ε α) → List (Nat × Except ε α) → Prop

/-- What no step of a worker disturbs. -/
structure Standing.Lasts (P : Standing ε α) (programs : Behaviour) : Prop where
  perm : ∀ {w opened opened' ended}, P w opened ended → opened.Perm opened' → P w opened' ended
  answer : ∀ {w i r next rest ended}, P w (⟨i, .ask r next⟩ :: rest) ended →
    P (w.answer programs r).2 (⟨i, next (w.answer programs r).1⟩ :: rest) ended
  done : ∀ {w i x rest ended}, P w (⟨i, .done x⟩ :: rest) ended → P w rest (ended ++ [(i, x)])

theorem perm_of_lookup {γ : Type} {k : Nat} {v : γ} {entries : List (Nat × γ)}
    (hnodup : (entries.map Prod.fst).Nodup) (hlookup : entries.lookup k = some v) :
    entries.Perm ((k, v) :: entries.filter fun entry => entry.1 ≠ k) := by
  obtain ⟨front, back, rfl, hfront⟩ := List.lookup_eq_some_iff.1 hlookup
  have hperm : (front ++ (k, v) :: back).Perm ((k, v) :: (front ++ back)) := List.perm_middle
  have hkey : k ∉ (front ++ back).map Prod.fst :=
    (List.nodup_cons.1 ((hperm.map Prod.fst).nodup_iff.1 hnodup)).1
  have hothers : (front ++ back).filter (fun entry => entry.1 ≠ k) = front ++ back := by
    refine List.filter_eq_self.2 fun entry hentry => ?_
    have hne : entry.1 ≠ k := fun heq => hkey (heq ▸ List.mem_map_of_mem hentry)
    simp [hne]
  rw [List.filter_append, List.filter_cons_of_neg (by simp), ← List.filter_append, hothers]
  exact hperm

theorem nodup_others {γ : Type} (k : Nat) {entries : List (Nat × γ)}
    (hnodup : (entries.map Prod.fst).Nodup) :
    (k :: (entries.filter fun entry => entry.1 ≠ k).map Prod.fst).Nodup := by
  refine List.nodup_cons.2 ⟨fun hmem => ?_, hnodup.sublist (List.filter_sublist.map _)⟩
  obtain ⟨entry, hentry, rfl⟩ := List.mem_map.1 hmem
  simp at hentry

theorem mem_of_lookup {γ : Type} {i : Nat} {x : γ} {entries : List (Nat × γ)}
    (h : entries.lookup i = some x) : (i, x) ∈ entries := by
  obtain ⟨front, back, rfl, -⟩ := List.lookup_eq_some_iff.1 h
  simp

theorem exists_lookup {γ : Type} {i : Nat} {entries : List (Nat × γ)}
    (h : i ∈ entries.map Prod.fst) : ∃ x, entries.lookup i = some x := by
  cases hlookup : entries.lookup i with
  | some x => exact ⟨x, rfl⟩
  | none =>
    obtain ⟨entry, hentry, rfl⟩ := List.mem_map.1 h
    have hne := List.lookup_eq_none_iff.1 hlookup entry hentry
    simp at hne

/-- A pool that stands in some way, with no worker at two jobs. -/
structure Pool.Stands (P : Standing ε α) (pool : Pool ε α) : Prop where
  standing : P pool.world (pool.running.map Prod.snd ++ pool.waiting) pool.ended
  workers : (pool.running.map Prod.fst).Nodup

section pool

variable {P : Standing ε α} {programs : Behaviour} {pool : Pool ε α}

theorem Standing.Lasts.run (hP : P.Lasts programs) {w : World} {job : Job ε α}
    {rest : List (Job ε α)} {ended : List (Nat × Except ε α)} (h : P w (job :: rest) ended) :
    P (job.plan.run programs w).2 rest
      (ended ++ [(job.number, (job.plan.run programs w).1)]) := by
  obtain ⟨i, p⟩ := job
  induction p generalizing w with
  | done x => exact hP.done h
  | ask r next ih => exact ih _ (hP.answer h)

/-- Whatever turn a worker takes, a pool stands as it did. -/
theorem Pool.Stands.turn (h : pool.Stands P) (hP : P.Lasts programs) (t : Turn) :
    (pool.turn programs t).Stands P := by
  unfold Pool.turn
  cases hlookup : pool.running.lookup t.worker with
  | some job =>
    -- The order of the open jobs does not count, so the job of this worker may stand first.
    have hperm := (perm_of_lookup h.workers hlookup).map Prod.snd
    have hothers := nodup_others t.worker h.workers
    have hstanding := hP.perm h.standing (hperm.append_right pool.waiting)
    obtain ⟨number, plan⟩ := job
    cases plan with
    | done x => exact ⟨hP.done hstanding, (List.nodup_cons.1 hothers).2⟩
    | ask r next => exact ⟨hP.answer hstanding, hothers⟩
  | none =>
    simp only
    split
    · exact h
    · cases hpick : pool.waiting[t.pick]? with
      | none => exact h
      | some job =>
        obtain ⟨hlt, hjob⟩ := List.getElem?_eq_some_iff.1 hpick
        have hperm := List.getElem_cons_eraseIdx_perm hlt
        rw [hjob] at hperm
        refine ⟨hP.perm h.standing ?_, List.nodup_cons.2 ⟨?_, h.workers⟩⟩
        · exact (hperm.symm.append_left _).trans List.perm_middle
        · intro hmem
          obtain ⟨entry, hentry, hworker⟩ := List.mem_map.1 hmem
          have hne := List.lookup_eq_none_iff.1 hlookup entry hentry
          simp [hworker] at hne

theorem Pool.Stands.turns (h : pool.Stands P) (hP : P.Lasts programs) (turns : List Turn) :
    (turns.foldl (fun pool t => pool.turn programs t) pool).Stands P := by
  induction turns generalizing pool with
  | nil => exact h
  | cons t turns ih => exact ih (h.turn hP t)

theorem Standing.Lasts.complete (hP : P.Lasts programs) {taken waiting : List (Job ε α)}
    (h : P pool.world (taken ++ waiting) pool.ended) :
    let pool' := taken.foldl (fun pool job => pool.complete programs job) pool
    P pool'.world waiting pool'.ended ∧ pool'.waiting = pool.waiting := by
  induction taken generalizing pool with
  | nil => exact ⟨h, rfl⟩
  | cons job taken ih =>
    have hrun : P (pool.complete programs job).world (taken ++ waiting)
        (pool.complete programs job).ended := hP.run h
    exact ih hrun

/-- Nothing is left to do in the end, unless a job has failed. -/
theorem Standing.Lasts.drain (hP : P.Lasts programs) {waiting : List (Job ε α)}
    (h : P pool.world waiting pool.ended) :
    let pool' := Pool.drain programs waiting pool
    P pool'.world pool'.waiting pool'.ended ∧
      (pool'.waiting = [] ∨ pool'.failure?.isSome = true) := by
  induction waiting generalizing pool with
  | nil => exact ⟨h, .inl rfl⟩
  | cons job waiting ih =>
    unfold Pool.drain
    by_cases hfailure : pool.failure?.isSome = true
    · rw [if_pos hfailure]
      exact ⟨h, .inr hfailure⟩
    · rw [if_neg hfailure]
      have hrun : P (pool.complete programs job).world waiting
          (pool.complete programs job).ended := hP.run h
      exact ih hrun

theorem Pool.Stands.finish (h : pool.Stands P) (hP : P.Lasts programs) :
    P (pool.finish programs).world (pool.finish programs).waiting (pool.finish programs).ended ∧
      ((pool.finish programs).waiting = [] ∨ (pool.finish programs).failure?.isSome = true) := by
  obtain ⟨hstanding, hwaiting⟩ := hP.complete h.standing
  exact hP.drain (hwaiting ▸ hstanding)

variable {jobs : List (Plan (Except ε α))} {w : World}

/-- Several workers end with a pool that stands as the jobs did at the start. -/
theorem Standing.Lasts.workTogether (hP : P.Lasts programs) (workers : Nat) (turns : List Turn)
    (h : P w (numbered 0 jobs) []) :
    ∃ pool : Pool ε α,
      Crosscheck.workTogether programs workers turns jobs w =
        (pool.outcome jobs.length, pool.world) ∧
      P pool.world pool.waiting pool.ended ∧
      (pool.waiting = [] ∨ pool.failure?.isSome = true) := by
  have hstart : (Pool.start jobs w).Stands P := ⟨h, List.nodup_nil⟩
  have hturns := hstart.turns hP (turns.filter fun t => decide (t.worker < workers))
  exact ⟨_, rfl, hturns.finish hP⟩

/-- One worker ends all jobs in their order, or some of them and then one that fails. -/
theorem Standing.Lasts.workInOrder (hP : P.Lasts programs) {k : Nat}
    {ended : List (Nat × Except ε α)} (h : P w (numbered k jobs) ended) :
    match (workInOrder programs jobs w).1.verdict with
    | .ok results => P (workInOrder programs jobs w).2 []
        (ended ++ (results.zipIdx k).map fun (a, number) => (number, .ok a))
    | .error e => ∃ opened done i,
        P (workInOrder programs jobs w).2 opened (done ++ [(i, .error e)]) := by
  induction jobs generalizing k w ended with
  | nil => simpa [Crosscheck.workInOrder, numbered] using h
  | cons job jobs ih =>
    have hrun : P (job.run programs w).2 (numbered (k + 1) jobs)
        (ended ++ [(k, (job.run programs w).1)]) := hP.run h
    rw [Crosscheck.workInOrder]
    generalize job.run programs w = ran at hrun ⊢
    obtain ⟨x, w'⟩ := ran
    cases x with
    | error e => exact ⟨_, _, _, hrun⟩
    | ok a =>
      have hrest := ih hrun
      simp only
      cases hverdict : (Crosscheck.workInOrder programs jobs w').1.verdict with
      | error e =>
        rw [hverdict] at hrest
        exact hrest
      | ok results =>
        rw [hverdict] at hrest
        simpa [Except.map] using hrest

end pool

/-- Jobs that all succeeded are listed by their numbers. -/
theorem getElem_inOrder (pool : Pool ε α) {count : Nat}
    (hended : ∀ i, i < count → ∃ a, pool.ended.lookup i = some (.ok a)) :
    (pool.inOrder count).length = count ∧
      ∀ i a, (pool.inOrder count)[i]? = some a → pool.ended.lookup i = some (.ok a) := by
  induction count with
  | zero => simp [Pool.inOrder]
  | succ count ih =>
    obtain ⟨hlength, hget⟩ := ih fun i hi => hended i (by omega)
    obtain ⟨last, hlast⟩ := hended count (by omega)
    have hinOrder : pool.inOrder (count + 1) = pool.inOrder count ++ [last] := by
      simp [Pool.inOrder, List.range_succ, hlast]
    rw [hinOrder]
    refine ⟨by simp [hlength], fun i a ha => ?_⟩
    by_cases hi : i < count
    · rw [List.getElem?_append_left (by omega)] at ha
      exact hget i a ha
    · obtain ⟨hlt, -⟩ := List.getElem?_eq_some_iff.1 ha
      simp only [List.length_append, List.length_singleton] at hlt
      obtain rfl : i = count := by omega
      rw [List.getElem?_append_right (by omega), hlength, Nat.sub_self] at ha
      cases ha
      exact hlast

theorem ok_of_failure_eq_none {pool : Pool ε α} (h : pool.failure? = none)
    {entry : Nat × Except ε α} (hentry : entry ∈ pool.ended) : ∃ a, entry.2 = .ok a := by
  have hnone := List.findSome?_eq_none_iff.1 h entry hentry
  obtain ⟨i, e | a⟩ := entry
  · cases hnone
  · exact ⟨a, rfl⟩

/-- Without a failure, jobs that have all ended are listed by their numbers. -/
theorem inOrder_of_numbers {pool : Pool ε α} {count : Nat} (hfailure : pool.failure? = none)
    (hnumbers : (pool.ended.map Prod.fst).Perm (List.range count)) :
    (pool.inOrder count).length = count ∧
      ∀ i a, (pool.inOrder count)[i]? = some a → (i, .ok a) ∈ pool.ended := by
  have hended : ∀ i, i < count → ∃ a, pool.ended.lookup i = some (.ok a) := by
    intro i hi
    obtain ⟨x, hx⟩ := exists_lookup (hnumbers.mem_iff.2 (List.mem_range.2 hi))
    obtain ⟨a, rfl⟩ : ∃ a, x = .ok a := ok_of_failure_eq_none hfailure (mem_of_lookup hx)
    exact ⟨a, hx⟩
  obtain ⟨hlength, hget⟩ := getElem_inOrder pool hended
  exact ⟨hlength, fun i a ha => mem_of_lookup (hget i a ha)⟩

end Crosscheck
