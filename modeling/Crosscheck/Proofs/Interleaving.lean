import Crosscheck.Proofs.Alike
import Crosscheck.Proofs.Turns

/-!
# Jobs side by side

Jobs are separate if each has its own view of the world that requests of the others leave as it is,
and that settles what it is answered. Then it makes no difference in which turns the workers take
them on: at any time every job is heading for what it would have come to alone, and a job that ended
has come to that.
-/

namespace Crosscheck

variable {ε α β : Type}

/-- What separates some jobs: the worlds that may come up, what each job sees of a world, and what
it may ask. -/
structure Separation (programs : Behaviour) (count : Nat) where
  sane : World → Prop
  view : Nat → World → World → Prop
  asks : Nat → Request → Prop
  equivalence : ∀ i, Equivalence (view i)
  sane_answer : ∀ {i r w}, i < count → asks i r → sane w → sane (w.answer programs r).2
  /-- A job with the same view is answered the same. -/
  own : ∀ {i r w w'}, i < count → asks i r → sane w → sane w' → view i w w' →
    r.Same (w.answer programs r).1 (w'.answer programs r).1 ∧
      view i (w.answer programs r).2 (w'.answer programs r).2
  /-- No job sees what another one asks. -/
  foreign : ∀ {i j r w}, i < count → j < count → i ≠ j → asks j r → sane w →
    view i w (w.answer programs r).2

/-- What is kept of a result. -/
def told (forget : α → β) (x : Except ε α) : Option β := x.toOption.map forget

namespace Separation

variable {programs : Behaviour} {jobs : List (Plan (Except ε α))}
  (sep : Separation programs jobs.length) (start : World) (forget : α → β)

/-- What is left of a job comes to what the whole job comes to alone. -/
structure Heading (i : Nat) (origin p : Plan (Except ε α)) (w : World) : Prop where
  alike : p.Alike (sep.asks i) (fun x y => told forget x = told forget y) p
  value : told forget (p.run programs w).1 = told forget (origin.run programs start).1
  view : sep.view i (origin.run programs start).2 (p.run programs w).2

/-- A job that ended has come to what it comes to alone, and its view is still what it left. -/
structure Reached (i : Nat) (origin : Plan (Except ε α)) (x : Except ε α) (w : World) : Prop where
  value : told forget x = told forget (origin.run programs start).1
  view : sep.view i (origin.run programs start).2 w

/-- Work that goes as it should: every job is open or ended, and none was disturbed. -/
structure Underway (w : World) (opened : List (Job ε α)) (ended : List (Nat × Except ε α)) :
    Prop where
  sane : sep.sane w
  numbers : (opened.map Job.number ++ ended.map Prod.fst).Perm (List.range jobs.length)
  heading : ∀ job ∈ opened, ∃ origin, jobs[job.number]? = some origin ∧
    sep.Heading start forget job.number origin job.plan w
  reached : ∀ entry ∈ ended, ∃ origin, jobs[entry.1]? = some origin ∧
    sep.Reached start forget entry.1 origin entry.2 w

section heading

variable {sep start forget} {i j : Nat} {origin p : Plan (Except ε α)} {x : Except ε α} {w : World}
  {r : Request}

theorem Heading.answer {next : r.Answer → Plan (Except ε α)}
    (h : sep.Heading start forget i origin (.ask r next) w) :
    sep.Heading start forget i origin (next (w.answer programs r).1) (w.answer programs r).2 :=
  ⟨h.alike.next (Request.Same.refl r _), h.value, h.view⟩

theorem Heading.reached (h : sep.Heading start forget i origin (.done x) w) :
    sep.Reached start forget i origin x w :=
  ⟨h.value, h.view⟩

theorem Heading.foreign (h : sep.Heading start forget i origin p w) (hi : i < jobs.length)
    (hj : j < jobs.length) (hij : i ≠ j) (hr : sep.asks j r) (hw : sep.sane w) :
    sep.Heading start forget i origin p (w.answer programs r).2 := by
  obtain ⟨hvalue, hview⟩ := h.alike.run (fun _ _ => sep.sane_answer hi)
    (fun _ _ _ => sep.own hi) hw (sep.sane_answer hj hr hw) (sep.foreign hi hj hij hr hw)
  exact ⟨h.alike, hvalue.symm.trans h.value, (sep.equivalence i).trans h.view hview⟩

theorem Reached.foreign (h : sep.Reached start forget i origin x w) (hi : i < jobs.length)
    (hj : j < jobs.length) (hij : i ≠ j) (hr : sep.asks j r) (hw : sep.sane w) :
    sep.Reached start forget i origin x (w.answer programs r).2 :=
  ⟨h.value, (sep.equivalence i).trans h.view (sep.foreign hi hj hij hr hw)⟩

end heading

section underway

variable {sep start forget} {w : World} {opened opened' rest : List (Job ε α)}
  {ended : List (Nat × Except ε α)}

theorem lt_of_getElem_eq_some {i : Nat} {origin : Plan (Except ε α)} (h : jobs[i]? = some origin) :
    i < jobs.length := (List.getElem?_eq_some_iff.1 h).1

theorem Underway.perm (h : sep.Underway start forget w opened ended)
    (hperm : opened.Perm opened') : sep.Underway start forget w opened' ended :=
  ⟨h.sane, (((hperm.map Job.number).append_right _).symm.trans h.numbers),
    fun job hjob => h.heading job (hperm.mem_iff.2 hjob), h.reached⟩

theorem Underway.nodup (h : sep.Underway start forget w opened ended) :
    (opened.map Job.number ++ ended.map Prod.fst).Nodup :=
  h.numbers.nodup_iff.2 List.nodup_range

/-- A request of one job leaves the work as it should be. -/
theorem Underway.answer {i : Nat} {r : Request} {next : r.Answer → Plan (Except ε α)}
    (h : sep.Underway start forget w (⟨i, .ask r next⟩ :: rest) ended) :
    sep.Underway start forget (w.answer programs r).2
      (⟨i, next (w.answer programs r).1⟩ :: rest) ended := by
  obtain ⟨origin, horigin, hheading⟩ := h.heading _ List.mem_cons_self
  have hi := lt_of_getElem_eq_some horigin
  have hr : sep.asks i r := hheading.alike.asks_of_ask
  have hfresh : i ∉ rest.map Job.number ++ ended.map Prod.fst := (List.nodup_cons.1 h.nodup).1
  rw [List.mem_append, not_or] at hfresh
  refine ⟨sep.sane_answer hi hr h.sane, h.numbers, ?_, ?_⟩
  · intro job hjob
    rcases List.mem_cons.1 hjob with rfl | hrest
    · exact ⟨origin, horigin, hheading.answer⟩
    · obtain ⟨origin', horigin', hheading'⟩ := h.heading job (List.mem_cons_of_mem _ hrest)
      have hne : job.number ≠ i := fun heq => hfresh.1 (heq ▸ List.mem_map_of_mem hrest)
      exact ⟨origin', horigin', hheading'.foreign (lt_of_getElem_eq_some horigin') hi hne hr h.sane⟩
  · intro entry hentry
    obtain ⟨origin', horigin', hreached⟩ := h.reached entry hentry
    have hne : entry.1 ≠ i := fun heq => hfresh.2 (heq ▸ List.mem_map_of_mem hentry)
    exact ⟨origin', horigin', hreached.foreign (lt_of_getElem_eq_some horigin') hi hne hr h.sane⟩

theorem Underway.done {i : Nat} {x : Except ε α}
    (h : sep.Underway start forget w (⟨i, .done x⟩ :: rest) ended) :
    sep.Underway start forget w rest (ended ++ [(i, x)]) := by
  obtain ⟨origin, horigin, hheading⟩ := h.heading _ List.mem_cons_self
  refine ⟨h.sane, ?_, fun job hjob => h.heading job (List.mem_cons_of_mem _ hjob), ?_⟩
  · refine List.Perm.trans ?_ h.numbers
    rw [List.map_append, ← List.append_assoc]
    exact List.perm_append_singleton i _
  · intro entry hentry
    rcases List.mem_append.1 hentry with hentry | hentry
    · exact h.reached entry hentry
    · rw [List.mem_singleton.1 hentry]
      exact ⟨origin, horigin, hheading.reached⟩

end underway

section work

variable {sep start forget}

end work

/-- What work comes to: what all jobs come to alone, with the views that they leave alone, or a
failure if one of them fails alone. -/
def Settled (out : Work ε α × World) : Prop :=
  match out.1.verdict with
  | .ok results =>
    jobs.map (fun job => told forget (job.run programs start).1) =
        results.map (fun a => some (forget a)) ∧
      sep.sane out.2 ∧
      ∀ i job, jobs[i]? = some job → sep.view i (job.run programs start).2 out.2
  | .error _ => ∃ job ∈ jobs, told forget (job.run programs start).1 = none

section settled

variable {sep start forget} {w : World} {ended : List (Nat × Except ε α)}

theorem Underway.settled (h : sep.Underway start forget w [] ended) {results : List α}
    (hlength : results.length = jobs.length)
    (hresults : ∀ i a, results[i]? = some a → (i, .ok a) ∈ ended) (done : List α) :
    sep.Settled start forget (⟨done, .ok results⟩, w) := by
  refine ⟨List.ext_getElem? fun i => ?_, h.sane, fun i job hjob => ?_⟩
  · rw [List.getElem?_map, List.getElem?_map]
    cases hresult : results[i]? with
    | none =>
      have hnone : jobs[i]? = none := by
        rw [List.getElem?_eq_none_iff, ← hlength]
        exact List.getElem?_eq_none_iff.1 hresult
      rw [hnone]
      rfl
    | some a =>
      obtain ⟨origin, horigin, hreached⟩ := h.reached _ (hresults i a hresult)
      rw [horigin]
      exact congrArg some hreached.value.symm
  · have hi : i ∈ ended.map Prod.fst :=
      h.numbers.mem_iff.2 (List.mem_range.2 (lt_of_getElem_eq_some hjob))
    obtain ⟨entry, hentry, rfl⟩ := List.mem_map.1 hi
    obtain ⟨origin, horigin, hreached⟩ := h.reached entry hentry
    rw [hjob, Option.some.injEq] at horigin
    exact horigin ▸ hreached.view

section jobs

variable (hstart : sep.sane start)
  (hjobs : ∀ i (job : Plan (Except ε α)), jobs[i]? = some job →
    job.Alike (sep.asks i) (fun x y => told forget x = told forget y) job)
include hstart hjobs

end jobs

section agree

variable {out out' : Work ε α × World}

end agree

end settled

end Separation

end Crosscheck
