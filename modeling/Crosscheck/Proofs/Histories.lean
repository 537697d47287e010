import Crosscheck.Proofs.Conversation
import Crosscheck.Proofs.Turns
import Mathlib.Data.List.Nodup

/-!
# Histories of work

A history lists what was asked and answered while jobs were carried out, each request with the
number of the job that made it. Work has a history that the world bears out, in which every job that
ended was carried out once from its beginning to its end, with nothing left out. One worker carries
the jobs out one by one.
-/

namespace Crosscheck

namespace Plan

variable {α β : Type}

/-- What is left of a plan after some requests and their answers. -/
inductive Leaves : Plan α → List Exchange → Plan α → Prop
  | nil {p : Plan α} : Leaves p [] p
  | cons {r : Request} {next : r.Answer → Plan α} {a : r.Answer} {es : List Exchange} {q : Plan α}
      (hrest : Leaves (next a) es q) : Leaves (ask r next) (⟨r, a⟩ :: es) q

theorem Leaves.snoc {p : Plan α} {es : List Exchange} {r : Request} {next : r.Answer → Plan α}
    (h : p.Leaves es (ask r next)) (a : r.Answer) : p.Leaves (es ++ [⟨r, a⟩]) (next a) := by
  generalize hq : ask r next = q at h
  induction h with
  | nil =>
    subst hq
    exact .cons .nil
  | cons _ ih => exact .cons (ih hq)

theorem Leaves.eq_of_done {a : α} {es : List Exchange} {q : Plan α} (h : (done a).Leaves es q) :
    es = [] ∧ q = done a := by
  cases h
  exact ⟨rfl, rfl⟩

theorem Leaves.eq_of_request {r : Request} {a : r.Answer} {es : List Exchange}
    (h : (request r).Leaves es (done a)) : es = [⟨r, a⟩] := by
  cases h with
  | cons hrest =>
    obtain ⟨rfl, hanswer⟩ := hrest.eq_of_done
    cases hanswer
    rfl

theorem Leaves.exists_of_bind {p : Plan α} {f : α → Plan β} {es : List Exchange} {b : β}
    (h : (p >>= f).Leaves es (done b)) :
    ∃ a es₁ es₂, es = es₁ ++ es₂ ∧ p.Leaves es₁ (done a) ∧ (f a).Leaves es₂ (done b) := by
  induction p generalizing es with
  | done a => exact ⟨a, [], es, rfl, .nil, h⟩
  | ask r next ih =>
    cases h with
    | cons hrest =>
      obtain ⟨a, es₁, es₂, rfl, hp, hf⟩ := ih _ hrest
      exact ⟨a, _ :: es₁, es₂, rfl, .cons hp, hf⟩

end Plan

/-- Requests with their answers, each with the number of the job that made it. -/
abbrev History := List (Nat × Exchange)

namespace History

/-- The part of one job. -/
def part (h : History) (i : Nat) : List Exchange :=
  (h.filter fun entry => entry.1 = i).map Prod.snd

theorem part_snoc (h : History) (i : Nat) (e : Exchange) :
    History.part (h ++ [(i, e)]) i = h.part i ++ [e] := by
  simp [part]

theorem part_snoc_ne (h : History) {i j : Nat} (hij : j ≠ i) (e : Exchange) :
    History.part (h ++ [(j, e)]) i = h.part i := by
  simp [part, hij]

/-- The world answered as the history says, and was left as it is at the end. -/
inductive Happens (programs : Behaviour) (start : World) : History → World → Prop
  | nil : Happens programs start [] start
  | snoc {h : History} {w : World} (hbefore : Happens programs start h w) (i : Nat) (r : Request) :
      Happens programs start (h ++ [(i, ⟨r, (w.answer programs r).1⟩)]) (w.answer programs r).2

end History

open History

variable {ε α : Type}

/-- A history that accounts for work: it leaves of every open job what is left to do, and of every
job that ended nothing but the result. -/
structure Recorded (programs : Behaviour) (jobs : List (Plan (Except ε α))) (start : World)
    (h : History) (w : World) (opened : List (Job ε α)) (ended : List (Nat × Except ε α)) :
    Prop where
  happens : h.Happens programs start w
  numbers : (opened.map Job.number ++ ended.map Prod.fst).Perm (List.range jobs.length)
  known : ∀ entry ∈ h, entry.1 < jobs.length
  opened : ∀ job ∈ opened, ∃ origin, jobs[job.number]? = some origin ∧
    origin.Leaves (h.part job.number) job.plan
  ended : ∀ entry ∈ ended, ∃ origin, jobs[entry.1]? = some origin ∧
    origin.Leaves (h.part entry.1) (.done entry.2)

section recorded

variable {programs : Behaviour} {jobs : List (Plan (Except ε α))} {start w : World} {h : History}
  {opened opened' rest : List (Job ε α)} {ended : List (Nat × Except ε α)}

theorem Recorded.perm (hrec : Recorded programs jobs start h w opened ended)
    (hperm : opened.Perm opened') : Recorded programs jobs start h w opened' ended :=
  { hrec with
    numbers := ((hperm.map Job.number).append_right _).symm.trans hrec.numbers
    opened := fun job hjob => hrec.opened job (hperm.mem_iff.2 hjob) }

theorem Recorded.answer {i : Nat} {r : Request} {next : r.Answer → Plan (Except ε α)}
    (hrec : Recorded programs jobs start h w (⟨i, .ask r next⟩ :: rest) ended) :
    Recorded programs jobs start (h ++ [(i, ⟨r, (w.answer programs r).1⟩)])
      (w.answer programs r).2 (⟨i, next (w.answer programs r).1⟩ :: rest) ended := by
  obtain ⟨origin, horigin, hleaves⟩ := hrec.opened _ List.mem_cons_self
  have hnodup := hrec.numbers.nodup_iff.2 List.nodup_range
  have hfresh : i ∉ rest.map Job.number ++ ended.map Prod.fst := (List.nodup_cons.1 hnodup).1
  rw [List.mem_append, not_or] at hfresh
  refine ⟨.snoc hrec.happens i r, hrec.numbers, ?_, ?_, ?_⟩
  · intro entry hentry
    rcases List.mem_append.1 hentry with hentry | hentry
    · exact hrec.known entry hentry
    · rw [List.mem_singleton.1 hentry]
      exact (List.getElem?_eq_some_iff.1 horigin).1
  · intro job hjob
    rcases List.mem_cons.1 hjob with rfl | hrest
    · refine ⟨origin, horigin, ?_⟩
      rw [part_snoc]
      exact hleaves.snoc _
    · have hne : i ≠ job.number := fun heq => hfresh.1 (heq ▸ List.mem_map_of_mem hrest)
      rw [part_snoc_ne h hne]
      exact hrec.opened job (List.mem_cons_of_mem _ hrest)
  · intro entry hentry
    have hne : i ≠ entry.1 := fun heq => hfresh.2 (heq ▸ List.mem_map_of_mem hentry)
    rw [part_snoc_ne h hne]
    exact hrec.ended entry hentry

theorem Recorded.done {i : Nat} {x : Except ε α}
    (hrec : Recorded programs jobs start h w (⟨i, .done x⟩ :: rest) ended) :
    Recorded programs jobs start h w rest (ended ++ [(i, x)]) := by
  refine ⟨hrec.happens, ?_, hrec.known, ?_, ?_⟩
  · refine List.Perm.trans ?_ hrec.numbers
    rw [List.map_append, ← List.append_assoc]
    exact List.perm_append_singleton i _
  · exact fun job hjob => hrec.opened job (List.mem_cons_of_mem _ hjob)
  · intro entry hentry
    rcases List.mem_append.1 hentry with hentry | hentry
    · exact hrec.ended entry hentry
    · rw [List.mem_singleton.1 hentry]
      exact hrec.opened _ List.mem_cons_self

/-- Work always has a history. -/
theorem lasts_recorded (programs : Behaviour) (jobs : List (Plan (Except ε α))) (start : World) :
    Standing.Lasts (fun w opened ended => ∃ h, Recorded programs jobs start h w opened ended)
      programs where
  perm := fun ⟨h, hrec⟩ hperm => ⟨h, hrec.perm hperm⟩
  answer := fun ⟨_, hrec⟩ => ⟨_, hrec.answer⟩
  done := fun ⟨h, hrec⟩ => ⟨h, hrec.done⟩

theorem recorded_start (programs : Behaviour) (jobs : List (Plan (Except ε α))) (start : World) :
    Recorded programs jobs start [] start (numbered 0 jobs) [] := by
  refine ⟨.nil, ?_, by simp, ?_, by simp⟩
  · rw [number_numbered]
    simp
  · intro job hjob
    exact ⟨job.plan, getElem_of_mem_numbered hjob, .nil⟩

/-- All jobs have ended well, and each was carried out once. -/
structure CarriedOut (programs : Behaviour) (jobs : List (Plan (Except ε α))) (start : World)
    (h : History) (results : List α) (w : World) : Prop where
  happens : h.Happens programs start w
  known : ∀ entry ∈ h, entry.1 < jobs.length
  length : results.length = jobs.length
  once : ∀ (i : Nat) (job : Plan (Except ε α)) (a : α), jobs[i]? = some job →
    results[i]? = some a → job.Leaves (h.part i) (.done (.ok a))

theorem Recorded.carriedOut (hrec : Recorded programs jobs start h w [] ended) {results : List α}
    (hlength : results.length = jobs.length)
    (hresults : ∀ i a, results[i]? = some a → (i, .ok a) ∈ ended) :
    CarriedOut programs jobs start h results w := by
  refine ⟨hrec.happens, hrec.known, hlength, fun i job a hjob ha => ?_⟩
  obtain ⟨origin, horigin, hleaves⟩ := hrec.ended _ (hresults i a ha)
  obtain rfl : job = origin := Option.some.inj (hjob.symm.trans horigin)
  exact hleaves

theorem lookup_of_mem {γ : Type} {i : Nat} {x : γ} {entries : List (Nat × γ)}
    (hnodup : (entries.map Prod.fst).Nodup) (h : (i, x) ∈ entries) :
    entries.lookup i = some x := by
  obtain ⟨y, hy⟩ := exists_lookup (List.mem_map_of_mem h)
  have heq : (i, x) = (i, y) := List.inj_on_of_nodup_map hnodup h (mem_of_lookup hy) rfl
  rw [hy, (Prod.mk.inj heq).2]

/-- The results by number are those by end in another order. -/
theorem perm_inOrder (pool : Pool ε α) {count : Nat}
    (hnumbers : (pool.ended.map Prod.fst).Perm (List.range count)) :
    (pool.ended.filterMap fun entry => entry.2.toOption).Perm (pool.inOrder count) := by
  -- Both lists look the results up by number, in the one order of the numbers and in the other.
  have hnodup : (pool.ended.map Prod.fst).Nodup := hnumbers.nodup_iff.2 List.nodup_range
  have hlookup : pool.ended.filterMap (fun entry => entry.2.toOption) =
      (pool.ended.map Prod.fst).filterMap fun number =>
        (pool.ended.lookup number).bind Except.toOption := by
    rw [List.filterMap_map]
    refine List.filterMap_congr fun entry hentry => ?_
    obtain ⟨i, x⟩ := entry
    rw [Function.comp_apply, lookup_of_mem hnodup hentry, Option.bind_some]
  have hinOrder : pool.inOrder count = (List.range count).filterMap fun number =>
      (pool.ended.lookup number).bind Except.toOption := by
    refine List.filterMap_congr fun number _ => ?_
    rcases pool.ended.lookup number with _ | _ | a <;> rfl
  rw [hlookup, hinOrder]
  exact hnumbers.filterMap _

/-- Jobs that are carried out one after the other, and that all succeed. -/
inductive OneByOne (programs : Behaviour) :
    World → List (Plan (Except ε α)) → List α → World → Prop
  | nil {w : World} : OneByOne programs w [] [] w
  | cons {job : Plan (Except ε α)} {jobs : List (Plan (Except ε α))} {a : α} {results : List α}
      {w w₁ w₂ : World} (hjob : job.run programs w = (.ok a, w₁))
      (hrest : OneByOne programs w₁ jobs results w₂) :
      OneByOne programs w (job :: jobs) (a :: results) w₂

/-- One worker carries out the jobs one by one, and goes no further than the first that fails. -/
theorem oneByOne_workInOrder (programs : Behaviour) (jobs : List (Plan (Except ε α))) (w : World) :
    match (workInOrder programs jobs w).1.verdict with
    | .ok results => (workInOrder programs jobs w).1.ended = results ∧
        OneByOne programs w jobs results (workInOrder programs jobs w).2
    | .error e => ∃ front job back w₁, jobs = front ++ job :: back ∧
        OneByOne programs w front (workInOrder programs jobs w).1.ended w₁ ∧
        job.run programs w₁ = (.error e, (workInOrder programs jobs w).2) := by
  induction jobs generalizing w with
  | nil => exact ⟨rfl, .nil⟩
  | cons job jobs ih =>
    rw [workInOrder]
    cases hrun : job.run programs w with
    | mk x w' =>
      cases x with
      | error e => exact ⟨[], job, jobs, w, rfl, .nil, hrun⟩
      | ok a =>
        have hrest := ih w'
        simp only
        cases hverdict : (workInOrder programs jobs w').1.verdict with
        | error e =>
          simp only [hverdict] at hrest
          obtain ⟨front, last, back, w₁, rfl, hfront, hlast⟩ := hrest
          exact ⟨job :: front, last, back, w₁, rfl, .cons hrun hfront, hlast⟩
        | ok results =>
          simp only [hverdict] at hrest
          exact ⟨congrArg (a :: ·) hrest.1, .cons hrun hrest.2⟩

/-- Work that comes to results has carried out every job once, whatever turns were taken. -/
theorem carriedOut_work (programs : Behaviour) (workers : Nat) (turns : List Turn)
    (jobs : List (Plan (Except ε α))) (w : World) {results : List α}
    (hverdict : (work programs workers turns jobs w).1.verdict = .ok results) :
    (work programs workers turns jobs w).1.ended.Perm results ∧
      ∃ h, CarriedOut programs jobs w h results (work programs workers turns jobs w).2 := by
  have hstart : ∃ h, Recorded programs jobs w h w (numbered 0 jobs) [] :=
    ⟨[], recorded_start programs jobs w⟩
  unfold work at hverdict ⊢
  split at hverdict
  · next hseveral =>
    rw [if_pos hseveral]
    obtain ⟨pool, hwork, ⟨h, hrec⟩, hover⟩ :=
      (lasts_recorded programs jobs w).workTogether workers turns hstart
    rw [hwork] at hverdict ⊢
    cases hfailure : pool.failure? with
    | some e =>
      simp only [Pool.outcome, hfailure] at hverdict
      cases hverdict
    | none =>
      simp only [Pool.outcome, hfailure, Except.ok.injEq] at hverdict ⊢
      rw [hover.resolve_right (by simp [hfailure])] at hrec
      obtain ⟨hlength, hended⟩ := inOrder_of_numbers hfailure hrec.numbers
      rw [hverdict] at hlength hended
      exact ⟨hverdict ▸ perm_inOrder pool hrec.numbers, h, hrec.carriedOut hlength hended⟩
  · next hsingle =>
    rw [if_neg hsingle]
    have horder := oneByOne_workInOrder programs jobs w
    have hrecorded := (lasts_recorded programs jobs w).workInOrder hstart
    simp only [hverdict] at horder hrecorded
    obtain ⟨h, hrec⟩ := hrecorded
    rw [horder.1]
    refine ⟨.refl _, h, hrec.carriedOut ?_ ?_⟩
    · simpa using hrec.numbers.length_eq
    · intro i a ha
      exact List.mem_map.2 ⟨(a, i), List.mk_mem_zipIdx_iff_getElem?.2 ha, rfl⟩

end recorded

end Crosscheck
