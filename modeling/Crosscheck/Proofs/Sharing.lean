import Crosscheck.Proofs.Arrangement
import Mathlib.Logic.Function.Basic

/-!
# A ledger shared by threads

Threads that share a ledger record their failures under its lock. A thread that has a failure to
record takes the lock, unless another one has it; it reads the ledger, writes it back with the
failure at its end, and gives the lock back. The threads take turns in any order. Since nobody
writes between the reading and the writing of one thread, no failure is lost: the ledger is always a
merge of what the threads have recorded. Its report goes by the place of each failure, so it depends
on the order of the turns only where two threads record failures of one place.
-/

namespace Crosscheck

section merges

variable {ι α : Type} [DecidableEq ι]

/-- Lists merged into one: its elements can be marked with the lists that they come from, so that
those with one mark are that list, in its order. -/
def Merges (parts : ι → List α) (whole : List α) : Prop :=
  ∃ marked : List (ι × α), marked.map Prod.snd = whole ∧
    ∀ i, (marked.filter fun m => m.1 = i).map Prod.snd = parts i

theorem merges_nil : Merges (fun _ : ι => ([] : List α)) [] := ⟨[], rfl, fun _ => rfl⟩

variable {parts : ι → List α} {whole whole' : List α}

theorem Merges.concat (h : Merges parts whole) (i : ι) (a : α) :
    Merges (Function.update parts i (parts i ++ [a])) (whole ++ [a]) := by
  obtain ⟨marked, hwhole, hparts⟩ := h
  refine ⟨marked ++ [(i, a)], ?_, fun j => ?_⟩
  · rw [List.map_append, hwhole]
    rfl
  · rw [List.filter_append, List.map_append, hparts]
    by_cases hj : j = i
    · subst hj
      simp
    · rw [Function.update_of_ne hj]
      simp [Ne.symm hj]

theorem Merges.exists_mem (h : Merges parts whole) {a : α} (ha : a ∈ whole) :
    ∃ i, a ∈ parts i := by
  obtain ⟨marked, rfl, hparts⟩ := h
  obtain ⟨m, hm, rfl⟩ := List.mem_map.1 ha
  refine ⟨m.1, ?_⟩
  rw [← hparts m.1]
  exact List.mem_map_of_mem (List.mem_filter.2 ⟨hm, by simp⟩)

/-- Elements that all come from one list are in its order. -/
theorem Merges.filter_of_own (h : Merges parts whole) {keep : α → Bool} {i : ι}
    (hown : ∀ j, ∀ a ∈ parts j, keep a = true → j = i) :
    whole.filter keep = (parts i).filter keep := by
  obtain ⟨marked, rfl, hparts⟩ := h
  have hmark : ∀ m ∈ marked, keep m.2 = true → m.1 = i := by
    intro m hm hkeep
    have hmem : m.2 ∈ parts m.1 := by
      rw [← hparts m.1]
      exact List.mem_map_of_mem (List.mem_filter.2 ⟨hm, by simp⟩)
    exact hown m.1 m.2 hmem hkeep
  rw [← hparts i, List.filter_map, List.filter_map, List.filter_filter]
  refine congrArg (List.map Prod.snd) (List.filter_congr fun m hm => ?_)
  cases hkeep : keep m.2 with
  | false => simp [hkeep]
  | true => simp [hkeep, hmark m hm hkeep]

/-- Merges of the same lists agree on elements that one list alone has. -/
theorem Merges.filter_eq (h : Merges parts whole) (h' : Merges parts whole') {keep : α → Bool}
    (hone : ∀ i j, ∀ a ∈ parts i, ∀ b ∈ parts j, keep a = true → keep b = true → i = j) :
    whole.filter keep = whole'.filter keep := by
  -- either one list has all that is kept, or nothing is kept
  by_cases hkept : ∃ i, ∃ a ∈ parts i, keep a = true
  · obtain ⟨i, a, ha, hkeep⟩ := hkept
    have hown : ∀ j, ∀ b ∈ parts j, keep b = true → j = i :=
      fun j b hb hkeep' => hone j i b hb a ha hkeep' hkeep
    rw [h.filter_of_own hown, h'.filter_of_own hown]
  · have hnone {whole : List α} (h : Merges parts whole) : whole.filter keep = [] := by
      refine List.filter_eq_nil_iff.2 fun a ha hkeep => ?_
      obtain ⟨i, hi⟩ := h.exists_mem ha
      exact hkept ⟨i, a, hi, hkeep⟩
    rw [hnone h, hnone h']

end merges

/-- Where a thread is in recording a failure. -/
inductive Recorder where
  | outside
  /-- It has the lock. -/
  | entered (f : Failure)
  /-- It has read the ledger. -/
  | loaded (f : Failure) (l : Ledger)
  /-- It has written the ledger back and still has the lock. -/
  | stored
  deriving DecidableEq, Repr

namespace Recorder

/-- The failure that a thread is about to record. -/
def holds : Recorder → List Failure
  | entered f | loaded f _ => [f]
  | outside | stored => []

/-- Whether a thread may be there, by what the ledger is and who has the lock. -/
def Allowed {ι : Type} (ledger : Ledger) (owner : Option ι) (i : ι) : Recorder → Prop
  | outside => True
  | entered _ | stored => owner = some i
  | loaded _ l => owner = some i ∧ l = ledger

end Recorder

/-- A ledger and the threads that share it. -/
structure SharedLedger (ι : Type) where
  ledger : Ledger
  /-- Who has the lock. -/
  owner : Option ι
  recorder : ι → Recorder
  /-- The failures that a thread has not begun to record. -/
  left : ι → List Failure

namespace SharedLedger

variable {ι : Type}

/-- Before the first turn. -/
def start (l : Ledger) (jobs : ι → List Failure) : SharedLedger ι :=
  ⟨l, none, fun _ => .outside, jobs⟩

/-- What a thread has still to record. -/
def pending (s : SharedLedger ι) (i : ι) : List Failure := (s.recorder i).holds ++ s.left i

/-- Whether every thread has recorded all that it had to. -/
def Over (s : SharedLedger ι) : Prop := ∀ i, s.recorder i = .outside ∧ s.left i = []

theorem Over.pending_eq {s : SharedLedger ι} (h : Over s) (i : ι) : s.pending i = [] := by
  obtain ⟨hr, hleft⟩ := h i
  rw [pending, hr, hleft]
  rfl

variable [DecidableEq ι]

/-- The ledger after a turn of one thread. A thread that finds the lock taken goes on waiting. -/
def turn (s : SharedLedger ι) (i : ι) : SharedLedger ι :=
  match s.recorder i with
  | .outside =>
    match s.owner, s.left i with
    | none, f :: rest =>
      { s with
        owner := some i
        recorder := Function.update s.recorder i (.entered f)
        left := Function.update s.left i rest }
    | _, _ => s
  | .entered f => { s with recorder := Function.update s.recorder i (.loaded f s.ledger) }
  | .loaded f l =>
    { s with
      ledger := l.record f
      recorder := Function.update s.recorder i .stored }
  | .stored => { s with owner := none, recorder := Function.update s.recorder i .outside }

def run (turns : List ι) (s : SharedLedger ι) : SharedLedger ι := turns.foldl turn s

/-- What is there is a merge of what the threads have recorded. -/
def Recorded (l : Ledger) (jobs : ι → List Failure) (s : SharedLedger ι) : Prop :=
  ∃ parts whole, (∀ i, parts i ++ s.pending i = jobs i) ∧ Merges parts whole ∧
    s.ledger.failures = l.failures ++ whole

/-- A shared ledger that is in order: who records has the lock, and what one thread has read is what
is there. -/
structure Orderly (l : Ledger) (jobs : ι → List Failure) (s : SharedLedger ι) : Prop where
  allowed : ∀ i, (s.recorder i).Allowed s.ledger s.owner i
  recorded : Recorded l jobs s

section turns

variable {l : Ledger} {jobs : ι → List Failure} {s s' : SharedLedger ι} {i : ι} {r : Recorder}
  {f : Failure}

theorem Recorded.of_pending_eq (h : Recorded l jobs s) (hledger : s'.ledger = s.ledger)
    (hpending : ∀ j, s'.pending j = s.pending j) : Recorded l jobs s' := by
  obtain ⟨parts, whole, hparts, hmerges, hwhole⟩ := h
  refine ⟨parts, whole, fun j => ?_, hmerges, hledger ▸ hwhole⟩
  rw [hpending, hparts]

theorem Recorded.write (h : Recorded l jobs s) (hledger : s'.ledger = s.ledger.record f)
    (hpending : s.pending i = f :: s'.pending i)
    (hothers : ∀ j, j ≠ i → s'.pending j = s.pending j) : Recorded l jobs s' := by
  obtain ⟨parts, whole, hparts, hmerges, hwhole⟩ := h
  refine ⟨_, _, fun j => ?_, hmerges.concat i f, ?_⟩
  · by_cases hj : j = i
    · subst hj
      rw [Function.update_self, List.append_assoc, List.singleton_append, ← hpending, hparts]
    · rw [Function.update_of_ne hj, hothers j hj, hparts]
  · rw [hledger, Ledger.failures_record, hwhole, List.append_assoc]

/-- Who does not have the lock is not recording. -/
theorem Orderly.outside (h : Orderly l jobs s) (hi : s.owner ≠ some i) :
    s.recorder i = .outside := by
  have hallowed := h.allowed i
  cases hr : s.recorder i with
  | outside => rfl
  | entered f =>
    rw [hr] at hallowed
    exact absurd hallowed hi
  | loaded f l' =>
    rw [hr] at hallowed
    exact absurd hallowed.1 hi
  | stored =>
    rw [hr] at hallowed
    exact absurd hallowed hi

theorem Orderly.outside_of_ne (h : Orderly l jobs s) (hi : s.owner = some i) {j : ι} (hj : j ≠ i) :
    s.recorder j = .outside :=
  h.outside fun heq => hj (Option.some.inj (heq.symm.trans hi))

theorem pending_of_update (hs' : s'.recorder = Function.update s.recorder i r) :
    s'.pending i = r.holds ++ s'.left i := by
  rw [pending, hs', Function.update_self]

theorem pending_of_ne (hs' : s'.recorder = Function.update s.recorder i r) {j : ι} (hj : j ≠ i)
    (hleft : s'.left j = s.left j) : s'.pending j = s.pending j := by
  rw [pending, hs', Function.update_of_ne hj, hleft, pending]

theorem allowed_of_update (hs' : s'.recorder = Function.update s.recorder i r)
    (hr : r.Allowed s'.ledger s'.owner i) (hothers : ∀ j, j ≠ i → s.recorder j = .outside) (j : ι) :
    (s'.recorder j).Allowed s'.ledger s'.owner j := by
  rw [hs']
  by_cases hj : j = i
  · subst hj
    rwa [Function.update_self]
  · rw [Function.update_of_ne hj, hothers j hj]
    trivial

theorem Orderly.turn (h : Orderly l jobs s) (i : ι) : Orderly l jobs (s.turn i) := by
  have hallowed := h.allowed i
  unfold SharedLedger.turn
  cases hr : s.recorder i with
  | outside =>
    cases howner : s.owner with
    | some k => exact h
    | none =>
      cases hleft : s.left i with
      | nil => exact h
      | cons f rest =>
        have hothers : ∀ j, j ≠ i → s.recorder j = .outside :=
          fun j _ => h.outside (by simp [howner])
        refine ⟨allowed_of_update rfl rfl hothers, h.recorded.of_pending_eq rfl fun j => ?_⟩
        by_cases hj : j = i
        · subst hj
          rw [pending_of_update rfl, pending, hr, hleft]
          simp [Recorder.holds]
        · exact pending_of_ne rfl hj (Function.update_of_ne hj _ _)
  | entered f =>
    rw [hr] at hallowed
    refine ⟨allowed_of_update rfl ⟨hallowed, rfl⟩ fun j hj => h.outside_of_ne hallowed hj,
      h.recorded.of_pending_eq rfl fun j => ?_⟩
    by_cases hj : j = i
    · subst hj
      rw [pending_of_update rfl, pending, hr]
      rfl
    · exact pending_of_ne rfl hj rfl
  | loaded f l' =>
    rw [hr] at hallowed
    -- what the thread has read is still there, so writing it back loses nothing
    obtain ⟨howner, rfl⟩ := hallowed
    refine ⟨allowed_of_update rfl howner fun j hj => h.outside_of_ne howner hj,
      h.recorded.write rfl ?_ fun j hj => pending_of_ne rfl hj rfl⟩
    rw [pending, hr, pending_of_update rfl]
    rfl
  | stored =>
    rw [hr] at hallowed
    refine ⟨allowed_of_update rfl trivial fun j hj => h.outside_of_ne hallowed hj,
      h.recorded.of_pending_eq rfl fun j => ?_⟩
    by_cases hj : j = i
    · subst hj
      rw [pending_of_update rfl, pending, hr]
      rfl
    · exact pending_of_ne rfl hj rfl

theorem orderly_start (l : Ledger) (jobs : ι → List Failure) : Orderly l jobs (start l jobs) :=
  ⟨fun _ => trivial, _, _, fun _ => rfl, merges_nil, (List.append_nil _).symm⟩

/-- The ledger is in order whatever turns the threads take. -/
theorem orderly_run (l : Ledger) (jobs : ι → List Failure) (turns : List ι) :
    Orderly l jobs (run turns (start l jobs)) := by
  have hrun (s : SharedLedger ι) (hs : Orderly l jobs s) : Orderly l jobs (run turns s) := by
    induction turns generalizing s with
    | nil => exact hs
    | cons i turns ih => exact ih (s.turn i) (hs.turn i)
  exact hrun _ (orderly_start l jobs)

theorem Recorded.of_over (h : Recorded l jobs s) (hover : Over s) :
    ∃ whole, Merges jobs whole ∧ s.ledger.failures = l.failures ++ whole := by
  obtain ⟨parts, whole, hparts, hmerges, hwhole⟩ := h
  obtain rfl : parts = jobs := by
    funext i
    rw [← hparts i, hover.pending_eq, List.append_nil]
  exact ⟨whole, hmerges, hwhole⟩

theorem run_four (jobs : ι → List Failure) {rest : List Failure} (hi : jobs i = f :: rest)
    (l : Ledger) : run [i, i, i, i] (start l jobs) =
      start (l.record f) (Function.update jobs i rest) := by
  simp [run, start, SharedLedger.turn, hi]

/-- Every merge of what the threads have to record is what some turns come to. -/
theorem exists_run_of_merges {whole : List Failure} (h : Merges jobs whole) (l : Ledger) :
    ∃ turns, run turns (start l jobs) = start ⟨l.failures ++ whole⟩ fun _ => [] := by
  obtain ⟨marked, rfl, hparts⟩ := h
  -- the marks tell whose turn it is: four turns in a row record one failure
  induction marked generalizing l jobs with
  | nil =>
    obtain rfl : (fun _ => []) = jobs := funext hparts
    exact ⟨[], by simp [run]⟩
  | cons m marked ih =>
    obtain ⟨i, f⟩ := m
    let rest := (marked.filter fun m => m.1 = i).map Prod.snd
    have hi : jobs i = f :: rest := by
      rw [← hparts i]
      simp [rest]
    have hrest (j : ι) : (marked.filter fun m => m.1 = j).map Prod.snd =
        Function.update jobs i rest j := by
      by_cases hj : j = i
      · subst hj
        rw [Function.update_self]
      · rw [Function.update_of_ne hj, ← hparts j, List.filter_cons_of_neg (by simp [Ne.symm hj])]
    obtain ⟨turns, hturns⟩ := ih (l.record f) hrest
    refine ⟨[i, i, i, i] ++ turns, ?_⟩
    rw [run, List.foldl_append, ← run, ← run, run_four jobs hi, hturns]
    simp

end turns

end SharedLedger

/-- The report of a ledger goes by the failures of each place in their order. -/
theorem Ledger.report_eq_of_positions {l l' : Ledger} (h : ∀ p : Position,
    (l.failures.filter fun f => f.position = p) = l'.failures.filter fun f => f.position = p) :
    l.report = l'.report := by
  have hsorted : sortBy Failure.rank l.failures = sortBy Failure.rank l'.failures := by
    rw [Failure.sortBy_rank_eq_flatMap, Failure.sortBy_rank_eq_flatMap, funext h]
  rw [report_eq_render, report_eq_render, ← Report.arrange_sortBy, hsorted, Report.arrange_sortBy]

namespace SharedLedger

variable {ι : Type} [DecidableEq ι]

/-- Whether no two threads record failures of one place. -/
def Apart (jobs : ι → List Failure) : Prop :=
  ∀ i j, ∀ f ∈ jobs i, ∀ g ∈ jobs j, f.position = g.position → i = j

theorem report_of_apart {l : Ledger} {jobs : ι → List Failure} (hapart : Apart jobs)
    {s s' : SharedLedger ι} (h : Recorded l jobs s) (hover : Over s) (h' : Recorded l jobs s')
    (hover' : Over s') : s.ledger.report = s'.ledger.report := by
  obtain ⟨whole, hmerges, hwhole⟩ := h.of_over hover
  obtain ⟨whole', hmerges', hwhole'⟩ := h'.of_over hover'
  refine Ledger.report_eq_of_positions fun p => ?_
  have hplace : whole.filter (fun f => f.position = p) = whole'.filter fun f => f.position = p := by
    refine hmerges.filter_eq hmerges' fun i j f hf g hg hfp hgp => hapart i j f hf g hg ?_
    exact (of_decide_eq_true hfp).trans (of_decide_eq_true hgp).symm
  rw [hwhole, hwhole', List.filter_append, List.filter_append, hplace]

/-- Whatever turns the threads take, the ledger is a merge of what they have recorded so far. What
they can come to in the end are the merges of all that they have to record, no more and no less. If
no two of them record failures of one place, the report in the end is the same for all turns. -/
theorem records_merged (l : Ledger) (jobs : ι → List Failure) :
    (∀ turns, Recorded l jobs (run turns (start l jobs))) ∧
    (∀ records, (∃ turns, Over (run turns (start l jobs)) ∧
        (run turns (start l jobs)).ledger.failures = records) ↔
      ∃ whole, Merges jobs whole ∧ records = l.failures ++ whole) ∧
    (Apart jobs → ∀ turns turns', Over (run turns (start l jobs)) →
      Over (run turns' (start l jobs)) →
        (run turns (start l jobs)).ledger.report = (run turns' (start l jobs)).ledger.report) := by
  have hrecorded (turns : List ι) : Recorded l jobs (run turns (start l jobs)) :=
    (orderly_run l jobs turns).recorded
  refine ⟨hrecorded, fun records => ?_, fun hapart turns turns' hover hover' =>
    report_of_apart hapart (hrecorded turns) hover (hrecorded turns') hover'⟩
  constructor
  · rintro ⟨turns, hover, rfl⟩
    exact (hrecorded turns).of_over hover
  · rintro ⟨whole, hmerges, rfl⟩
    obtain ⟨turns, hturns⟩ := exists_run_of_merges hmerges l
    refine ⟨turns, ?_⟩
    rw [hturns]
    exact ⟨fun _ => ⟨rfl, rfl⟩, rfl⟩

/-- Two threads with failures of different stages, one of which waits for the lock. -/
theorem records_merged_contended :
    let f : Failure := ⟨"a", .c, .riscv64, .compilation, "x"⟩
    let g : Failure := ⟨"b", .c, .riscv64, .assembly, "y"⟩
    let jobs : Bool → List Failure := fun b => if b then [f] else [g]
    let s := run [true, false, true, true, false, true, false, false, false, false]
      (start .empty jobs)
    let s' := run [false, true, false, false, false, true, true, true, true] (start .empty jobs)
    Apart jobs ∧ Over s ∧ Over s' ∧ s.ledger.failures = [f, g] ∧ s'.ledger.failures = [g, f] ∧
      s.ledger.report = s'.ledger.report := by
  intro f g jobs s s'
  have hapart : Apart jobs := by
    intro i j
    cases i <;> cases j <;> simp [jobs, f, g, Failure.position]
  have hover : Over s := by
    intro i
    cases i <;> decide
  have hover' : Over s' := by
    intro i
    cases i <;> decide
  exact ⟨hapart, hover, hover', by decide, by decide,
    (records_merged .empty jobs).2.2 hapart _ _ hover hover'⟩

end SharedLedger

end Crosscheck
