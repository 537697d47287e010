import Crosscheck.Proofs.Moves
import Mathlib.Algebra.Order.Floor.Div

/-!
# Looking at a child within a time limit

With a time limit the runner looks at the child, rests for the poll interval at least, and looks
again. After a look in vain it compares the clock with the deadline. So every look but the last
was in vain and came before the deadline, and of those there are at most as many as there are poll
intervals in the limit, with a part of one taken for a whole. The last look has found the status, or
it came at the deadline or later; then the runner kills the child and waits until it is gone.
-/

namespace Crosscheck

namespace Watch

/-- A limit in poll intervals, with a part of one taken for a whole. -/
def intervals (limit : Duration) : ℕ := limit.nanoseconds ⌈/⌉ pollInterval

/-- So many poll intervals are over before the limit is, so there is one more in it. -/
theorem lt_intervals {limit : Duration} {n : ℕ} (h : n * pollInterval < limit.nanoseconds) :
    n < intervals limit := by
  have hpos : 0 < pollInterval := by decide
  rw [← not_le, intervals, ceilDiv_le_iff_le_smul hpos, smul_eq_mul, Nat.mul_comm]
  omega

/-- Looks in vain, all of them before the deadline. -/
structure Vain (most deadline : ℕ) (looks : List Look) : Prop where
  early : ∀ look ∈ looks, look.found = none ∧ look.reading < deadline
  count : looks.length ≤ most

/-- The last look after looks in vain. -/
structure Last (most deadline : ℕ) (looks : List Look) (last : Look) : Prop where
  early : ∀ look ∈ looks.dropLast, look.found = none ∧ look.reading < deadline
  count : looks.length ≤ most + 1
  last : looks.getLast? = some last

theorem Vain.snoc {most deadline : ℕ} {looks : List Look} (h : Vain most deadline looks)
    (look : Look) : Last most deadline (looks ++ [look]) look where
  early := by
    rw [List.dropLast_concat]
    exact h.early
  count := by
    rw [List.length_append]
    exact Nat.succ_le_succ h.count
  last := List.getLast?_concat

/-- All looks so far were in vain, and the next one is at this instant or later. -/
structure Seeking (limit : Duration) (deadline : Option ℕ) (looks : List Look)
    (answer : Option (Option ExitStatus)) (instant : ℕ) : Prop where
  answer : answer = none
  vain : ∃ d ∈ deadline, Vain (intervals limit) d looks ∧
    looks.length * pollInterval + d ≤ instant + limit.nanoseconds

/-- The last look was in vain, and the deadline had passed. -/
def Missed (limit : Duration) (deadline : Option ℕ) (looks : List Look) : Prop :=
  ∃ d ∈ deadline, ∃ last, Last (intervals limit) d looks last ∧ last.found = none ∧ d ≤ last.reading

/-- The last look has found the status. -/
def Found (limit : Duration) (deadline : Option ℕ) (looks : List Look) (status : ExitStatus) :
    Prop :=
  ∃ d ∈ deadline, ∃ last, Last (intervals limit) d looks last ∧ last.found = some status

/-- How a watch with a limit can be over. -/
inductive Closed (limit : Duration) (w : Watch) : Except LaunchError Capture → Prop
  | overflown (hlooks : w.looks = []) (hanswer : w.answer = none) (hpolls : w.polls = 0) :
      Closed limit w (.error .deadlineOverflow)
  | unlooked {cause : OsError} {instant : ℕ}
      (hseeking : Seeking limit w.deadline w.looks w.answer instant)
      (hpolls : w.polls = w.looks.length + 1) : Closed limit w (.error (.io cause))
  | missed {status : ExitStatus} (hmissed : Missed limit w.deadline w.looks)
      (hanswer : w.answer = some none) (hchild : w.child = .reaped status)
      (hpolls : w.polls = w.looks.length) : Closed limit w w.timedOut
  | found {status : ExitStatus} {result : Except LaunchError Capture}
      (hfound : Found limit w.deadline w.looks status) (hanswer : w.answer = some (some status))
      (hchild : w.child = .reaped status) (hpolls : w.polls = w.looks.length) :
      Closed limit w result

/-- What is known of the looks where the runner is about to do something. -/
def Timed (limit : Duration) (w : Watch) : Phase → Prop
  | .begin => w.deadline = none ∧ w.looks = [] ∧ w.answer = none ∧ w.polls = 0
  | .look => Seeking limit w.deadline w.looks w.answer w.clock ∧ w.polls = w.looks.length
  | .check => Seeking limit w.deadline w.looks w.answer w.clock ∧ w.polls = w.looks.length + 1
  | .rest wake => Seeking limit w.deadline w.looks w.answer wake ∧ w.polls = w.looks.length
  | .kill => Missed limit w.deadline w.looks ∧ w.answer = none ∧ w.polls = w.looks.length
  | .reap =>
    Missed limit w.deadline w.looks ∧ w.answer = none ∧ w.polls = w.looks.length ∧
      w.child.status?.isSome = true
  | .wait => False
  | .turn status _ =>
    Found limit w.deadline w.looks status ∧ w.answer = some (some status) ∧
      w.polls = w.looks.length ∧ w.child = .reaped status
  | .receive status _ due =>
    Found limit w.deadline w.looks status ∧ w.answer = some (some status) ∧
      w.polls = w.looks.length ∧ w.child = .reaped status ∧
      ∃ d ∈ w.deadline, ∃ instant ≤ w.clock, due = some (max instant d)
  | .finished result => w.Closed limit result

section timed

variable {limit : Duration} {e : Event} {w w' : Watch}

theorem Seeking.later {deadline : Option ℕ} {looks : List Look}
    {answer : Option (Option ExitStatus)} {instant later : ℕ}
    (h : Seeking limit deadline looks answer instant) (hle : instant ≤ later) :
    Seeking limit deadline looks answer later := by
  obtain ⟨d, hd, hvain, hpace⟩ := h.vain
  exact ⟨h.answer, d, hd, hvain, by omega⟩

theorem Closed.outside {result : Except LaunchError Capture} (h : w.Closed limit result)
    (hw : w.Continues w') : w'.Closed limit result := by
  cases h with
  | overflown hlooks hanswer hpolls =>
    exact .overflown (hw.looks.trans hlooks) (hw.answer.trans hanswer) (hw.polls.trans hpolls)
  | unlooked hseeking hpolls =>
    rw [← hw.deadline, ← hw.looks, ← hw.answer] at hseeking
    rw [← hw.polls, ← hw.looks] at hpolls
    exact .unlooked hseeking hpolls
  | missed hmissed hanswer hchild hpolls =>
    rw [← hw.deadline, ← hw.looks] at hmissed
    rw [← hw.polls, ← hw.looks] at hpolls
    exact hw.timedOut_eq ▸ .missed hmissed (hw.answer.trans hanswer) (hw.reaped hchild) hpolls
  | found hfound hanswer hchild hpolls =>
    rw [← hw.deadline, ← hw.looks] at hfound
    rw [← hw.polls, ← hw.looks] at hpolls
    exact .found hfound (hw.answer.trans hanswer) (hw.reaped hchild) hpolls

/-- What goes on outside changes nothing of what is known of the looks. -/
theorem Timed.outside {phase : Phase} (h : w.Timed limit phase) (hw : w.Continues w') :
    w'.Timed limit phase := by
  have hclock := hw.clock
  unfold Timed at h ⊢
  simp only [hw.deadline, hw.looks, hw.answer, hw.polls]
  cases phase with
  | look | check => exact ⟨h.1.later hclock, h.2⟩
  | reap =>
    obtain ⟨hmissed, hanswer, hpolls, hstatus⟩ := h
    obtain ⟨status, hsome⟩ := Option.isSome_iff_exists.1 hstatus
    exact ⟨hmissed, hanswer, hpolls, hw.exited status hsome ▸ hstatus⟩
  | turn status place =>
    obtain ⟨hfound, hanswer, hpolls, hchild⟩ := h
    exact ⟨hfound, hanswer, hpolls, hw.reaped hchild⟩
  | receive status place due =>
    obtain ⟨hfound, hanswer, hpolls, hchild, d, hd, instant, hle, hdue⟩ := h
    exact ⟨hfound, hanswer, hpolls, hw.reaped hchild, d, hd, instant, hle.trans hclock, hdue⟩
  | finished result => exact Closed.outside h hw
  | _ => exact h

theorem isLate_eq {d : ℕ} (hd : d ∈ w.deadline) : w.isLate = decide (d ≤ w.clock) := by
  rw [isLate, Option.mem_def.1 hd]

theorem seeking_limited {deadline : ℕ} {looks : List Look} {answer : Option (Option ExitStatus)}
    (hlooks : looks = []) (hanswer : answer = none)
    (hdeadline : deadline? w.clock limit = some deadline) :
    Seeking limit (some deadline) looks answer w.clock := by
  subst hlooks
  have hend := (deadline?_eq_some_iff.1 hdeadline).2
  refine ⟨hanswer, deadline, rfl, ⟨nofun, Nat.zero_le _⟩, ?_⟩
  rw [List.length_nil, Nat.zero_mul]
  omega

/-- A look in vain before the deadline leaves room for another one, a poll interval later. -/
theorem seeking_early (h : Seeking limit w.deadline w.looks w.answer w.clock)
    (hearly : w.isLate = false) :
    Seeking limit w.deadline (w.note none).looks w.answer (w.clock + pollInterval) := by
  obtain ⟨hanswer, d, hd, ⟨hvain, hcount⟩, hpace⟩ := h
  rw [isLate_eq hd, decide_eq_false_iff_not] at hearly
  have hmost : w.looks.length < intervals limit := lt_intervals (by omega)
  have hlength : (w.note none).looks.length = w.looks.length + 1 := List.length_append
  refine ⟨hanswer, d, hd, ⟨fun look hlook => ?_, hlength ▸ hmost⟩, ?_⟩
  · rcases List.mem_append.1 hlook with hlook | hlook
    · exact hvain look hlook
    · obtain rfl := List.mem_singleton.1 hlook
      exact ⟨rfl, Nat.lt_of_not_le hearly⟩
  · rw [hlength, Nat.succ_mul]
    omega

theorem missed_late (h : Seeking limit w.deadline w.looks w.answer w.clock)
    (hlate : w.isLate = true) : Missed limit w.deadline (w.note none).looks := by
  obtain ⟨-, d, hd, hvain, -⟩ := h
  rw [isLate_eq hd, decide_eq_true_iff] at hlate
  exact ⟨d, hd, _, hvain.snoc _, rfl, hlate⟩

theorem found_look {status : ExitStatus}
    (h : Seeking limit w.deadline w.looks w.answer w.clock) :
    Found limit w.deadline (w.note (some status)).looks status := by
  obtain ⟨-, d, hd, hvain, -⟩ := h
  exact ⟨d, hd, _, hvain.snoc _, rfl⟩

theorem length_note (found : Option ExitStatus) :
    (w.note found).looks.length = w.looks.length + 1 :=
  List.length_append

theorem timed_leave {status : ExitStatus} {place : Place} {due : Option ℕ}
    (h : w.Timed limit (.receive status place due)) (got : Option Bytes) :
    (w.leave status place got).Timed limit (w.leave status place got).phase := by
  obtain ⟨hfound, hanswer, hpolls, hchild, -⟩ := h
  cases place with
  | first => exact ⟨hfound, hanswer, hpolls, hchild⟩
  | second stdout => exact .found hfound hanswer hchild hpolls

theorem isSome_status_kill (child : Life) : child.kill.status?.isSome = true := by
  cases child <;> rfl

/-- What the runner does keeps all of this up. -/
theorem Timed.inside (h : w.Timed limit w.phase) (hlimit : w.limit = some limit)
    (hmove : w.Moved e w') (he : e.isOutside = false) : w'.Timed limit w'.phase := by
  cases hmove with
  | on | exited | passed => cases he
  | unlimited hphase hnone => exact nomatch hnone.symm.trans hlimit
  | overflown hphase =>
    rw [hphase] at h
    exact .overflown h.2.1 h.2.2.1 h.2.2.2
  | limited hphase hsome hdeadline =>
    rw [hphase] at h
    obtain ⟨-, hlooks, hanswer, hpolls⟩ := h
    obtain rfl := Option.some.inj (hsome.symm.trans hlimit)
    refine ⟨seeking_limited hlooks hanswer hdeadline, hpolls.trans ?_⟩
    exact (congrArg List.length hlooks).symm
  | found hphase hstatus =>
    rw [hphase] at h
    exact ⟨found_look h.1, rfl, (congrArg Nat.succ h.2).trans (length_note _).symm, rfl⟩
  | missed hphase hstatus =>
    rw [hphase] at h
    exact ⟨h.1, congrArg Nat.succ h.2⟩
  | late hphase hlate =>
    rw [hphase] at h
    exact ⟨missed_late h.1 hlate, h.1.answer, h.2.trans (length_note _).symm⟩
  | early hphase hlate =>
    rw [hphase] at h
    exact ⟨seeking_early h.1 hlate, h.2.trans (length_note _).symm⟩
  | rested hphase hwake =>
    rw [hphase] at h
    exact ⟨h.1.later hwake, h.2⟩
  | killed hphase =>
    rw [hphase] at h
    exact ⟨h.1, h.2.1, h.2.2, isSome_status_kill w.child⟩
  | reaped hphase hstatus =>
    rw [hphase] at h
    exact .missed h.1 rfl rfl h.2.2.1
  | turned hphase =>
    rw [hphase] at h
    obtain ⟨⟨d, hd, hlast⟩, hanswer, hpolls, hchild⟩ := h
    refine ⟨⟨d, hd, hlast⟩, hanswer, hpolls, hchild, d, hd, w.clock, Nat.le_refl _, ?_⟩
    rw [Option.mem_def.1 hd, Option.map_some]
  | received hphase | gaveUp hphase =>
    rw [hphase] at h
    exact timed_leave h _
  | unreadable hphase | lost hphase  =>
    rw [hphase] at h
    exact .found h.1 h.2.1 h.2.2.2.1 h.2.2.1
  | unlooked hphase =>
    rw [hphase] at h
    exact .unlooked h.1 (congrArg Nat.succ h.2)
  | waited hphase | unwaited hphase =>
    rw [hphase] at h
    exact h.elim

end timed

/-- What is known of a watch with a limit after every run. -/
structure InTime (l : Duration) (w : Watch) : Prop where
  limit : w.limit = some l
  timed : w.Timed l w.phase

section inTime

variable {limit : Duration} {e : Event} {w w' : Watch}

theorem inTime_launch (program : String) (start : ℕ) :
    (launch program start (some limit)).InTime limit :=
  ⟨rfl, rfl, rfl, rfl, rfl⟩

theorem InTime.move (h : w.InTime limit) (hmove : w.Moved e w') : w'.InTime limit where
  limit := hmove.limit_eq.trans h.limit
  timed := by
    cases he : e.isOutside with
    | true =>
      have hw := hmove.continues he
      exact hw.phase ▸ h.timed.outside hw
    | false => exact h.timed.inside h.limit hmove he

end inTime

/-- What the looks say about the answer. -/
structure Findings (l : Duration) (deadline : Option ℕ) (looks : List Look)
    (answer : Option (Option ExitStatus)) : Prop where
  count : looks.length ≤ intervals l + 1
  early : ∀ look ∈ looks.dropLast, look.found = none ∧ ∃ d ∈ deadline, look.reading < d
  found : ∀ status, answer = some (some status) ↔ ∃ look ∈ looks, look.found = some status
  missed : answer = some none →
    (∀ look ∈ looks, look.found = none) ∧ ∃ look ∈ looks, ∃ d ∈ deadline, d ≤ look.reading

section findings

variable {limit : Duration} {deadline : Option ℕ} {looks : List Look}
  {answer : Option (Option ExitStatus)} {w : Watch}

theorem Last.mem {most d : ℕ} {last : Look} (h : Last most d looks last) : last ∈ looks :=
  List.mem_of_getLast? h.last

theorem Last.mem_cases {most d : ℕ} {last look : Look} (h : Last most d looks last)
    (hlook : look ∈ looks) : look.found = none ∧ look.reading < d ∨ look = last := by
  rw [← List.dropLast_append_getLast? last h.last] at hlook
  rcases List.mem_append.1 hlook with hlook | hlook
  · exact .inl (h.early look hlook)
  · exact .inr (List.mem_singleton.1 hlook)

theorem findings_nil : Findings limit deadline [] none where
  count := Nat.zero_le _
  early _ h := nomatch h
  found _ := ⟨nofun, fun ⟨_, hlook, _⟩ => nomatch hlook⟩
  missed h := nomatch h

theorem Seeking.findings {instant : ℕ} (h : Seeking limit deadline looks answer instant) :
    Findings limit deadline looks answer := by
  obtain ⟨rfl, d, hd, hvain, -⟩ := h
  refine ⟨hvain.count.trans (Nat.le_succ _), fun look hlook => ?_, fun status => ⟨nofun, ?_⟩, nofun⟩
  · obtain ⟨hnone, hearly⟩ := hvain.early look (List.dropLast_subset looks hlook)
    exact ⟨hnone, d, hd, hearly⟩
  · rintro ⟨look, hlook, hfound⟩
    exact nomatch (hvain.early look hlook).1.symm.trans hfound

theorem Missed.findings (h : Missed limit deadline looks)
    (hanswer : ∀ status, answer ≠ some (some status)) : Findings limit deadline looks answer := by
  obtain ⟨d, hd, last, hlast, hnone, hlate⟩ := h
  have hvain (look : Look) (hlook : look ∈ looks) : look.found = none := by
    rcases hlast.mem_cases hlook with hearly | rfl
    · exact hearly.1
    · exact hnone
  refine ⟨hlast.count, fun look hlook => ?_, fun status => ⟨fun h => absurd h (hanswer status), ?_⟩,
    fun _ => ⟨hvain, last, hlast.mem, d, hd, hlate⟩⟩
  · exact ⟨(hlast.early look hlook).1, d, hd, (hlast.early look hlook).2⟩
  · rintro ⟨look, hlook, hfound⟩
    exact nomatch (hvain look hlook).symm.trans hfound

theorem Found.findings {status : ExitStatus} (h : Found limit deadline looks status) :
    Findings limit deadline looks (some (some status)) := by
  obtain ⟨d, hd, last, hlast, hfound⟩ := h
  refine ⟨hlast.count, fun look hlook => ?_, fun status' => ⟨?_, ?_⟩, nofun⟩
  · exact ⟨(hlast.early look hlook).1, d, hd, (hlast.early look hlook).2⟩
  · intro hsame
    obtain rfl := Option.some.inj (Option.some.inj hsame)
    exact ⟨last, hlast.mem, hfound⟩
  · rintro ⟨look, hlook, hfound'⟩
    rcases hlast.mem_cases hlook with hearly | rfl
    · exact nomatch hearly.1.symm.trans hfound'
    · rw [Option.some.inj (hfound.symm.trans hfound')]

theorem InTime.findings (h : w.InTime limit) :
    Findings limit w.deadline w.looks w.answer := by
  have htimed := h.timed
  generalize w.phase = phase at htimed
  cases phase with
  | begin =>
    obtain ⟨-, hlooks, hanswer, -⟩ := htimed
    rw [hlooks, hanswer]
    exact findings_nil
  | look | check | rest =>
    exact htimed.1.findings
  | kill | reap =>
    exact htimed.1.findings fun _ => htimed.2.1 ▸ nofun
  | wait =>
    exact htimed.elim
  | turn | receive =>
    exact htimed.2.1 ▸ htimed.1.findings
  | finished result =>
    cases htimed with
    | overflown hlooks hanswer _ => exact hlooks ▸ hanswer ▸ findings_nil
    | unlooked hseeking _ => exact hseeking.findings
    | missed hmissed hanswer _ _ => exact hmissed.findings fun _ => hanswer ▸ nofun
    | found hfound hanswer _ _ => exact hanswer ▸ hfound.findings

theorem InTime.polls_le (h : w.InTime limit) : w.polls ≤ intervals limit + 1 := by
  have htimed := h.timed
  have hcount := h.findings.count
  generalize w.phase = phase at htimed
  cases phase with
  | begin =>
    exact htimed.2.2.2 ▸ Nat.zero_le _
  | look | rest =>
    exact htimed.2 ▸ hcount
  | check =>
    obtain ⟨⟨-, d, -, hvain, -⟩, hpolls⟩ := htimed
    exact hpolls ▸ Nat.succ_le_succ hvain.count
  | kill =>
    exact htimed.2.2 ▸ hcount
  | reap | turn | receive =>
    exact htimed.2.2.1 ▸ hcount
  | wait =>
    exact htimed.elim
  | finished result =>
    cases htimed with
    | overflown _ _ hpolls => exact hpolls ▸ Nat.zero_le _
    | unlooked hseeking hpolls =>
      obtain ⟨-, d, -, hvain, -⟩ := hseeking
      exact hpolls ▸ Nat.succ_le_succ hvain.count
    | missed _ _ _ hpolls | found _ _ _ hpolls => exact hpolls ▸ hcount

theorem InTime.late (h : w.InTime limit) {look : Look} {d : ℕ} (hlook : look ∈ w.looks)
    (hnone : look.found = none) (hd : d ∈ w.deadline) (hlate : d ≤ look.reading) :
    w.answer = some none ∨ w.phase = .kill ∨ w.phase = .reap := by
  have hseeking {instant : ℕ} (h : Seeking limit w.deadline w.looks w.answer instant) : False := by
    obtain ⟨-, d', hd', hvain, -⟩ := h
    obtain rfl := Option.some.inj (hd.symm.trans hd')
    exact absurd hlate (Nat.not_le_of_lt (hvain.early look hlook).2)
  have hfound {status : ExitStatus} (h : Found limit w.deadline w.looks status) : False := by
    obtain ⟨d', hd', last, hlast, hsome⟩ := h
    obtain rfl := Option.some.inj (hd.symm.trans hd')
    rcases hlast.mem_cases hlook with hearly | rfl
    · exact absurd hlate (Nat.not_le_of_lt hearly.2)
    · exact nomatch hnone.symm.trans hsome
  have htimed := h.timed
  generalize w.phase = phase at htimed
  cases phase with
  | begin =>
    rw [htimed.2.1] at hlook
    cases hlook
  | look | check | rest => exact (hseeking htimed.1).elim
  | kill => exact .inr (.inl rfl)
  | reap => exact .inr (.inr rfl)
  | wait => exact htimed.elim
  | turn | receive => exact (hfound htimed.1).elim
  | finished result =>
    cases htimed with
    | overflown hlooks _ _ =>
      rw [hlooks] at hlook
      cases hlook
    | unlooked h _ => exact (hseeking h).elim
    | missed _ hanswer _ _ => exact .inl hanswer
    | found h _ _ _ => exact (hfound h).elim

theorem InTime.reaped_of_missed (h : w.InTime limit) (hanswer : w.answer = some none) :
    ∃ status, w.child = .reaped status := by
  have htimed := h.timed
  generalize w.phase = phase at htimed
  cases phase with
  | begin => exact nomatch htimed.2.2.1.symm.trans hanswer
  | look | check | rest => exact nomatch htimed.1.answer.symm.trans hanswer
  | kill | reap | turn | receive => exact nomatch htimed.2.1.symm.trans hanswer
  | wait => exact htimed.elim
  | finished result =>
    cases htimed with
    | overflown _ hnone _ => exact nomatch hnone.symm.trans hanswer
    | unlooked h _ => exact nomatch h.answer.symm.trans hanswer
    | missed _ _ hchild _ => exact ⟨_, hchild⟩
    | found _ hsome _ _ => exact nomatch hsome.symm.trans hanswer

theorem InTime.reaped_of_timedOut (h : w.InTime limit) {name : String} {l : Duration}
    (hfinished : w.phase = .finished (.error (.timedOut name l))) :
    ∃ status, w.child = .reaped status := by
  have htimed := h.timed
  rw [hfinished] at htimed
  generalize hresult : Except.error (LaunchError.timedOut name l) = result at htimed
  cases htimed with
  | overflown | unlooked => cases hresult
  | missed _ _ hchild _ | found _ _ hchild _ => exact ⟨_, hchild⟩

end findings

end Watch

end Crosscheck
