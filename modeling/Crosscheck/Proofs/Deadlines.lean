import Crosscheck.Proofs.Looks

/-!
# Waiting within a time limit

Each thing the runner does leaves less for it to do (`remaining_lt`), and within a time limit there
is something it can do as soon as the instant has come that it rests or waits for (`exists_move`).
So it comes to an end, however the child behaves, after a number of looks that the limit alone
decides; and where the time is up nothing runs any more. Without a limit it may wait for what never
happens, but nothing else keeps it from an end.
-/

namespace Crosscheck

namespace Watch

/-- How often the runner has done something in the course of some events. -/
def moves (events : List Event) : ℕ := events.countP fun e => !e.isOutside

/-- How often the runner has still something to do, at most. -/
def remaining (limit : Duration) (w : Watch) : ℕ :=
  match w.phase with
  | .begin => 3 * intervals limit + 6
  | .look => 3 * (intervals limit - w.looks.length) + 5
  | .check => 3 * (intervals limit - w.looks.length) + 4
  | .rest _ => 3 * (intervals limit - w.looks.length) + 6
  | .turn _ .first => 4
  | .receive _ .first _ => 3
  | .kill | .turn _ (.second _) => 2
  | .reap | .receive _ (.second _) _ => 1
  | .wait => 5
  | .finished _ => 0

/-- Something that is kept whatever happens, with a rank that falls whenever the runner does
something. -/
structure Paced (P : Watch → Prop) (rank : Watch → ℕ) : Prop where
  kept {e : Event} {w w' : Watch} (h : P w) (hmove : w.Moved e w') : P w'
  falls {e : Event} {w w' : Watch} (h : P w) (hmove : w.Moved e w') :
    moves [e] + rank w' ≤ rank w

section inTime

variable {limit : Duration} {e : Event} {w w' : Watch}

theorem remaining_leave_lt {status : ExitStatus} {place : Place} {due : Option ℕ}
    (hphase : w.phase = .receive status place due) (got : Option Bytes) :
    (w.leave status place got).remaining limit < w.remaining limit := by
  cases place <;> simp [remaining, leave, hphase]

theorem remaining_failWith_lt {status : ExitStatus} {place : Place} {due : Option ℕ}
    (hphase : w.phase = .receive status place due) (error : LaunchError) :
    (w.failWith error).remaining limit < w.remaining limit := by
  cases place <;> simp [remaining, failWith, hphase]

/-- Whatever the runner does, there is less to do afterwards. -/
theorem Moved.remaining_lt (hmove : w.Moved e w') (he : e.isOutside = false)
    (hbegin : w.phase = .begin → w.looks = [])
    (hearly : w.phase = .check → w.isLate = false → w.looks.length < intervals limit) :
    w'.remaining limit < w.remaining limit := by
  cases hmove with
  | on | exited | passed => cases he
  | overflown hphase | unlooked hphase | unwaited hphase => simp [remaining, failWith, hphase]
  | limited hphase => simp [remaining, hphase, hbegin hphase]
  | found hphase | waited hphase => simp [remaining, toStreams, hphase]
  | missed hphase | late hphase | rested hphase | killed hphase | reaped hphase =>
    simp [remaining, hphase]
  | unlimited hphase =>
    simp only [remaining, hphase]
    omega
  | early hphase hlate =>
    have hroom := hearly hphase hlate
    simp only [remaining, hphase, length_note]
    omega
  | @turned status place hphase => cases place <;> simp [remaining, hphase]
  | received hphase | gaveUp hphase => exact remaining_leave_lt hphase _
  | unreadable hphase | lost hphase => exact remaining_failWith_lt hphase _

theorem Continues.remaining_eq (h : w.Continues w') :
    w'.remaining limit = w.remaining limit := by
  rw [remaining, remaining, h.phase, h.looks]

theorem Moved.moves_add_remaining_le (hmove : w.Moved e w')
    (hbegin : w.phase = .begin → w.looks = [])
    (hearly : w.phase = .check → w.isLate = false → w.looks.length < intervals limit) :
    moves [e] + w'.remaining limit ≤ w.remaining limit := by
  cases he : e.isOutside with
  | true =>
    rw [(hmove.continues he).remaining_eq, moves, List.countP_singleton, he]
    exact (Nat.zero_add _).le
  | false =>
    rw [moves, List.countP_singleton, he, Nat.add_comm]
    exact hmove.remaining_lt he hbegin hearly

theorem InTime.moves_add_remaining_le (h : w.InTime limit) (hmove : w.Moved e w') :
    moves [e] + w'.remaining limit ≤ w.remaining limit := by
  have htimed := h.timed
  refine hmove.moves_add_remaining_le (fun hphase => ?_) (fun hphase hlate => ?_)
  · rw [hphase] at htimed
    exact htimed.2.1
  · rw [hphase] at htimed
    obtain ⟨-, d, -, hvain, -⟩ := seeking_early htimed.1 hlate
    have hcount := hvain.count
    rwa [length_note] at hcount

theorem paced_inTime : Paced (InTime limit) (remaining limit) :=
  ⟨fun h hmove => h.move hmove, fun h hmove => h.moves_add_remaining_le hmove⟩

theorem isSome_move_of_act (h : w.act.isSome = true) : w.move?.isSome = true := by
  rw [move?, if_pos h]
  rfl

theorem isSome_move_of_giveUp (h : (w.step .giveUp).isSome = true) : w.move?.isSome = true := by
  rw [move?, if_pos h]
  split <;> rfl

theorem isSome_giveUp {status : ExitStatus} {place : Place} {due : ℕ}
    (hphase : w.phase = .receive status place (some due)) (hdue : due ≤ w.clock) :
    (w.step .giveUp).isSome = true := by
  simp only [step, hphase, if_pos hdue]
  rfl

/-- Whoever rests or waits until an instant can do something once it has come. -/
theorem isSome_move_of_wake {wake : ℕ} (h : wake ∈ w.wake) (hwake : wake ≤ w.clock) :
    w.move?.isSome = true := by
  unfold Watch.wake at h
  split at h
  · next hphase =>
    obtain rfl := Option.some.inj h
    apply isSome_move_of_act
    simp only [act, hphase, if_pos hwake]
    rfl
  · next status place due hphase =>
    obtain rfl := Option.mem_def.1 h
    exact isSome_move_of_giveUp (isSome_giveUp hphase hwake)
  · cases h

/-- Once the instant has come that it rests or waits for, there is something the runner can do. -/
theorem InTime.exists_move (h : w.InTime limit) (hfinished : ∀ result, w.phase ≠ .finished result)
    (hwake : ∀ wake ∈ w.wake, wake ≤ w.clock) : w.move?.isSome = true := by
  have htimed := h.timed
  generalize hphase : w.phase = phase at htimed
  cases phase with
  | begin =>
    apply isSome_move_of_act
    simp only [act, hphase, h.limit]
    split <;> rfl
  | look =>
    apply isSome_move_of_act
    simp only [act, hphase]
    split <;> rfl
  | check | kill | turn =>
    apply isSome_move_of_act
    simp only [act, hphase]
    rfl
  | rest wake =>
    have hmem : wake ∈ w.wake := by
      rw [Watch.wake, hphase]
      rfl
    exact isSome_move_of_wake hmem (hwake wake hmem)
  | reap =>
    apply isSome_move_of_act
    simp only [act, hphase, Option.isSome_map, htimed.2.2.2]
  | wait =>
    exact htimed.elim
  | receive status place due =>
    obtain ⟨-, -, -, -, d, -, instant, -, rfl⟩ := htimed
    have hmem : max instant d ∈ w.wake := by
      rw [Watch.wake, hphase]
      rfl
    exact isSome_move_of_wake hmem (hwake _ hmem)
  | finished result => exact absurd hphase (hfinished result)

end inTime

section play

/-- There is something to do at once. -/
def IsReady (w : Watch) (agenda : Agenda) : Prop :=
  (∃ p ∈ agenda.head?, p.1 ≤ w.clock) ∨ w.move?.isSome = true

/-- Nothing will happen any more, and the runner waits. -/
structure Stuck (w : Watch) (agenda : Agenda) : Prop where
  unfinished : ∀ result, w.phase ≠ .finished result
  next : w.next agenda = none

variable {P : Watch → Prop} {rank : Watch → ℕ} {e : Event} {w w' : Watch} {agenda later : Agenda}

theorem Paced.run (hp : Paced P rank) (h : P w) {events : List Event}
    (hrun : w.run events = some w') : P w' ∧ moves events + rank w' ≤ rank w := by
  refine run_induction (P := fun events w' => P w' ∧ moves events + rank w' ≤ rank w)
    ⟨h, (Nat.zero_add _).le⟩ ?_ hrun
  intro events e w₁ w₂ ⟨hkept, hrest⟩ hmove
  refine ⟨hp.kept hkept hmove, ?_⟩
  have hless := hp.falls hkept hmove
  have hsnoc : moves (events ++ [e]) = moves events + moves [e] := List.countP_append
  omega

theorem Paced.getD_step (hp : Paced P rank) (h : P w) (e : Event) :
    P ((w.step e).getD w) ∧ rank ((w.step e).getD w) ≤ rank w := by
  cases hstep : w.step e with
  | none => exact ⟨h, le_rfl⟩
  | some w' =>
    have hmove := moved_of_step hstep
    exact ⟨hp.kept h hmove, le_of_add_le_right (hp.falls h hmove)⟩

theorem step_of_move (h : w.move? = some e) :
    e.isOutside = false ∧ ∃ w', w.step e = some w' := by
  unfold move? at h
  split at h
  · next hact => exact Option.some.inj h ▸ ⟨rfl, Option.isSome_iff_exists.1 hact⟩
  · split at h
    · next hgiveUp => exact Option.some.inj h ▸ ⟨rfl, Option.isSome_iff_exists.1 hgiveUp⟩
    · cases h

theorem Paced.next_move (hp : Paced P rank) (h : P w) (hmove : w.move?.isSome = true) :
    ∃ e, next.move w agenda = some (e, agenda) ∧ P ((w.step e).getD w) ∧
      rank ((w.step e).getD w) < rank w := by
  obtain ⟨e, he⟩ := Option.isSome_iff_exists.1 hmove
  obtain ⟨hinside, w', hstep⟩ := step_of_move he
  refine ⟨e, by rw [next.move, he], (hp.getD_step h e).1, ?_⟩
  have hfalls := hp.falls h (moved_of_step hstep)
  rw [moves, List.countP_singleton, hinside] at hfalls
  rw [hstep, Option.getD_some]
  exact Nat.lt_of_succ_le ((Nat.add_comm _ _).trans_le hfalls)

/-- What is done at once leaves less to do. -/
theorem Paced.next_of_isReady (hp : Paced P rank) (h : P w) (hready : w.IsReady agenda) :
    ∃ e later, w.next agenda = some (e, later) ∧ P ((w.step e).getD w) ∧
      later.length + rank ((w.step e).getD w) < agenda.length + rank w := by
  have hmove (hmove : w.move?.isSome = true) (hnext : w.next agenda = next.move w agenda) :
      ∃ e later, w.next agenda = some (e, later) ∧ P ((w.step e).getD w) ∧
        later.length + rank ((w.step e).getD w) < agenda.length + rank w := by
    obtain ⟨e, he, hkept, hless⟩ := hp.next_move h hmove
    exact ⟨e, agenda, hnext.trans he, hkept, Nat.add_lt_add_left hless _⟩
  cases agenda with
  | nil => exact hmove (hready.resolve_left nofun) rfl
  | cons p later =>
    by_cases hdue : p.1 ≤ w.clock
    · obtain ⟨hkept, hless⟩ := hp.getD_step h p.2
      refine ⟨p.2, later, if_pos hdue, hkept, ?_⟩
      rw [List.length_cons]
      omega
    · refine hmove (hready.resolve_left ?_) (if_neg hdue)
      rintro ⟨p', hp', hdue'⟩
      exact hdue (Option.some.inj hp' ▸ hdue')

theorem isReady_of_nextInstant {instant : ℕ} (h : w.nextInstant agenda = some instant)
    (hinstant : instant ≤ w.clock) : w.IsReady agenda := by
  unfold nextInstant at h
  split at h
  · next first e wake hhead hwake =>
    obtain rfl := Option.some.inj h
    obtain hfirst | hlater := min_le_iff.1 hinstant
    · exact .inl ⟨_, hhead, hfirst⟩
    · exact .inr (isSome_move_of_wake hwake hlater)
  · next first e hhead hwake =>
    obtain rfl := Option.some.inj h
    exact .inl ⟨_, hhead, hinstant⟩
  · exact .inr (isSome_move_of_wake h hinstant)

theorem next_of_not_isReady (hready : ¬ w.IsReady agenda) :
    w.next agenda =
      (w.nextInstant agenda).map fun instant => (.pass (instant - w.clock), agenda) := by
  obtain ⟨hhead, hmove⟩ := not_or.1 hready
  have hnext : next.move w agenda =
      (w.nextInstant agenda).map fun instant => (.pass (instant - w.clock), agenda) := by
    rw [next.move, Option.not_isSome_iff_eq_none.1 hmove]
  cases agenda with
  | nil => exact hnext
  | cons p later => exact (if_neg fun hdue => hhead ⟨p, rfl, hdue⟩).trans hnext

/-- Where there is nothing to do at once the clock goes on until there is, if there ever is. -/
theorem isReady_of_pass (hready : ¬ w.IsReady agenda) :
    w.next agenda = none ∨ ∃ nanoseconds, w.next agenda = some (.pass nanoseconds, agenda) ∧
      IsReady { w with clock := w.clock + nanoseconds } agenda := by
  rw [next_of_not_isReady hready]
  cases hinstant : w.nextInstant agenda with
  | none => exact .inl rfl
  | some instant =>
    refine .inr ⟨instant - w.clock, rfl, ?_⟩
    have hsame : nextInstant { w with clock := w.clock + (instant - w.clock) } agenda =
        some instant := hinstant
    exact isReady_of_nextInstant hsame le_add_tsub

/-- A runner who loses no time comes to an end, or to wait for what will never happen. -/
def Resolves (fuel : ℕ) (w : Watch) (agenda : Agenda) : Prop :=
  (∃ w', play fuel w agenda = some w') ∨
    ∃ w' later, (∃ events, w.run events = some w') ∧ w'.Stuck later

theorem Resolves.of_next {fuel : ℕ} (h : Resolves fuel ((w.step e).getD w) later)
    (hunfinished : ∀ result, w.phase ≠ .finished result)
    (hnext : w.next agenda = some (e, later)) : Resolves (fuel + 1) w agenda := by
  have hplay : play (fuel + 1) w agenda = play fuel ((w.step e).getD w) later := by
    rw [play]
    split
    · next result hphase => exact absurd hphase (hunfinished result)
    · rw [hnext]
  obtain hplayed | ⟨w', last, hrun, hstuck⟩ := h
  · exact .inl (hplay ▸ hplayed)
  · exact .inr ⟨w', last, exists_run_of_getD_step e hrun, hstuck⟩

theorem Paced.resolves (hp : Paced P rank) (h : P w) {fuel : ℕ}
    (hfuel : 2 * (agenda.length + rank w) + 2 ≤ fuel) : Resolves fuel w agenda := by
  obtain ⟨n, hn⟩ : ∃ n, agenda.length + rank w = n := ⟨_, rfl⟩
  induction n using Nat.strong_induction_on generalizing w agenda fuel with
  | _ n ih =>
    have hresolves {w : Watch} {fuel : ℕ} (h : P w)
        (hunfinished : ∀ result, w.phase ≠ .finished result) (hready : w.IsReady agenda)
        (hn : agenda.length + rank w ≤ n) (hfuel : 2 * n + 1 ≤ fuel) :
        Resolves fuel w agenda := by
      obtain ⟨e, later, hnext, hkept, hless⟩ := hp.next_of_isReady h hready
      obtain ⟨fuel, rfl⟩ := Nat.exists_eq_succ_of_ne_zero (by omega : fuel ≠ 0)
      exact (ih _ (hless.trans_le hn) hkept (by omega) rfl).of_next hunfinished hnext
    obtain ⟨fuel, rfl⟩ := Nat.exists_eq_succ_of_ne_zero (by omega : fuel ≠ 0)
    by_cases hfinished : ∃ result, w.phase = .finished result
    · obtain ⟨result, hphase⟩ := hfinished
      exact .inl ⟨w, by rw [play, hphase]⟩
    · have hunfinished := not_exists.1 hfinished
      by_cases hready : w.IsReady agenda
      · exact hresolves h hunfinished hready hn.le (by omega)
      · obtain hnone | ⟨nanoseconds, hnext, hready'⟩ := isReady_of_pass hready
        · exact .inr ⟨w, agenda, ⟨[], rfl⟩, hunfinished, hnone⟩
        · obtain ⟨hkept, hrank⟩ := hp.getD_step h (.pass nanoseconds)
          refine Resolves.of_next ?_ hunfinished hnext
          exact hresolves hkept hunfinished hready' (by omega) (by omega)

end play

section endless

/-- A watch without a limit. -/
structure Unhurried (w : Watch) : Prop where
  limit : w.limit = none
  deadline : w.deadline = none
  looks : w.looks = []
  phase : match w.phase with
    | .begin | .wait | .turn _ _ | .receive _ _ none | .finished _ => True
    | _ => False

variable {limit : Duration} {e : Event} {w w' : Watch} {agenda : Agenda}

theorem Unhurried.move (h : w.Unhurried) (hmove : w.Moved e w') : w'.Unhurried := by
  have hphase' := h.phase
  cases he : e.isOutside with
  | true =>
    have hw := hmove.continues he
    exact ⟨hw.limit.trans h.limit, hw.deadline.trans h.deadline, hw.looks.trans h.looks,
      hw.phase ▸ h.phase⟩
  | false =>
    cases hmove with
    | on | exited | passed => cases he
    | unlimited | waited | overflown | unreadable | lost | unwaited =>
      exact ⟨h.limit, h.deadline, h.looks, trivial⟩
    | limited hphase hlimit => cases hlimit.symm.trans h.limit
    | turned => exact ⟨h.limit, h.deadline, h.looks, by rw [h.deadline]; trivial⟩
    | @received status place => exact ⟨h.limit, h.deadline, h.looks, by cases place <;> trivial⟩
    | found hphase | missed hphase | late hphase | early hphase | rested hphase | killed hphase
    | reaped hphase | gaveUp hphase | unlooked hphase =>
      rw [hphase] at hphase'
      exact hphase'.elim

theorem paced_unhurried : Paced Unhurried (remaining ⟨0⟩) := by
  refine ⟨fun h hmove => h.move hmove, fun {e w w'} h hmove => ?_⟩
  refine hmove.moves_add_remaining_le (fun _ => h.looks) fun hphase => ?_
  have hphase' := h.phase
  rw [hphase] at hphase'
  exact hphase'.elim

theorem wake_eq_none (h : w.nextInstant agenda = none) : w.wake = none := by
  unfold nextInstant at h
  split at h
  · cases h
  · cases h
  · exact h

/-- Within a limit the runner never waits for what will not happen. -/
theorem InTime.not_stuck (h : w.InTime limit) : ¬ w.Stuck agenda := by
  rintro ⟨hunfinished, hnext⟩
  by_cases hready : w.IsReady agenda
  · obtain ⟨e, later, hsome, -⟩ := paced_inTime.next_of_isReady h hready
    cases hnext.symm.trans hsome
  · rw [next_of_not_isReady hready, Option.map_eq_none_iff] at hnext
    refine hready (.inr (h.exists_move hunfinished fun wake hwake => ?_))
    rw [wake_eq_none hnext] at hwake
    cases hwake

theorem intervals_le (limit : Duration) :
    intervals limit ≤ limit.nanoseconds / pollInterval + 1 := by
  rw [intervals, Nat.ceilDiv_eq_add_pred_div]
  have hpos : 0 < pollInterval := by decide
  exact (Nat.div_le_div_right (Nat.sub_le _ _)).trans_eq (Nat.add_div_right _ hpos)

/-- As many events as there can be are enough. -/
theorem resolves_launch (program : String) (start : ℕ) (limit : Option Duration)
    (agenda : Agenda) : Resolves (enough limit agenda) (launch program start limit) agenda := by
  cases limit with
  | none =>
    refine paced_unhurried.resolves ⟨rfl, rfl, rfl, trivial⟩ ?_
    have hnone : intervals ⟨0⟩ = 0 := zero_ceilDiv _
    simp only [remaining, launch, hnone]
    exact le_rfl
  | some l =>
    refine paced_inTime.resolves (inTime_launch program start) ?_
    have hle := intervals_le l
    simp only [remaining, launch, enough, Option.map_some, Option.getD_some]
    omega

end endless

end Watch

/-- Where waiting has no end there is no limit, and in the end nothing will happen any more. -/
theorem Child.await_eq_none {c : Child} {program : String} {start : ℕ} {limit : Option Duration}
    (h : c.await program start limit = none) :
    limit = none ∧ ∃ events w later,
      (Watch.launch program start limit).run events = some w ∧ w.Stuck later := by
  obtain ⟨w, hplay⟩ | ⟨w, later, ⟨events, hrun⟩, hstuck⟩ :=
    Watch.resolves_launch program start limit c.agenda
  · obtain ⟨-, result, hfinished⟩ := Watch.exists_run_of_play hplay
    rw [await, hplay] at h
    simp only [Option.bind_eq_bind, Option.bind_some, hfinished] at h
    cases h
  · refine ⟨?_, events, w, later, hrun, hstuck⟩
    cases limit with
    | none => rfl
    | some l =>
      obtain ⟨htime, -⟩ := Watch.paced_inTime.run (Watch.inTime_launch program start) hrun
      exact absurd hstuck htime.not_stuck

/-- With a limit every child is waited for to an end. -/
theorem Child.exists_await (c : Child) (program : String) (start : ℕ) (limit : Duration) :
    ∃ result instant, c.await program start (some limit) = some (result, instant) := by
  cases h : c.await program start (some limit) with
  | none => exact nomatch (c.await_eq_none h).1
  | some ending => exact ⟨ending.1, ending.2, rfl⟩

namespace Watch

/-- Waiting is bounded, and a child that is given up runs no more. -/
structure Bounded (l : Duration) (events : List Event) (w : Watch) : Prop where
  polls : w.polls ≤ intervals l + 1
  moves : moves events ≤ 3 * intervals l + 6
  /-- Unless all is over there is something that the runner can do, now or when the instant comes
  that it rests or waits for. -/
  goesOn : (∀ result, w.phase ≠ .finished result) →
    ∃ w', w.step (.pass (w.wake.getD 0 - w.clock)) = some w' ∧ w'.move?.isSome = true
  /-- No look follows the one that finds the status, nor the first one at the deadline or later. -/
  early : ∀ look ∈ w.looks.dropLast, look.found = none ∧ ∃ d ∈ w.deadline, look.reading < d
  found : ∀ status, w.answer = some (some status) ↔ ∃ look ∈ w.looks, look.found = some status
  /-- After a look in vain at the deadline or later the runner only kills and reaps the child. -/
  late : ∀ look ∈ w.looks, look.found = none → (∃ d ∈ w.deadline, d ≤ look.reading) →
    w.answer = some none ∨ w.phase = .kill ∨ w.phase = .reap
  missed : w.answer = some none → (∀ look ∈ w.looks, look.found = none) ∧
    (∃ look ∈ w.looks, ∃ d ∈ w.deadline, d ≤ look.reading) ∧ ∃ status, w.child = .reaped status
  /-- Past the deadline nothing keeps the runner with a stream. -/
  stream : ∀ status place due, w.phase = .receive status place due → w.isLate = true →
    (w.step .giveUp).isSome = true
  timedOut : ∀ name l', w.phase = .finished (.error (.timedOut name l')) →
    ∃ status, w.child = .reaped status

theorem InTime.goesOn {limit : Duration} {w : Watch} (h : w.InTime limit)
    (hfinished : ∀ result, w.phase ≠ .finished result) :
    ∃ w', w.step (.pass (w.wake.getD 0 - w.clock)) = some w' ∧ w'.move?.isSome = true := by
  refine ⟨_, rfl, (h.move (.passed _)).exists_move hfinished fun wake hwake => ?_⟩
  have hsame : w.wake = some wake := hwake
  rw [hsame, Option.getD_some]
  exact le_add_tsub

theorem InTime.isSome_giveUp_of_isLate {limit : Duration} {w : Watch} (h : w.InTime limit)
    {status : ExitStatus} {place : Place} {due : Option ℕ}
    (hphase : w.phase = .receive status place due) (hlate : w.isLate = true) :
    (w.step .giveUp).isSome = true := by
  have htimed := h.timed
  rw [hphase] at htimed
  obtain ⟨-, -, -, -, d, hd, instant, hinstant, rfl⟩ := htimed
  rw [isLate_eq hd, decide_eq_true_iff] at hlate
  exact isSome_giveUp hphase (max_le hinstant hlate)

/-- Waiting is bounded in every run, whatever the child does; and for every child a runner who loses
no time comes to an end. -/
theorem wait_bounded (program : String) (start : ℕ) (limit : Duration) :
    (∀ events w, (launch program start (some limit)).run events = some w →
      w.Bounded limit events) ∧
    ∀ c : Child, ∃ result instant, c.await program start (some limit) = some (result, instant) := by
  refine ⟨fun events w hrun => ?_, fun c => c.exists_await program start limit⟩
  obtain ⟨htime, hmoves⟩ := paced_inTime.run (inTime_launch program start) hrun
  have hfindings := htime.findings
  exact {
    polls := htime.polls_le
    moves := le_of_add_le_left hmoves
    goesOn := htime.goesOn
    early := hfindings.early
    found := hfindings.found
    late := fun look hlook hnone ⟨d, hd, hlate⟩ => htime.late hlook hnone hd hlate
    missed := fun hanswer =>
      ⟨(hfindings.missed hanswer).1, (hfindings.missed hanswer).2, htime.reaped_of_missed hanswer⟩
    stream := fun _ _ _ hphase hlate => htime.isSome_giveUp_of_isLate hphase hlate
    timedOut := fun _ _ hfinished => htime.reaped_of_timedOut hfinished }

/-- A child that never exits, and a limit of one interval and a half: the third look is the last. -/
theorem wait_bounded_tight :
    let limit : Duration := .ofMilliseconds 30
    let events : List Event :=
      [.act, .act, .act, .pass pollInterval, .act, .act, .act, .pass pollInterval, .act, .act, .act,
        .act, .act]
    ∃ w, (launch "tool" 0 (some limit)).run events = some w ∧ w.polls = 3 ∧
      intervals limit + 1 = 3 ∧ w.answer = some none ∧
      w.child = .reaped (.killed Life.killSignal) ∧ w.Bounded limit events := by
  intro limit events
  have hrun : ((launch "tool" 0 (some limit)).run events).map
      (fun w => (w.polls, w.answer, w.child)) =
        some (3, some none, .reaped (.killed Life.killSignal)) := by decide +kernel
  obtain ⟨w, hw, hfields⟩ := Option.map_eq_some_iff.1 hrun
  obtain ⟨hpolls, hanswer, hchild⟩ : w.polls = 3 ∧ w.answer = some none ∧
      w.child = .reaped (.killed Life.killSignal) := by simpa using hfields
  have hintervals : intervals limit = 2 := (Nat.ceilDiv_eq_add_pred_div _ _).trans (by decide)
  exact ⟨w, hw, hpolls, congrArg Nat.succ hintervals, hanswer, hchild,
    (wait_bounded "tool" 0 limit).1 events w hw⟩

end Watch

end Crosscheck
