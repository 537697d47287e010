import Crosscheck.Machine.Launching
import Crosscheck.Options
import Crosscheck.Proofs.Deadlines
import Crosscheck.Proofs.Requirements
import Crosscheck.Proofs.Verdict

/-!
# Time limits beyond the clock

The end of a time limit is found out after the child is launched, and the clock may have no instant
for it. Then the wait is over at once and nothing is done about the child. This is so exactly if the
limit reaches beyond the last instant of the clock; every other wait with a limit comes to a capture
or to an error, and a wait without a limit never ends this way. The command line takes limits beyond
the clock.
-/

namespace Crosscheck

namespace Watch

/-- A limit that starts at an instant and ends after the last one of the clock. -/
def Beyond (limit : Option Duration) (start : ℕ) : Prop :=
  ∃ l ∈ limit, lastInstant < start + l.nanoseconds

/-- The end of the wait that comes of a limit beyond the clock. -/
def Overflown (w : Watch) : Prop := w.phase = .finished (.error .deadlineOverflow)

/-- Nothing has been done about the child. -/
structure Unattended (w : Watch) : Prop where
  looks : w.looks = []
  polls : w.polls = 0
  answer : w.answer = none
  left : ∀ status, w.child ≠ .reaped status

/-- What is known as long as the end of the limit is not found out, and where there is none. -/
structure Outset (events : List Event) (w : Watch) : Prop where
  begun : w.phase = .begin → moves events = 0 ∧ w.Unattended
  overflown : w.Overflown → moves events = 1 ∧ w.Unattended ∧ Beyond w.limit w.clock

section moves

variable {limit : Option Duration} {program : String} {start instant : ℕ} {events : List Event}
  {e : Event} {w w' : Watch}

theorem Beyond.later (h : Beyond limit start) (hle : start ≤ instant) : Beyond limit instant := by
  obtain ⟨l, hl, hlast⟩ := h
  exact ⟨l, hl, hlast.trans_le (Nat.add_le_add_right hle _)⟩

theorem beyond_some_iff {l : Duration} : Beyond (some l) start ↔ deadline? start l = none := by
  rw [deadline?_eq_none_iff, Beyond]
  exact ⟨fun ⟨l', hl', hlast⟩ => Option.some.inj hl' ▸ hlast, fun hlast => ⟨l, rfl, hlast⟩⟩

theorem Moved.clock_le (h : w.Moved e w') : w.clock ≤ w'.clock := by
  cases he : e.isOutside with
  | true => exact (h.continues he).clock
  | false =>
    cases h with
    | on | exited | passed => cases he
    | _ => exact le_rfl

theorem clock_le_of_run (h : w.run events = some w') : w.clock ≤ w'.clock :=
  run_induction (P := fun _ w' => w.clock ≤ w'.clock) le_rfl
    (fun _ _ _ _ hle hmove => hle.trans hmove.clock_le) h

theorem moves_snoc (events : List Event) (e : Event) :
    moves (events ++ [e]) = moves events + if e.isOutside then 0 else 1 := by
  rw [moves, List.countP_append, List.countP_singleton, moves]
  cases e.isOutside <;> rfl

theorem Unattended.outside (h : w.Unattended) (hmove : w.Moved e w') (he : e.isOutside = true) :
    w'.Unattended := by
  have hw := hmove.continues he
  refine ⟨hw.looks.trans h.looks, hw.polls.trans h.polls, hw.answer.trans h.answer, ?_⟩
  cases hmove with
  | on => simpa using h.left
  | exited => exact nofun
  | passed => exact h.left
  | _ => cases he

theorem not_overflown_leave (status : ExitStatus) (place : Place) (got : Option Bytes) :
    ¬(w.leave status place got).Overflown := by
  intro h
  cases place with
  | first => cases h
  | second stdout => cases stdout <;> cases got <;> cases h

/-- Whatever the runner does, the end of the limit is found out then; and only finding it out makes
a wait overflow. -/
theorem Moved.begun_or (h : w.Moved e w') (he : e.isOutside = false) :
    w'.phase ≠ .begin ∧ (w'.Overflown → w.phase = .begin ∧ Beyond w.limit w.clock ∧
      w' = w.failWith .deadlineOverflow) := by
  cases h with
  | on | exited | passed => cases he
  | overflown hphase hlimit hdeadline =>
    exact ⟨nofun, fun _ => ⟨hphase, hlimit ▸ beyond_some_iff.2 hdeadline, rfl⟩⟩
  | @received status place | @gaveUp status place =>
    refine ⟨?_, fun h => (not_overflown_leave status place _ h).elim⟩
    cases place <;> nofun
  | _ => exact ⟨nofun, fun h => nomatch h⟩

theorem outset_launch : (launch program start limit).Outset [] :=
  ⟨fun _ => ⟨rfl, rfl, rfl, rfl, nofun⟩, nofun⟩

theorem Outset.move (h : w.Outset events) (hmove : w.Moved e w') : w'.Outset (events ++ [e]) := by
  cases he : e.isOutside with
  | true =>
    have hw := hmove.continues he
    have hmoves : moves (events ++ [e]) = moves events := by
      rw [moves_snoc, if_pos he, Nat.add_zero]
    refine ⟨fun hphase => ?_, fun hover => ?_⟩
    · obtain ⟨hnone, hunattended⟩ := h.begun (hw.phase ▸ hphase)
      exact ⟨hmoves.trans hnone, hunattended.outside hmove he⟩
    · have hover' : w.Overflown := hw.phase.symm.trans hover
      obtain ⟨hone, hunattended, hbeyond⟩ := h.overflown hover'
      exact ⟨hmoves.trans hone, hunattended.outside hmove he, hw.limit ▸ hbeyond.later hw.clock⟩
  | false =>
    have hmoves : moves (events ++ [e]) = moves events + 1 := by
      rw [moves_snoc, he, if_neg Bool.false_ne_true]
    obtain ⟨hbegun, hoverflown⟩ := hmove.begun_or he
    refine ⟨fun hphase => absurd hphase hbegun, fun hover => ?_⟩
    obtain ⟨hphase, hbeyond, rfl⟩ := hoverflown hover
    obtain ⟨hnone, hunattended⟩ := h.begun hphase
    refine ⟨by rw [hmoves, hnone], ?_, hbeyond⟩
    exact ⟨hunattended.looks, hunattended.polls, hunattended.answer, hunattended.left⟩

theorem outset_run (h : (launch program start limit).run events = some w) : w.Outset events :=
  run_induction (P := fun events w => w.Outset events) outset_launch
    (fun _ _ _ _ h hmove => h.move hmove) h

/-- With a limit beyond the clock the runner does nothing but find that out. -/
theorem Moved.overflown_of_beyond (h : w.Moved e w') (he : e.isOutside = false)
    (hbeyond : Beyond w.limit w.clock) (hphase : w.phase = .begin ∨ w.Overflown) :
    w'.Overflown := by
  cases h with
  | on | exited | passed => cases he
  | overflown => rfl
  | unlimited _ hlimit =>
    obtain ⟨l, hl, -⟩ := hbeyond
    cases hlimit.symm.trans hl
  | limited _ hlimit hdeadline =>
    rw [hlimit, beyond_some_iff] at hbeyond
    cases hbeyond.symm.trans hdeadline
  | found h | missed h | late h | early h | rested h | killed h | reaped h | waited h | turned h
  | received h | unreadable h | lost h | gaveUp h | unlooked h | unwaited h =>
    rcases hphase with hphase | hphase <;> cases h.symm.trans hphase

theorem overflown_of_beyond (hbeyond : Beyond limit start)
    (h : (launch program start limit).run events = some w) : w.phase = .begin ∨ w.Overflown := by
  refine (run_induction (P := fun _ w => Beyond w.limit w.clock ∧ (w.phase = .begin ∨ w.Overflown))
    ⟨hbeyond, .inl rfl⟩ (fun events e w₁ w₂ ⟨hbeyond, hphase⟩ hmove => ?_) h).2
  refine ⟨hmove.limit_eq ▸ hbeyond.later hmove.clock_le, ?_⟩
  cases he : e.isOutside with
  | true =>
    have hsame := (hmove.continues he).phase
    rwa [Overflown, hsame]
  | false => exact .inr (hmove.overflown_of_beyond he hbeyond hphase)

/-- Once the end of the limit is found out, no wait overflows. -/
theorem not_overflown_of_run (hbegun : w.phase ≠ .begin) (hover : ¬w.Overflown)
    (h : w.run events = some w') : ¬w'.Overflown := by
  refine (run_induction (P := fun _ w => w.phase ≠ .begin ∧ ¬w.Overflown) ⟨hbegun, hover⟩
    (fun events e w₁ w₂ ⟨hbegun, hover⟩ hmove => ?_) h).2
  cases he : e.isOutside with
  | true =>
    have hsame := (hmove.continues he).phase
    rw [Overflown, hsame]
    exact ⟨hbegun, hover⟩
  | false =>
    obtain ⟨hbegun', hoverflown⟩ := hmove.begun_or he
    exact ⟨hbegun', fun h => hbegun (hoverflown h).1⟩

/-- What the agenda of a child can hold. -/
def Event.isOfChild : Event → Bool
  | .on _ _ | .exit _ => true
  | _ => false

/-- What goes on with a child leaves the runner where it is, and takes no time. -/
theorem getD_step_of_isOfChild (he : e.isOfChild = true) :
    ((w.step e).getD w).phase = w.phase ∧ ((w.step e).getD w).limit = w.limit ∧
      ((w.step e).getD w).clock = w.clock := by
  cases hstep : w.step e with
  | none => exact ⟨rfl, rfl, rfl⟩
  | some w' =>
    rw [Option.getD_some]
    have hmove := moved_of_step hstep
    cases hmove with
    | @on s _ x => simp
    | exited => exact ⟨rfl, rfl, rfl⟩
    | _ => cases he

theorem isSome_act_of_begin (hbegin : w.phase = .begin) : w.act.isSome = true := by
  simp only [act, hbegin]
  split
  · rfl
  · split <;> rfl

/-- A runner who loses no time finds out the end of a limit at the instant of the launch. -/
theorem not_overflown_of_play {fuel : ℕ} {agenda : Agenda}
    (hchild : ∀ p ∈ agenda, p.2.isOfChild = true) (hbegin : w.phase = .begin)
    (hbeyond : ¬Beyond w.limit w.clock) (h : play fuel w agenda = some w') : ¬w'.Overflown := by
  induction fuel generalizing w agenda with
  | zero => cases h
  | succ fuel ih =>
    obtain ⟨w₁, hact⟩ := Option.isSome_iff_exists.1 (isSome_act_of_begin hbegin)
    have hmove : next.move w agenda = some (.act, agenda) := by
      rw [next.move, move?, hact]
      rfl
    have hinside (h : play fuel ((w.step .act).getD w) agenda = some w') : ¬w'.Overflown := by
      have hstep : w.step .act = some w₁ := hact
      obtain ⟨hbegun, hoverflown⟩ := (moved_of_step hstep).begun_or rfl
      rw [hstep, Option.getD_some] at h
      obtain ⟨⟨events, hrun⟩, -⟩ := exists_run_of_play h
      exact not_overflown_of_run hbegun (fun hover => hbeyond (hoverflown hover).2.1) hrun
    rw [play, hbegin] at h
    simp only at h
    cases agenda with
    | nil =>
      rw [next, hmove] at h
      exact hinside h
    | cons p later =>
      by_cases hdue : p.1 ≤ w.clock
      · rw [next, if_pos hdue] at h
        obtain ⟨hphase, hlimit, hclock⟩ :=
          getD_step_of_isOfChild (w := w) (hchild p List.mem_cons_self)
        refine ih (fun q hq => hchild q (List.mem_cons_of_mem p hq)) (hphase.trans hbegin) ?_ h
        rwa [hlimit, hclock]
      · rw [next, if_neg hdue, hmove] at h
        exact hinside h

end moves

end Watch

namespace Child

open Watch

theorem isOfChild_of_mem_agenda (c : Child) : ∀ p ∈ c.agenda, p.2.isOfChild = true := by
  have hstream (s : OutputStream) (name : StreamName) :
      ∀ p ∈ s.agenda name, p.2.isOfChild = true := by
    intro p hp
    simp only [OutputStream.agenda, List.mem_append, List.mem_flatMap, List.mem_map,
      List.mem_cons, List.not_mem_nil, or_false] at hp
    obtain (⟨write, -, rfl | rfl⟩ | ⟨instant, -, rfl⟩) | ⟨instant, -, rfl⟩ := hp <;> rfl
  intro p hp
  simp only [agenda, List.mem_mergeSort, List.mem_append, List.mem_map] at hp
  obtain (hp | hp) | ⟨exit, -, rfl⟩ := hp
  · exact hstream _ _ p hp
  · exact hstream _ _ p hp
  · rfl

/-- The wait for a child overflows exactly if its limit is beyond the clock at the launch. -/
theorem await_overflows_iff (c : Child) (program : String) (start : ℕ) (limit : Option Duration) :
    (∃ instant, c.await program start limit = some (.error .deadlineOverflow, instant)) ↔
      Beyond limit start := by
  constructor
  · rintro ⟨instant, hawait⟩
    by_contra hbeyond
    obtain ⟨w, hplay, hend⟩ := Option.bind_eq_some_iff.1 hawait
    have hover := not_overflown_of_play c.isOfChild_of_mem_agenda rfl hbeyond hplay
    split at hend
    · next result hphase =>
      cases hend
      exact hover hphase
    · cases hend
  · intro hbeyond
    obtain ⟨l, hl, -⟩ := id hbeyond
    obtain rfl := Option.mem_def.1 hl
    obtain ⟨result, instant, hawait⟩ := c.exists_await program start l
    obtain ⟨events, w, hrun, hphase, -⟩ := exists_run_of_await hawait
    refine ⟨instant, ?_⟩
    rcases overflown_of_beyond hbeyond hrun with hbegin | hover
    · cases hbegin.symm.trans hphase
    · cases hphase.symm.trans hover
      exact hawait

end Child

namespace Watch

/-- What becomes of a wait that starts at some instant, as to the end of its limit. If that is
beyond the clock then nothing but finding this out is ever done, whatever the child is; else the
wait does not overflow, if no time is lost. Wherever it overflows, that was all the runner did, and
nothing has been done about the child. -/
structure Foreseen (program : String) (start : ℕ) (limit : Option Duration) : Prop where
  halts : Beyond limit start → ∀ events w, (launch program start limit).run events = some w →
    w.phase = .begin ∨ w.Overflown
  left : ∀ events w, (launch program start limit).run events = some w → w.Overflown →
    Beyond limit w.clock ∧ moves events = 1 ∧ w.Unattended
  overflows_iff : ∀ c : Child,
    (∃ instant, c.await program start limit = some (.error .deadlineOverflow, instant)) ↔
      Beyond limit start
  ends : limit.isSome = true → ∀ c : Child, ∃ ending, c.await program start limit = some ending

theorem foreseen (program : String) (start : ℕ) (limit : Option Duration) :
    Foreseen program start limit where
  halts hbeyond _ _ hrun := overflown_of_beyond hbeyond hrun
  left events w hrun hover := by
    have hlimit : w.limit = limit :=
      run_induction (P := fun _ w => w.limit = limit) rfl
        (fun _ _ _ _ h hmove => hmove.limit_eq.trans h) hrun
    obtain ⟨hone, hunattended, hbeyond⟩ := (outset_run hrun).overflown hover
    exact ⟨hlimit ▸ hbeyond, hone, hunattended⟩
  overflows_iff c := c.await_overflows_iff program start limit
  ends hlimit c := by
    obtain ⟨l, rfl⟩ := Option.isSome_iff_exists.1 hlimit
    obtain ⟨result, instant, hawait⟩ := c.exists_await program start l
    exact ⟨_, hawait⟩

end Watch

namespace Machine

open Watch

/-- Whether the program of a command can be launched. -/
def Loads (w : World) (command : Command) : Prop :=
  ∃ image, Image.ofProgram w.files w.here w.searchPath command.program command.arguments =
    .ok image

theorem result_of_refused {w : World} {command : Command} {cause : OsError}
    (limit : Option Duration) (h : Image.ofProgram w.files w.here w.searchPath command.program
      command.arguments = .error cause) :
    (behaviour w command limit).result = .error (.ofRefusal command.program cause) := by
  simp only [behaviour, h]

/-- A program that can be launched is a child that is waited for. -/
theorem exists_child_of_loads {w : World} {command : Command} (limit : Option Duration)
    (h : Loads w command) : ∃ child : Child,
      (∀ ending, child.await command.programName w.clock limit = some ending →
        (behaviour w command limit).result = ending.1 ∧
        (behaviour w command limit).clock = ending.2) ∧
      (child.await command.programName w.clock limit = none →
        (behaviour w command limit).result = .error (.io (.code 4))) := by
  obtain ⟨image, himage⟩ := h
  refine ⟨(runTo w (limit.map (lastLook w.clock)) image).1, ?_⟩
  simp only [behaviour, himage]
  -- what the program does is not looked at, only how it is waited for
  generalize runTo w (limit.map (lastLook w.clock)) image = ran
  obtain ⟨child, system⟩ := ran
  simp only
  cases child.await command.programName w.clock limit with
  | none => exact ⟨nofun, fun _ => rfl⟩
  | some ending =>
    refine ⟨fun ending' h => ?_, nofun⟩
    obtain rfl := Option.some.inj h
    exact ⟨rfl, rfl⟩

theorem behaviour_overflows_iff (w : World) (command : Command) (limit : Option Duration) :
    (behaviour w command limit).result = .error .deadlineOverflow ↔
      Loads w command ∧ Beyond limit w.clock := by
  by_cases hloads : Loads w command
  · obtain ⟨child, hended, hendless⟩ := exists_child_of_loads limit hloads
    rw [← child.await_overflows_iff command.programName w.clock limit, and_iff_right hloads]
    cases hawait : child.await command.programName w.clock limit with
    | none => simp [hendless hawait]
    | some ending => simp [(hended ending hawait).1, Prod.ext_iff]
  · refine iff_of_false (fun h => ?_) fun h => hloads h.1
    cases himage : Image.ofProgram w.files w.here w.searchPath command.program
        command.arguments with
    | ok image => exact hloads ⟨image, himage⟩
    | error cause =>
      rw [result_of_refused limit himage, LaunchError.ofRefusal] at h
      split at h <;> cases h

theorem clock_le_behaviour (w : World) (command : Command) (l : Duration) :
    w.clock ≤ (behaviour w command (some l)).clock := by
  by_cases hloads : Loads w command
  · obtain ⟨child, hended, -⟩ := exists_child_of_loads (some l) hloads
    obtain ⟨result, instant, hawait⟩ := child.exists_await command.programName w.clock l
    obtain ⟨events, w', hrun, -, hclock⟩ := Child.exists_run_of_await hawait
    rw [(hended _ hawait).2, ← hclock]
    exact clock_le_of_run hrun
  · cases himage : Image.ofProgram w.files w.here w.searchPath command.program
        command.arguments with
    | ok image => exact absurd ⟨image, himage⟩ hloads
    | error cause => simp only [behaviour, himage, le_refl]

end Machine

namespace Plan

open Watch Machine

variable {α : Type} {limit : Option Duration} {l : Duration} {p : Plan α}

/-- Whether every launch of a plan has some time limit. -/
def Within (limit : Option Duration) (p : Plan α) : Prop :=
  p.Only fun r => ∀ command limit', r = .launch command limit' → limit' = limit

theorem clock_le_run (h : p.Within (some l)) (w : World) :
    w.clock ≤ (p.run behaviour w).2.clock := by
  induction p generalizing w with
  | done a => exact le_rfl
  | ask r next ih =>
    refine le_trans ?_ (ih _ (h.2 _) _)
    cases r with
    | launch command limit =>
      obtain rfl := h.1 command limit rfl
      exact clock_le_behaviour w command l
    | remove p =>
      simp only [World.remove, World.changed]
      split <;> exact le_rfl
    | _ => exact le_rfl

/-- Where the wait for one of the commands overflows, the limit is beyond the clock at the end. -/
theorem beyond_of_launches (h : p.Within limit) {w : World} {command : Command}
    (hlaunched : (command, .error .deadlineOverflow) ∈ p.launches (World.answer behaviour) w) :
    Beyond limit (p.run behaviour w).2.clock := by
  induction p generalizing w with
  | done a => cases hlaunched
  | ask r next ih =>
    rw [launches, exchanges] at hlaunched
    obtain ⟨e, he, hsome⟩ := List.mem_filterMap.1 hlaunched
    rcases List.mem_cons.1 he with rfl | he
    · cases r with
      | launch command' limit' =>
        obtain rfl := h.1 command' limit' rfl
        obtain ⟨-, hresult⟩ := Prod.mk.inj (Option.some.inj hsome)
        have hbeyond := ((behaviour_overflows_iff w command' limit').1 hresult).2
        obtain ⟨l, hl, -⟩ := id hbeyond
        obtain rfl := Option.mem_def.1 hl
        exact hbeyond.later (clock_le_run h w)
      | _ => cases hsome
    · exact ih _ (h.2 _) (List.mem_filterMap.2 ⟨e, he, hsome⟩)

end Plan

namespace Trial

open Watch Machine

variable (t : Trial)

theorem within_plan : t.plan.Within t.settings.timeout := by
  refine t.only_plan ((t.only_opening .empty).mono ?_) (fun ph command limit h => ?_) fun _ => nofun
  · rintro _ (⟨p, rfl⟩ | ⟨p, rfl⟩) <;> nofun
  · exact (Request.launch.inj h).2.symm

theorem result_eq_of_settle {ph : Phase} {result : Except LaunchError Capture}
    (h : t.settle ph result = .error (.error .deadlineOverflow)) :
    result = .error .deadlineOverflow := by
  have hblames := t.blames_of_settle h
  rcases result with e | r
  · cases e with
    | notFound program => cases hrole : t.role ph <;> simp [Blames, hrole] at hblames
    | refused program cause => cases hrole : t.role ph <;> simp [Blames, hrole] at hblames
    | timedOut program limit => simp [Blames] at hblames
    | io cause => simp [Blames] at hblames
    | deadlineOverflow => rfl
  · simp [Blames] at hblames

/-- Where a trial overflows, the wait for one of its commands does. -/
theorem exists_launch_of_overflow {σ : Type} {host : Host σ} {s : σ}
    (h : (t.plan.serve host s).1 = .error .deadlineOverflow) :
    ∃ command, (command, .error .deadlineOverflow) ∈ t.plan.launches host s := by
  rcases t.serve_opening host .empty s with ⟨v, hopening, hunstarted⟩ | ⟨answer, hopening, -⟩
  · obtain ⟨-, hverdict⟩ := t.launches_eq_nil_of_opening host hopening
    obtain rfl : v = .error .deadlineOverflow := hverdict.symm.trans h
    rcases hunstarted with ⟨p, hp⟩ | ⟨reason, hreason⟩ | ⟨dir, cause, -, -, hcause⟩
    · cases hp
    · cases hreason
    · cases hcause
  · obtain ⟨ending, hcourse, hverdict⟩ := t.course_of_opening host hopening
    cases ending with
    | ok rs => cases hverdict.symm.trans h
    | error v =>
      obtain rfl : v = .error .deadlineOverflow := hverdict.symm.trans h
      obtain ⟨ph, -, result, hlaunched, hsettle⟩ := hcourse.exists_settled
      exact ⟨_, t.result_eq_of_settle hsettle ▸ hlaunched⟩

/-- A trial overflows only if its limit is beyond the clock before it ends. -/
theorem beyond_of_overflow {w : World}
    (h : (t.plan.run behaviour w).1 = .error .deadlineOverflow) :
    Beyond t.settings.timeout (t.plan.run behaviour w).2.clock := by
  rw [Plan.run_eq_serve] at h
  obtain ⟨command, hlaunched⟩ := t.exists_launch_of_overflow h
  exact Plan.beyond_of_launches t.within_plan hlaunched

/-- With a limit beyond the clock a trial overflows at its first command, if that is launched. -/
theorem overflow_of_beyond {w : World} {answer : Option Bytes} (hlook : t.look w = .ok answer)
    (hloads : Loads w t.compileCommand) (hbeyond : Beyond t.settings.timeout w.clock) :
    (t.plan.run behaviour w).1 = .error .deadlineOverflow := by
  have hresult := (behaviour_overflows_iff w t.compileCommand t.settings.timeout).2
    ⟨hloads, hbeyond⟩
  have hphases : ∃ phs, t.phases = .compile :: phs := by
    unfold phases
    split <;> exact ⟨_, rfl⟩
  obtain ⟨phs, hphases⟩ := hphases
  have hsettle : t.settle .compile
      (w.launch behaviour (t.command .compile) t.settings.timeout).1 =
        .error (.error .deadlineOverflow) := by
    rw [World.launch, command, hresult]
    rfl
  rw [run_plan_fst, t.run_steps_of_look_ok behaviour hlook, outcomes, hphases,
    plan_performAll_cons]
  simp only [Plan.run, World.answer, hsettle]
  rfl

end Trial

namespace Options

open Watch Machine

theorem beyond_timeout_iff (o : Options) (found : Tools) (start : ℕ) :
    Beyond (o.settings found).timeout start ↔
      o.timeout ≠ 0 ∧ lastInstant < start + o.timeout * Duration.nanosecondsPerSecond := by
  simp only [settings, Settings.timeoutOfSeconds, Beyond]
  split
  · next hzero => simp [hzero]
  · next hsome => simp [hsome, Duration.ofSeconds, Duration.ofParts]

/-- A time limit from the command line is beyond the clock exactly if it is not zero and its seconds
do not fit between the start of the wait and the last instant of the clock. A wait with such a limit
overflows, and leaves its child alone; a wait with any other limit does not. A trial overflows only
if its limit is beyond the clock before it ends, and it does overflow if that is so before its first
command, when this can be launched. -/
theorem timeout_overflows_iff (o : Options) (found : Tools) :
    let limit := (o.settings found).timeout
    (∀ start, Beyond limit start ↔
      o.timeout ≠ 0 ∧ lastInstant < start + o.timeout * Duration.nanosecondsPerSecond) ∧
    (∀ program start, Foreseen program start limit) ∧
    ∀ (t : Trial) (w : World), t.settings = o.settings found →
      ((t.plan.run behaviour w).1 = .error .deadlineOverflow →
        Beyond limit (t.plan.run behaviour w).2.clock) ∧
      ∀ answer, t.look w = .ok answer → Loads w t.compileCommand → Beyond limit w.clock →
        (t.plan.run behaviour w).1 = .error .deadlineOverflow := by
  intro limit
  refine ⟨o.beyond_timeout_iff found, fun program start => foreseen program start limit,
    fun t w hsettings => ?_⟩
  have hlimit : t.settings.timeout = limit := congrArg Settings.timeout hsettings
  rw [← hlimit]
  exact ⟨t.beyond_of_overflow, fun answer hlook hloads hbeyond =>
    t.overflow_of_beyond hlook hloads hbeyond⟩

/-- The largest number that the command line takes for a time limit. -/
def farthest : Options := { standard with timeout := maxNumber }

/-- A directory with a source and a compiler. -/
def stockedWorld : World where
  files := (FileTree.empty.insert [Text.utf8 "moon"] (Image.ofUtility "true")).insert
    [Text.utf8 "a.c"] (.file [] false)
  here := []
  searchPath := none
  clock := 0
  processors := 1
  launched := []

theorem timeout_overflows_iff_extremes :
    let found : Tools := { Tools.standard with compiler := .ofText "./moon" }
    let t : Trial :=
      ⟨farthest.settings found, .ofText "work", .ofPath (.ofText "a.c") .c, .riscv64⟩
    (t.plan.run behaviour stockedWorld).1 = .error .deadlineOverflow ∧
      ∀ c : Child, ∃ ending, c.await "tool" 0 (standard.settings found).timeout = some ending ∧
        ending.1 ≠ .error .deadlineOverflow := by
  intro found t
  obtain ⟨hfar, -, htrial⟩ := timeout_overflows_iff farthest found
  obtain ⟨hnear, hforeseen, -⟩ := timeout_overflows_iff standard found
  constructor
  · have hlook : t.look stockedWorld = .ok none := by decide
    have hloads : Loads stockedWorld t.compileCommand :=
      ⟨⟨Text.utf8 "true", Text.utf8 "./moon" :: t.compileCommand.arguments⟩, by decide⟩
    have hbeyond : Beyond (farthest.settings found).timeout stockedWorld.clock :=
      (hfar _).2 (by decide +kernel)
    exact (htrial t stockedWorld rfl).2 none hlook hloads hbeyond
  · intro c
    obtain ⟨ending, hawait⟩ := (hforeseen "tool" 0).ends rfl c
    refine ⟨ending, hawait, fun hover => ?_⟩
    have hbeyond := ((hforeseen "tool" 0).overflows_iff c).1 ⟨ending.2, by rw [hawait, ← hover]⟩
    exact absurd ((hnear 0).1 hbeyond) (by decide +kernel)

/-- The command line takes a time limit that is beyond the clock. The runner has launched the child
and is over at once, with the child still running, and so it is with every child. -/
theorem accepted_timeout_overflows :
    Options.parse [Text.utf8 "--timeout", Text.utf8 "18446744073709551615"] = .ok farthest ∧
    let limit := (farthest.settings .standard).timeout
    (∃ w, (launch "tool" 0 limit).run [.act] = some w ∧ w.Overflown ∧ w.child = .running ∧
      w.move? = none) ∧
    ∀ c : Child, ∃ instant, c.await "tool" 0 limit = some (.error .deadlineOverflow, instant) := by
  refine ⟨by rfl, ⟨_, rfl, rfl, rfl, rfl⟩, fun c => ?_⟩
  rw [c.await_overflows_iff, beyond_timeout_iff]
  decide +kernel

end Options

end Crosscheck
