import Crosscheck.Child
import Mathlib.Data.List.Induction

/-!
# What an event makes of a watch

`Moved` lists, once and for all, what the steps of a watch can be, with what must be the case for
each of them. A run is over events one after the other, so what every move keeps holds after every
run. The watch over a child by a runner who loses no time is one of the runs.
-/

namespace Crosscheck

namespace Wire

/-- What an event makes of a stream. -/
inductive Moved (w : Wire) : WireEvent → Wire → Prop
  | written {data : Bytes} (hopen : w.isOpen = true) :
      Moved w (.write data) { w with written := w.written ++ data, pending := w.pending ++ data }
  | closed : Moved w .close { w with isOpen := false }
  | took {count : ℕ} (hreader : w.reader = .reading) :
      Moved w (.read count)
        { w with taken := w.taken ++ w.pending.take count, pending := w.pending.drop count }
  | handedOver (hreader : w.reader = .reading) (hpending : w.pending = [])
      (hopen : w.isOpen = false) : Moved w .handOver { w with reader := .done (.ok w.taken) }
  | failed {cause : OsError} (hreader : w.reader = .reading) :
      Moved w (.fail cause) { w with reader := .done (.error cause) }
  | vanished (hreader : w.reader = .reading) : Moved w .vanish { w with reader := .gone }

variable {w x : Wire} {e : WireEvent}

theorem moved_of_step (h : w.step e = some x) : w.Moved e x := by
  unfold step at h
  split at h
  · next data =>
    obtain ⟨hopen, hx⟩ := Option.ite_none_right_eq_some.1 h
    exact Option.some.inj hx ▸ .written hopen
  · obtain ⟨-, hx⟩ := Option.ite_none_right_eq_some.1 h
    exact Option.some.inj hx ▸ .closed
  · split at h
    · next count hreader _ _ => exact Option.some.inj h ▸ .took hreader
    · next hreader _ _ =>
      obtain ⟨hends, hx⟩ := Option.ite_none_right_eq_some.1 h
      rw [Bool.and_eq_true, List.isEmpty_iff, Bool.not_eq_true'] at hends
      exact Option.some.inj hx ▸ .handedOver hreader hends.1 hends.2
    · next cause hreader _ _ => exact Option.some.inj h ▸ .failed hreader
    · next hreader _ _ => exact Option.some.inj h ▸ .vanished hreader
    · cases h

/-- What a reader has handed over stays. -/
theorem Moved.reader_eq {message : Except OsError Bytes} (h : w.Moved e x)
    (hreader : w.reader = .done message) : x.reader = .done message := by
  cases h with
  | written hopen => exact hreader
  | closed => exact hreader
  | took h => exact Reader.noConfusion (h.symm.trans hreader)
  | handedOver h _ _ => exact Reader.noConfusion (h.symm.trans hreader)
  | failed h => exact Reader.noConfusion (h.symm.trans hreader)
  | vanished h => exact Reader.noConfusion (h.symm.trans hreader)

end Wire

namespace Watch

section frame

variable (w : Watch) (x : Wire) (s : StreamName)

@[simp] theorem program_setWire : (w.setWire x s).program = w.program := by cases s <;> rfl

@[simp] theorem limit_setWire : (w.setWire x s).limit = w.limit := by cases s <;> rfl

@[simp] theorem deadline_setWire : (w.setWire x s).deadline = w.deadline := by cases s <;> rfl

@[simp] theorem clock_setWire : (w.setWire x s).clock = w.clock := by cases s <;> rfl

@[simp] theorem child_setWire : (w.setWire x s).child = w.child := by cases s <;> rfl

@[simp] theorem polls_setWire : (w.setWire x s).polls = w.polls := by cases s <;> rfl

@[simp] theorem looks_setWire : (w.setWire x s).looks = w.looks := by cases s <;> rfl

@[simp] theorem answer_setWire : (w.setWire x s).answer = w.answer := by cases s <;> rfl

@[simp] theorem phase_setWire : (w.setWire x s).phase = w.phase := by cases s <;> rfl

theorem wire_setWire (s' : StreamName) :
    (w.setWire x s).wire s' = if s' = s then x else w.wire s' := by
  cases s <;> cases s' <;> rfl

end frame

theorem deadline?_eq_some_iff {start deadline : ℕ} {limit : Duration} :
    deadline? start limit = some deadline ↔
      start + limit.nanoseconds ≤ lastInstant ∧ start + limit.nanoseconds = deadline := by
  rw [deadline?, Option.ite_none_right_eq_some, Option.some.injEq]

theorem deadline?_eq_none_iff {start : ℕ} {limit : Duration} :
    deadline? start limit = none ↔ lastInstant < start + limit.nanoseconds := by
  rw [deadline?, ← Nat.not_le]
  split <;> simp [*]

/-- What an event makes of a watch. -/
inductive Moved (w : Watch) : Event → Watch → Prop
  | on {s : StreamName} {e : WireEvent} {x : Wire} (hwire : (w.wire s).step e = some x) :
      Moved w (.on s e) (w.setWire x s)
  | exited {status : ExitStatus} (hchild : w.child = .running) :
      Moved w (.exit status) { w with child := .exited status }
  | passed (nanoseconds : ℕ) :
      Moved w (.pass nanoseconds) { w with clock := w.clock + nanoseconds }
  | unlimited (hphase : w.phase = .begin) (hlimit : w.limit = none) :
      Moved w .act { w with phase := .wait }
  | overflown {limit : Duration} (hphase : w.phase = .begin) (hlimit : w.limit = some limit)
      (hdeadline : deadline? w.clock limit = none) : Moved w .act (w.failWith .deadlineOverflow)
  | limited {limit : Duration} {deadline : ℕ} (hphase : w.phase = .begin)
      (hlimit : w.limit = some limit) (hdeadline : deadline? w.clock limit = some deadline) :
      Moved w .act { w with deadline := some deadline, phase := .look }
  | found {status : ExitStatus} (hphase : w.phase = .look)
      (hstatus : w.child.status? = some status) :
      Moved w .act ({ w.note (some status) with polls := w.polls + 1 }.toStreams status)
  | missed (hphase : w.phase = .look) (hstatus : w.child.status? = none) :
      Moved w .act { w with polls := w.polls + 1, phase := .check }
  | late (hphase : w.phase = .check) (hlate : w.isLate = true) :
      Moved w .act { w.note none with phase := .kill }
  | early (hphase : w.phase = .check) (hlate : w.isLate = false) :
      Moved w .act { w.note none with phase := .rest (w.clock + pollInterval) }
  | rested {wake : ℕ} (hphase : w.phase = .rest wake) (hwake : wake ≤ w.clock) :
      Moved w .act { w with phase := .look }
  | killed (hphase : w.phase = .kill) :
      Moved w .act { w with child := w.child.kill, phase := .reap }
  | reaped {status : ExitStatus} (hphase : w.phase = .reap)
      (hstatus : w.child.status? = some status) :
      Moved w .act
        { w with child := .reaped status, answer := some none, phase := .finished w.timedOut }
  | waited {status : ExitStatus} (hphase : w.phase = .wait)
      (hstatus : w.child.status? = some status) : Moved w .act (w.toStreams status)
  | turned {status : ExitStatus} {place : Place} (hphase : w.phase = .turn status place) :
      Moved w .act { w with phase := .receive status place (w.deadline.map (max w.clock)) }
  | received {status : ExitStatus} {place : Place} {due : Option ℕ} {bytes : Bytes}
      (hphase : w.phase = .receive status place due)
      (hreader : (w.wire place.stream).reader = .done (.ok bytes)) :
      Moved w .act (w.leave status place (some bytes))
  | unreadable {status : ExitStatus} {place : Place} {due : Option ℕ} {cause : OsError}
      (hphase : w.phase = .receive status place due)
      (hreader : (w.wire place.stream).reader = .done (.error cause)) :
      Moved w .act (w.failWith (.io cause))
  | lost {status : ExitStatus} {place : Place} {due : Option ℕ}
      (hphase : w.phase = .receive status place due)
      (hreader : (w.wire place.stream).reader = .gone) :
      Moved w .act (w.failWith (.io .readerGone))
  | gaveUp {status : ExitStatus} {place : Place} {due : ℕ}
      (hphase : w.phase = .receive status place (some due)) (hdue : due ≤ w.clock) :
      Moved w .giveUp (w.leave status place none)
  | unlooked {cause : OsError} (hphase : w.phase = .look) :
      Moved w (.fault cause) ({ w with polls := w.polls + 1 }.failWith (.io cause))
  | unwaited {cause : OsError} (hphase : w.phase = .wait) :
      Moved w (.fault cause) (w.failWith (.io cause))

section moves

variable {w w' : Watch} {e : Event}

theorem moved_of_act (h : w.act = some w') : Moved w .act w' := by
  unfold act at h
  split at h
  case h_1 hphase =>
    split at h
    · next hlimit => exact Option.some.inj h ▸ .unlimited hphase hlimit
    · next limit hlimit =>
      split at h
      · next hdeadline => exact Option.some.inj h ▸ .overflown hphase hlimit hdeadline
      · next deadline hdeadline => exact Option.some.inj h ▸ .limited hphase hlimit hdeadline
  case h_2 hphase =>
    split at h
    · next status hstatus => exact Option.some.inj h ▸ .found hphase hstatus
    · next hstatus => exact Option.some.inj h ▸ .missed hphase hstatus
  case h_3 hphase =>
    obtain rfl := Option.some.inj h
    cases hlate : w.isLate with
    | true => exact .late hphase hlate
    | false => exact .early hphase hlate
  case h_4 wake hphase =>
    split at h
    · next hwake => exact Option.some.inj h ▸ .rested hphase hwake
    · cases h
  case h_5 hphase => exact Option.some.inj h ▸ .killed hphase
  case h_6 hphase =>
    obtain ⟨status, hstatus, rfl⟩ := Option.map_eq_some_iff.1 h
    exact .reaped hphase hstatus
  case h_7 hphase =>
    obtain ⟨status, hstatus, rfl⟩ := Option.map_eq_some_iff.1 h
    exact .waited hphase hstatus
  case h_8 status place hphase => exact Option.some.inj h ▸ .turned hphase
  case h_9 status place due hphase =>
    split at h
    · cases h
    · next bytes hreader => exact Option.some.inj h ▸ .received hphase hreader
    · next cause hreader => exact Option.some.inj h ▸ .unreadable hphase hreader
    · next hreader => exact Option.some.inj h ▸ .lost hphase hreader
  case h_10 => cases h

/-- There are no other steps than these. -/
theorem moved_of_step (h : w.step e = some w') : Moved w e w' := by
  cases e with
  | on s e =>
    obtain ⟨x, hwire, rfl⟩ := Option.map_eq_some_iff.1 h
    exact .on hwire
  | exit status =>
    simp only [step] at h
    split at h
    · next hchild => exact Option.some.inj h ▸ .exited hchild
    · cases h
  | pass nanoseconds => exact Option.some.inj h ▸ .passed nanoseconds
  | act => exact moved_of_act h
  | giveUp =>
    simp only [step] at h
    split at h
    · next status place due hphase =>
      split at h
      · next hdue => exact Option.some.inj h ▸ .gaveUp hphase hdue
      · cases h
    · cases h
  | fault cause =>
    simp only [step] at h
    split at h
    · next hphase => exact Option.some.inj h ▸ .unlooked hphase
    · next hphase => exact Option.some.inj h ▸ .unwaited hphase
    · cases h

theorem Moved.program_eq (h : Moved w e w') : w'.program = w.program := by
  cases h with
  | @on s => exact w.program_setWire _ s
  | _ => rfl

theorem Moved.limit_eq (h : Moved w e w') : w'.limit = w.limit := by
  cases h with
  | @on s => exact w.limit_setWire _ s
  | _ => rfl

/-- What goes on outside, whatever the runner is about to do. -/
def Event.isOutside : Event → Bool
  | .on _ _ | .exit _ | .pass _ => true
  | .act | .giveUp | .fault _ => false

/-- What goes on outside leaves the runner where it is, and nothing is undone. -/
structure Continues (w w' : Watch) : Prop where
  program : w'.program = w.program
  limit : w'.limit = w.limit
  deadline : w'.deadline = w.deadline
  clock : w.clock ≤ w'.clock
  polls : w'.polls = w.polls
  looks : w'.looks = w.looks
  answer : w'.answer = w.answer
  phase : w'.phase = w.phase
  exited : ∀ status, w.child.status? = some status → w'.child = w.child
  reader : ∀ s message, (w.wire s).reader = .done message → (w'.wire s).reader = .done message

theorem Moved.continues (h : Moved w e w') (he : e.isOutside = true) : w.Continues w' := by
  cases h with
  | @on s e x hwire =>
    refine ⟨by simp, by simp, by simp, by simp, by simp, by simp, by simp, by simp, by simp, ?_⟩
    intro s' message hreader
    rw [wire_setWire]
    split
    · next hs => exact (Wire.moved_of_step hwire).reader_eq (hs ▸ hreader)
    · exact hreader
  | exited hchild =>
    refine ⟨rfl, rfl, rfl, Nat.le_refl _, rfl, rfl, rfl, rfl, fun status hstatus => ?_, ?_⟩
    · rw [hchild] at hstatus
      cases hstatus
    · intro s message hreader
      cases s <;> exact hreader
  | passed nanoseconds =>
    refine ⟨rfl, rfl, rfl, Nat.le_add_right _ _, rfl, rfl, rfl, rfl, fun _ _ => rfl, ?_⟩
    intro s message hreader
    cases s <;> exact hreader
  | _ => cases he

theorem Continues.timedOut_eq (h : w.Continues w') : w'.timedOut = w.timedOut := by
  rw [Watch.timedOut, Watch.timedOut, h.program, h.limit]

theorem Continues.reaped (h : w.Continues w') {status : ExitStatus}
    (hchild : w.child = .reaped status) : w'.child = .reaped status :=
  (h.exited status (by rw [hchild, Life.status?])).trans hchild

theorem run_snoc {events : List Event} (h : w.run (events ++ [e]) = some w') :
    ∃ w₁, w.run events = some w₁ ∧ w₁.step e = some w' := by
  rw [run, List.foldlM_append] at h
  obtain ⟨w₁, hrun, hlast⟩ := Option.bind_eq_some_iff.1 h
  obtain ⟨w₂, hstep, hnil⟩ := Option.bind_eq_some_iff.1 hlast
  cases hnil
  exact ⟨w₁, hrun, hstep⟩

/-- What holds of a watch without events, and is kept by every move, holds after every run. -/
theorem run_induction {P : List Event → Watch → Prop} (hstart : P [] w)
    (hmove : ∀ events e w₁ w₂, P events w₁ → Moved w₁ e w₂ → P (events ++ [e]) w₂)
    {events : List Event} (h : w.run events = some w') : P events w' := by
  induction events using List.reverseRecOn generalizing w' with
  | nil => exact Option.some.inj h ▸ hstart
  | append_singleton events e ih =>
    obtain ⟨w₁, hrun, hstep⟩ := run_snoc h
    exact hmove events e w₁ w' (ih hrun) (moved_of_step hstep)

theorem exists_run_of_getD_step (e : Event) (h : ∃ events, ((w.step e).getD w).run events = some w') :
    ∃ events, w.run events = some w' := by
  obtain ⟨events, hrun⟩ := h
  cases hstep : w.step e with
  | none =>
    rw [hstep] at hrun
    exact ⟨events, hrun⟩
  | some w₁ =>
    rw [hstep] at hrun
    refine ⟨e :: events, ?_⟩
    rw [run, List.foldlM_cons, hstep]
    exact hrun

/-- A runner who loses no time takes part in a run, up to its end. -/
theorem exists_run_of_play {fuel : ℕ} {agenda : Agenda} (h : play fuel w agenda = some w') :
    (∃ events, w.run events = some w') ∧ ∃ result, w'.phase = .finished result := by
  induction fuel generalizing w agenda with
  | zero => cases h
  | succ fuel ih =>
    rw [play] at h
    split at h
    · next result hphase => exact ⟨⟨[], h⟩, result, Option.some.inj h ▸ hphase⟩
    · split at h
      · cases h
      · next e later hnext =>
        obtain ⟨hrun, hfinished⟩ := ih h
        exact ⟨exists_run_of_getD_step e hrun, hfinished⟩

end moves

end Watch

theorem Child.exists_run_of_await {c : Child} {program : String} {start instant : ℕ}
    {limit : Option Duration} {result : Except LaunchError Capture}
    (h : c.await program start limit = some (result, instant)) :
    ∃ events w, (Watch.launch program start limit).run events = some w ∧
      w.phase = .finished result ∧ w.clock = instant := by
  obtain ⟨w, hplay, hend⟩ := Option.bind_eq_some_iff.1 h
  obtain ⟨⟨events, hrun⟩, -⟩ := Watch.exists_run_of_play hplay
  split at hend
  · next hphase =>
    cases hend
    exact ⟨events, w, hrun, hphase, rfl⟩
  · cases hend

end Crosscheck
