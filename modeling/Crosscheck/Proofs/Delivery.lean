import Crosscheck.Proofs.Deadlines

/-!
# A capture is never partial

A reader hands over what it has taken in only where its stream has ended, and then it has taken in
all that was written. The runner makes a capture only of what both readers have handed over, and
of the status with which the child itself has exited. So whatever the order of the events, a
capture holds everything; where something is missing there is an error in its place.
-/

namespace Crosscheck

open Text

/-- What an event adds to a stream. -/
def WireEvent.data : WireEvent → Bytes
  | write data => data
  | _ => []

namespace Wire

/-- What a stream and its reader hold after some events. -/
structure Carries (events : List WireEvent) (w : Wire) : Prop where
  written : w.written = events.flatMap WireEvent.data
  whole : w.taken ++ w.pending = w.written
  closed : w.isOpen = false → .close ∈ events
  handedOver : ∀ bytes, w.reader = .done (.ok bytes) → w.isOpen = false ∧ bytes = w.written
  failed : ∀ cause, w.reader = .done (.error cause) → .fail cause ∈ events
  vanished : w.reader = .gone → .vanish ∈ events

theorem carries_start : start.Carries [] where
  written := rfl
  whole := rfl
  closed h := by cases h
  handedOver _ h := by cases h
  failed _ h := by cases h
  vanished h := by cases h

variable {w x : Wire} {e : WireEvent}

/-- An event that writes nothing leaves all of this as it is. -/
theorem Carries.snoc {events : List WireEvent} (hw : w.Carries events) (hdata : e.data = []) :
    w.Carries (events ++ [e]) where
  written := by rw [List.flatMap_append, List.flatMap_singleton, hdata, List.append_nil, hw.written]
  whole := hw.whole
  closed h := List.mem_append_left _ (hw.closed h)
  handedOver := hw.handedOver
  failed cause h := List.mem_append_left _ (hw.failed cause h)
  vanished h := List.mem_append_left _ (hw.vanished h)

theorem Carries.move {events : List WireEvent} (hw : w.Carries events) (h : w.Moved e x) :
    x.Carries (events ++ [e]) := by
  have hlast : e ∈ events ++ [e] := List.mem_append_right _ (List.mem_singleton_self e)
  cases h with
  | @written data hopen =>
    refine ⟨?_, ?_, fun h => ?_, fun bytes h => ?_, fun cause h => ?_, fun h => ?_⟩
    · rw [List.flatMap_append, List.flatMap_singleton, WireEvent.data, ← hw.written]
    · rw [← List.append_assoc, hw.whole]
    · exact absurd (hopen.symm.trans h) Bool.noConfusion
    -- nobody writes once the stream has ended
    · exact absurd (hopen.symm.trans (hw.handedOver bytes h).1) Bool.noConfusion
    · exact List.mem_append_left _ (hw.failed cause h)
    · exact List.mem_append_left _ (hw.vanished h)
  | closed =>
    exact { hw.snoc rfl with
      closed := fun _ => hlast
      handedOver := fun bytes h => ⟨rfl, (hw.handedOver bytes h).2⟩ }
  | @took count hreader =>
    have hwhole : (w.taken ++ w.pending.take count) ++ w.pending.drop count = w.written := by
      rw [List.append_assoc, List.take_append_drop, hw.whole]
    exact { hw.snoc rfl with whole := hwhole }
  | handedOver hreader hpending hopen =>
    have htaken : w.taken = w.written := by rw [← hw.whole, hpending, List.append_nil]
    refine { hw.snoc rfl with
      handedOver := fun bytes h => ⟨hopen, ?_⟩
      failed := fun cause h => ?_
      vanished := fun h => ?_ }
    · cases h
      exact htaken
    · cases h
    · cases h
  | failed hreader =>
    refine { hw.snoc rfl with
      handedOver := fun bytes h => ?_
      failed := fun cause h => ?_
      vanished := fun h => ?_ }
    · cases h
    · cases h
      exact hlast
    · cases h
  | vanished hreader =>
    exact { hw.snoc rfl with
      handedOver := fun bytes h => nomatch h
      failed := fun cause h => nomatch h
      vanished := fun _ => hlast }

end Wire

namespace Watch

/-- What happens on a stream in the course of some events. -/
def wireEvents (s : StreamName) (events : List Event) : List WireEvent :=
  events.filterMap fun
    | .on s' e => if s' = s then some e else none
    | _ => none

/-- All that is written to a stream in the course of some events. -/
def writtenTo (s : StreamName) (events : List Event) : Bytes :=
  (wireEvents s events).flatMap WireEvent.data

theorem mem_wireEvents {s : StreamName} {events : List Event} {e : WireEvent} :
    e ∈ wireEvents s events ↔ .on s e ∈ events := by
  rw [wireEvents, List.mem_filterMap]
  constructor
  · rintro ⟨event, hmem, hevent⟩
    split at hevent
    · obtain ⟨rfl, he⟩ := Option.ite_none_right_eq_some.1 hevent
      exact Option.some.inj he ▸ hmem
    · cases hevent
  · exact fun hmem => ⟨.on s e, hmem, if_pos rfl⟩

/-- Something failed on the way, and this is why. -/
inductive Failed (events : List Event) (cause : OsError) : Prop
  | asking (hmem : .fault cause ∈ events)
  | reading {s : StreamName} (hmem : .on s (.fail cause) ∈ events)
  | ending {s : StreamName} (hmem : .on s .vanish ∈ events) (hcause : cause = .readerGone)

theorem Failed.snoc {events : List Event} {cause : OsError} (e : Event) (h : Failed events cause) :
    Failed (events ++ [e]) cause := by
  cases h with
  | asking hmem => exact .asking (List.mem_append_left _ hmem)
  | reading hmem => exact .reading (List.mem_append_left _ hmem)
  | ending hmem hcause => exact .ending (List.mem_append_left _ hmem) hcause

/-- The child has ended by itself, and nothing is left of it. -/
structure HasExited (events : List Event) (child : Life) (status : ExitStatus) : Prop where
  reaped : child = .reaped status
  exited : .exit status ∈ events

/-- Unless the child is still running it has ended by itself, and no stream was given up. -/
structure Untouched (events : List Event) (child : Life) : Prop where
  exited : ∀ status, child.status? = some status → .exit status ∈ events
  patient : .giveUp ∉ events

/-- What the runner has got from the streams so far. -/
def Collected (events : List Event) (limit : Option Duration) (stdout : Wire) : Place → Prop
  | .first => .giveUp ∉ events
  | .second (some bytes) => .giveUp ∉ events ∧ stdout.reader = .done (.ok bytes)
  | .second none => limit.isSome = true

/-- How a watch can be over. -/
inductive Ending (events : List Event) (w : Watch) : Except LaunchError Capture → Prop
  | captured {status : ExitStatus} {stdout stderr : Bytes}
      (hexited : HasExited events w.child status) (hpatient : .giveUp ∉ events)
      (hstdout : w.stdout.reader = .done (.ok stdout))
      (hstderr : w.stderr.reader = .done (.ok stderr)) :
      Ending events w (.ok ⟨status.code, stdout, stderr⟩)
  | timedOut (hlimit : w.limit.isSome = true) : Ending events w w.timedOut
  | failed {cause : OsError} (hfailed : Failed events cause) : Ending events w (.error (.io cause))
  | overflown {limit : Duration} (hlimit : w.limit = some limit)
      (hdeadline : deadline? w.clock limit = none) : Ending events w (.error .deadlineOverflow)

/-- What has come before what the runner is about to do. -/
def Stage (events : List Event) (w : Watch) : Phase → Prop
  | .begin | .wait => Untouched events w.child
  | .look | .check | .rest _ => Untouched events w.child ∧ w.limit.isSome = true
  | .kill | .reap => w.limit.isSome = true
  | .turn status place => HasExited events w.child status ∧ Collected events w.limit w.stdout place
  | .receive status place due =>
    HasExited events w.child status ∧ Collected events w.limit w.stdout place ∧
      (due.isSome = true → w.limit.isSome = true)
  | .finished result => w.Ending events result

section stages

variable {events : List Event} {e : Event} {w w' : Watch} {status : ExitStatus} {place : Place}

theorem patient_snoc (he : e ≠ .giveUp) (h : Event.giveUp ∉ events) : .giveUp ∉ events ++ [e] := by
  rw [List.mem_append, List.mem_singleton]
  exact fun hmem => hmem.elim h fun heq => he heq.symm

theorem HasExited.snoc {child : Life} (h : HasExited events child status) (e : Event) :
    HasExited (events ++ [e]) child status :=
  ⟨h.reaped, List.mem_append_left _ h.exited⟩

theorem Untouched.snoc {child : Life} (h : Untouched events child) (he : e ≠ .giveUp) :
    Untouched (events ++ [e]) child :=
  ⟨fun status hstatus => List.mem_append_left _ (h.exited status hstatus),
    patient_snoc he h.patient⟩

theorem Collected.snoc {limit : Option Duration} {stdout : Wire}
    (h : Collected events limit stdout place) (he : e ≠ .giveUp) :
    Collected (events ++ [e]) limit stdout place :=
  match place, h with
  | .first, hpatient => patient_snoc he hpatient
  | .second (some _), ⟨hpatient, hreader⟩ => ⟨patient_snoc he hpatient, hreader⟩
  | .second none, hlimit => hlimit

theorem HasExited.outside (h : HasExited events w.child status) (hw : w.Continues w') :
    HasExited events w'.child status :=
  ⟨hw.reaped h.reaped, h.exited⟩

theorem Collected.outside (h : Collected events w.limit w.stdout place) (hw : w.Continues w') :
    Collected events w'.limit w'.stdout place :=
  match place, h with
  | .first, hpatient => hpatient
  | .second (some bytes), ⟨hpatient, hreader⟩ =>
    ⟨hpatient, hw.reader .stdout (.ok bytes) hreader⟩
  | .second none, hlimit => hw.limit ▸ hlimit

theorem Untouched.outside (h : Untouched events w.child) (hmove : w.Moved e w')
    (he : e.isOutside = true) : Untouched (events ++ [e]) w'.child := by
  cases hmove with
  | @on s => exact w.child_setWire _ s ▸ h.snoc nofun
  | exited hchild =>
    refine ⟨fun status hstatus => ?_, patient_snoc nofun h.patient⟩
    obtain rfl := Option.some.inj hstatus
    exact List.mem_append_right _ (List.mem_singleton_self _)
  | passed nanoseconds => exact h.snoc nofun
  | _ => cases he

theorem Ending.outside {result : Except LaunchError Capture} (h : w.Ending events result)
    (hw : w.Continues w') (he : e ≠ .giveUp) : w'.Ending (events ++ [e]) result := by
  cases h with
  | captured hexited hpatient hstdout hstderr =>
    exact .captured ((hexited.outside hw).snoc e) (patient_snoc he hpatient)
      (hw.reader .stdout _ hstdout) (hw.reader .stderr _ hstderr)
  | timedOut hlimit => exact hw.timedOut_eq ▸ .timedOut (hw.limit ▸ hlimit)
  | failed hfailed => exact .failed (hfailed.snoc e)
  | overflown hlimit hdeadline =>
    -- the later the instant, the later the end of the limit
    have hclock := hw.clock
    rw [deadline?_eq_none_iff] at hdeadline
    exact .overflown (hw.limit.trans hlimit) (deadline?_eq_none_iff.2 (by omega))

/-- What goes on outside keeps the stage. -/
theorem Stage.outside {phase : Phase} (h : w.Stage events phase) (hmove : w.Moved e w')
    (he : e.isOutside = true) : w'.Stage (events ++ [e]) phase := by
  have hw := hmove.continues he
  have hgiveUp : e ≠ .giveUp := by
    rintro rfl
    cases he
  have hlimit (h : w.limit.isSome = true) : w'.limit.isSome = true := hw.limit ▸ h
  match phase, h with
  | .begin, h | .wait, h => exact Untouched.outside h hmove he
  | .look, h | .check, h | .rest _, h => exact ⟨h.1.outside hmove he, hlimit h.2⟩
  | .kill, h | .reap, h => exact hlimit h
  | .turn _ _, ⟨hexited, hplace⟩ =>
    exact ⟨(hexited.outside hw).snoc e, (hplace.outside hw).snoc hgiveUp⟩
  | .receive _ _ _, ⟨hexited, hplace, hdue⟩ =>
    exact ⟨(hexited.outside hw).snoc e, (hplace.outside hw).snoc hgiveUp, fun h => hlimit (hdue h)⟩
  | .finished _, h => exact Ending.outside h hw hgiveUp

theorem Untouched.toStreams (h : Untouched events w.child)
    (hstatus : w.child.status? = some status) :
    (w.toStreams status).Stage (events ++ [.act]) (w.toStreams status).phase :=
  ⟨⟨rfl, List.mem_append_left _ (h.exited status hstatus)⟩, patient_snoc nofun h.patient⟩

/-- The runner leaves a stream with what was handed over. -/
theorem stage_received {bytes : Bytes} (hexited : HasExited events w.child status)
    (hplace : Collected events w.limit w.stdout place)
    (hreader : (w.wire place.stream).reader = .done (.ok bytes)) :
    (w.leave status place (some bytes)).Stage (events ++ [.act])
      (w.leave status place (some bytes)).phase := by
  match place, hplace with
  | .first, hpatient => exact ⟨hexited.snoc _, patient_snoc nofun hpatient, hreader⟩
  | .second (some stdout), ⟨hpatient, hstdout⟩ =>
    exact .captured (hexited.snoc _) (patient_snoc nofun hpatient) hstdout hreader
  | .second none, hlimit => exact .timedOut hlimit

/-- The runner leaves a stream without anything. -/
theorem stage_gaveUp (hexited : HasExited events w.child status)
    (hlimit : w.limit.isSome = true) :
    (w.leave status place none).Stage (events ++ [.giveUp]) (w.leave status place none).phase := by
  match place with
  | .first => exact ⟨hexited.snoc _, hlimit⟩
  | .second (some stdout) => exact .timedOut hlimit
  | .second none => exact .timedOut hlimit

/-- What the runner does keeps the stage. -/
theorem Stage.inside (h : w.Stage events w.phase)
    (hdeadline : w.deadline.isSome = true → w.limit.isSome = true)
    (hwires : ∀ s, (w.wire s).Carries (wireEvents s events)) (hmove : w.Moved e w')
    (he : e.isOutside = false) : w'.Stage (events ++ [e]) w'.phase := by
  cases hmove with
  | on | exited | passed => cases he
  | unlimited hphase hlimit =>
    rw [hphase] at h
    exact Untouched.snoc h nofun
  | overflown hphase hlimit hdeadline => exact .overflown hlimit hdeadline
  | limited hphase hlimit _ =>
    rw [hphase] at h
    exact ⟨Untouched.snoc h nofun, congrArg Option.isSome hlimit⟩
  | @found status hphase hstatus =>
    rw [hphase] at h
    exact Untouched.toStreams (w := { w.note (some status) with polls := w.polls + 1 }) h.1 hstatus
  | missed hphase _ | early hphase _ | rested hphase _ =>
    rw [hphase] at h
    exact ⟨h.1.snoc nofun, h.2⟩
  | late hphase hlate =>
    rw [hphase] at h
    exact h.2
  | killed hphase =>
    rw [hphase] at h
    exact h
  | reaped hphase hstatus =>
    rw [hphase] at h
    exact .timedOut h
  | waited hphase hstatus =>
    rw [hphase] at h
    exact Untouched.toStreams h hstatus
  | turned hphase =>
    rw [hphase] at h
    refine ⟨h.1.snoc _, h.2.snoc nofun, fun hdue => hdeadline ?_⟩
    rwa [Option.isSome_map] at hdue
  | received hphase hreader =>
    rw [hphase] at h
    exact stage_received h.1 h.2.1 hreader
  | unreadable hphase hreader =>
    have hmem := mem_wireEvents.1 ((hwires _).failed _ hreader)
    exact .failed (Failed.snoc _ (.reading hmem))
  | lost hphase hreader =>
    have hmem := mem_wireEvents.1 ((hwires _).vanished hreader)
    exact .failed (Failed.snoc _ (.ending hmem rfl))
  | gaveUp hphase hdue =>
    rw [hphase] at h
    exact stage_gaveUp h.1 (h.2.2 rfl)
  | unlooked | unwaited =>
    exact .failed (.asking (List.mem_append_right _ (List.mem_singleton_self _)))

end stages

/-- What every run keeps. -/
structure Sound (program : String) (limit : Option Duration) (events : List Event) (w : Watch) :
    Prop where
  program : w.program = program
  limit : w.limit = limit
  deadline : w.deadline.isSome = true → w.limit.isSome = true
  wires : ∀ s, (w.wire s).Carries (wireEvents s events)
  stage : w.Stage events w.phase

section runs

variable {events : List Event} {e : Event} {w w' : Watch} {program : String} {start : ℕ}
  {limit : Option Duration}

theorem wireEvents_on (s s' : StreamName) (e : WireEvent) :
    wireEvents s [.on s' e] = if s' = s then [e] else [] := by
  by_cases hs : s' = s <;> simp [wireEvents, hs]

theorem carries_move (h : ∀ s, (w.wire s).Carries (wireEvents s events)) (hmove : w.Moved e w')
    (s : StreamName) : (w'.wire s).Carries (wireEvents s (events ++ [e])) := by
  have hsnoc : wireEvents s (events ++ [e]) = wireEvents s events ++ wireEvents s [e] :=
    List.filterMap_append
  rw [hsnoc]
  cases hmove with
  | @on s' e x hwire =>
    rw [wire_setWire, wireEvents_on]
    by_cases hs : s = s'
    · subst hs
      rw [if_pos rfl, if_pos rfl]
      exact (h s).move (Wire.moved_of_step hwire)
    · rw [if_neg hs, if_neg (Ne.symm hs), List.append_nil]
      exact h s
  | _ => cases s <;> exact (List.append_nil _).symm ▸ h _

theorem sound_launch : (launch program start limit).Sound program limit [] where
  program := rfl
  limit := rfl
  deadline h := nomatch h
  wires s := by cases s <;> exact Wire.carries_start
  stage := ⟨nofun, List.not_mem_nil⟩

theorem Sound.move (h : w.Sound program limit events) (hmove : w.Moved e w') :
    w'.Sound program limit (events ++ [e]) where
  program := hmove.program_eq.trans h.program
  limit := hmove.limit_eq.trans h.limit
  deadline := by
    rw [hmove.limit_eq]
    cases hmove with
    | @on s => exact w.deadline_setWire _ s ▸ h.deadline
    | limited _ hlimit _ => exact fun _ => congrArg Option.isSome hlimit
    | _ => exact h.deadline
  wires := carries_move h.wires hmove
  stage := by
    cases he : e.isOutside with
    | true => exact (hmove.continues he).phase ▸ h.stage.outside hmove he
    | false => exact h.stage.inside h.deadline h.wires hmove he

theorem sound_run (h : (launch program start limit).run events = some w) :
    w.Sound program limit events :=
  run_induction (P := fun events w => w.Sound program limit events) sound_launch
    (fun _ _ _ _ hsound hmove => hsound.move hmove) h

/-- A capture leaves out nothing: the child has exited, and both streams have ended. -/
structure Complete (events : List Event) (w : Watch) (r : Capture) : Prop where
  exitCode : ∃ status, .exit status ∈ events ∧ w.child = .reaped status ∧ r.exitCode = status.code
  ended : ∀ s, .on s .close ∈ events
  stdout : r.stdout = writtenTo .stdout events
  stderr : r.stderr = writtenTo .stderr events
  patient : .giveUp ∉ events

theorem Sound.complete {r : Capture} (h : w.Sound program limit events)
    (hending : w.Ending events (.ok r)) : w.Complete events r := by
  cases hending with
  | @captured status stdout stderr hexited hpatient hstdout hstderr =>
    have hout := (h.wires .stdout).handedOver stdout hstdout
    have herr := (h.wires .stderr).handedOver stderr hstderr
    have hended (s : StreamName) : .on s .close ∈ events := by
      cases s with
      | stdout => exact mem_wireEvents.1 ((h.wires .stdout).closed hout.1)
      | stderr => exact mem_wireEvents.1 ((h.wires .stderr).closed herr.1)
    exact ⟨⟨status, hexited.exited, hexited.reaped, rfl⟩, hended,
      hout.2.trans (h.wires .stdout).written, herr.2.trans (h.wires .stderr).written, hpatient⟩

/-- The error in place of a capture: the time was up, or something failed, or the clock has no
instant for the end of the limit, so that there was no wait at all. -/
inductive Excuse (program : String) (limit : Option Duration) (events : List Event) (w : Watch) :
    LaunchError → Prop
  | timedOut {l : Duration} (hlimit : limit = some l) :
      Excuse program limit events w (.timedOut program l)
  | failed {cause : OsError} (hfailed : Failed events cause) :
      Excuse program limit events w (.io cause)
  | overflown {l : Duration} (hlimit : limit = some l) (hdeadline : deadline? w.clock l = none) :
      Excuse program limit events w .deadlineOverflow

theorem Sound.excuse {error : LaunchError} (h : w.Sound program limit events)
    (hending : w.Ending events (.error error)) : w.Excuse program limit events error := by
  generalize hresult : Except.error error = result at hending
  cases hending with
  | captured => cases hresult
  | timedOut hlimit =>
    obtain ⟨l, hl⟩ := Option.isSome_iff_exists.1 hlimit
    rw [Watch.timedOut, hl, h.program, Option.getD_some] at hresult
    exact Except.error.inj hresult ▸ .timedOut (h.limit.symm.trans hl)
  | failed hfailed => exact Except.error.inj hresult ▸ .failed hfailed
  | overflown hlimit hdeadline =>
    exact Except.error.inj hresult ▸ .overflown (h.limit.symm.trans hlimit) hdeadline

/-- A capture is complete; where a stream has not ended, or the runner waited for it no longer, an
error stands in its place; and without a limit the time is never up. -/
structure Honest (program : String) (limit : Option Duration) (events : List Event) (w : Watch)
    (result : Except LaunchError Capture) : Prop where
  complete : ∀ r, result = .ok r → w.Complete events r
  excused : (∃ s, .on s .close ∉ events) ∨ .giveUp ∈ events →
    ∃ error, result = .error error ∧ w.Excuse program limit events error
  unlimited : limit = none → ∀ name l, result ≠ .error (.timedOut name l)

theorem Sound.honest {result : Except LaunchError Capture} (h : w.Sound program limit events)
    (hfinished : w.phase = .finished result) : w.Honest program limit events result := by
  have hending : w.Ending events result := by
    have hstage := h.stage
    rw [hfinished] at hstage
    exact hstage
  refine ⟨?_, fun hmissing => ?_, ?_⟩
  · rintro r rfl
    exact h.complete hending
  · cases result with
    | error error => exact ⟨error, rfl, h.excuse hending⟩
    | ok r =>
      have hcomplete := h.complete hending
      rcases hmissing with ⟨s, hopen⟩ | hgiveUp
      · exact absurd (hcomplete.ended s) hopen
      · exact absurd hgiveUp hcomplete.patient
  · rintro hlimit name l rfl
    cases h.excuse hending with
    | timedOut hsome => exact nomatch hlimit.symm.trans hsome

/-- Whatever the order of the events, the result is honest; and what a runner has who loses no time
is the result of one of these runs. -/
theorem capture_complete (program : String) (start : ℕ) (limit : Option Duration) :
    (∀ events w result, (launch program start limit).run events = some w →
      w.phase = .finished result → w.Honest program limit events result) ∧
    ∀ (c : Child) result instant, c.await program start limit = some (result, instant) →
      ∃ events w, (launch program start limit).run events = some w ∧ w.phase = .finished result ∧
        w.clock = instant ∧ w.Honest program limit events result := by
  refine ⟨fun events w result hrun hfinished => (sound_run hrun).honest hfinished,
    fun c result instant hawait => ?_⟩
  obtain ⟨events, w, hrun, hfinished, hclock⟩ := c.exists_run_of_await hawait
  exact ⟨events, w, hrun, hfinished, hclock, (sound_run hrun).honest hfinished⟩

/-- A child is killed by a signal while another process goes on writing; and a child exits while
another process holds its stdout for longer than the limit, also where no time is lost. -/
theorem capture_complete_shared :
    let died : List Event :=
      [.act, .on .stdout (.write (utf8 "a")), .exit (.killed 15), .act, .act,
        .on .stderr (.write (utf8 "c")), .on .stdout (.read 8), .on .stdout (.write (utf8 "b")),
        .on .stdout .close, .on .stdout (.read 8), .on .stderr .close, .on .stdout .handOver, .act,
        .act, .on .stderr (.read 8), .on .stderr .handOver, .act]
    let held : List Event :=
      [.act, .on .stdout (.write (utf8 "a")), .on .stdout (.read 8), .exit (.exited 0), .act, .act,
        .on .stderr .close, .on .stderr .handOver, .pass 5, .giveUp, .act, .act]
    let holder : Child := ⟨some (0, .exited 0), ⟨[(0, utf8 "a")], none, none⟩, ⟨[], some 0, some 0⟩⟩
    (∃ w, (launch "tool" 0 none).run died = some w ∧
      w.phase = .finished (.ok ⟨-15, utf8 "ab", utf8 "c"⟩) ∧
      w.Complete died ⟨-15, utf8 "ab", utf8 "c"⟩) ∧
    (∃ w error, (launch "tool" 0 (some ⟨5⟩)).run held = some w ∧
      w.phase = .finished (.error error) ∧ w.Excuse "tool" (some ⟨5⟩) held error) ∧
    ∃ (events : List Event) (w : Watch) (result : Except LaunchError Capture) (instant : ℕ),
      holder.await "tool" 0 (some ⟨5⟩) = some (result, instant) ∧
      w.Honest "tool" (some ⟨5⟩) events result := by
  intro died held holder
  have hdied : ((launch "tool" 0 none).run died).map Watch.phase =
      some (.finished (.ok ⟨-15, utf8 "ab", utf8 "c"⟩)) := rfl
  have hheld : ((launch "tool" 0 (some ⟨5⟩)).run held).map Watch.phase =
      some (.finished (.error (.timedOut "tool" ⟨5⟩))) := rfl
  obtain ⟨w, hrun, hfinished⟩ := Option.map_eq_some_iff.1 hdied
  obtain ⟨w', hrun', hfinished'⟩ := Option.map_eq_some_iff.1 hheld
  have hcomplete := ((capture_complete "tool" 0 none).1 died w _ hrun hfinished).complete _ rfl
  obtain ⟨error, herror, hexcuse⟩ :=
    ((capture_complete "tool" 0 (some ⟨5⟩)).1 held w' _ hrun' hfinished').excused (.inr (by decide))
  obtain ⟨result, instant, hawait⟩ := holder.exists_await "tool" 0 ⟨5⟩
  obtain ⟨events, w'', -, -, -, hhonest⟩ :=
    (capture_complete "tool" 0 (some ⟨5⟩)).2 holder result instant hawait
  exact ⟨⟨w, hrun, hfinished, hcomplete⟩, ⟨w', error, hrun', herror ▸ hfinished', hexcuse⟩,
    events, w'', result, instant, hawait, hhonest⟩

end runs

end Watch

end Crosscheck
