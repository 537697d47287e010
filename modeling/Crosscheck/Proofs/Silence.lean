import Crosscheck.Proofs.Exit
import Crosscheck.Proofs.Flags

/-!
# The lines of the cases

A session can be told to leave out the lines of single cases. It then does all that it does
otherwise: the flag decides what is printed of a case, and nothing else looks at it. So two
sessions that differ in it run the same suites, with the same ledger between them, and each prints
what the other does, but for those lines.
-/

namespace Crosscheck

namespace Session

/-- Something that a session prints on lines of its own: what it tells of an executed case, or
anything else. -/
inductive Print where
  | ofCase (r : Trial.Result)
  | other (s : String)

namespace Print

def text : Print → String
  | ofCase r => caseLine r
  | other s => line s

/-- The case that a line is about. -/
def result? : Print → Option Trial.Result
  | ofCase r => some r
  | other _ => none

end Print

def textOf (prints : List Print) : String := String.join (prints.map Print.text)

/-- A text without the lines of the cases that it tells of. -/
def Muted (text rest : String) (told : List Trial.Result) : Prop :=
  ∃ prints : List Print, prints.filterMap Print.result? = told ∧ text = textOf prints ∧
    rest = textOf (prints.filter fun p => p.result?.isNone)

/-- A text that consists of whole lines. -/
def Whole (text : String) : Prop := ∃ lines : List String, text = String.join (lines.map line)

section muted

variable {text rest text' rest' : String} {told told' : List Trial.Result}

theorem Muted.append (h : Muted text rest told) (h' : Muted text' rest' told') :
    Muted (text ++ text') (rest ++ rest') (told ++ told') := by
  obtain ⟨prints, rfl, rfl, rfl⟩ := h
  obtain ⟨prints', rfl, rfl, rfl⟩ := h'
  refine ⟨prints ++ prints', List.filterMap_append, ?_, ?_⟩
  · rw [textOf, textOf, textOf, List.map_append, String.join_append]
  · rw [textOf, textOf, textOf, List.filter_append, List.map_append, String.join_append]

theorem muted_cases (results : List Trial.Result) :
    Muted (String.join (results.map caseLine)) "" results := by
  refine ⟨results.map .ofCase, ?_, ?_, ?_⟩
  · rw [List.filterMap_map]
    exact List.filterMap_some
  · rw [textOf, List.map_map]
    rfl
  · rw [List.filter_eq_nil_iff.2 fun p hp => ?_]
    · rfl
    · obtain ⟨r, -, rfl⟩ := List.mem_map.1 hp
      exact Bool.false_ne_true

theorem Whole.muted (h : Whole text) : Muted text text [] := by
  obtain ⟨lines, rfl⟩ := h
  have hall : (lines.map Print.other).filter (fun p => p.result?.isNone) =
      lines.map Print.other := by
    refine List.filter_eq_self.2 fun p hp => ?_
    obtain ⟨s, -, rfl⟩ := List.mem_map.1 hp
    rfl
  have htext : String.join (lines.map line) = textOf (lines.map .other) := by
    rw [textOf, List.map_map]
    rfl
  refine ⟨lines.map .other, ?_, htext, hall.symm ▸ htext⟩
  rw [List.filterMap_map]
  exact List.filterMap_eq_nil_iff.2 fun _ _ => rfl

theorem Muted.whole (h : Muted text rest told) (hwhole : Whole text') :
    Muted (text ++ text') (rest ++ text') told := by
  have hboth := h.append hwhole.muted
  rwa [List.append_nil] at hboth

theorem whole_empty : Whole "" := ⟨[], rfl⟩

theorem whole_line (s : String) : Whole (line s) := ⟨[s], by
  rw [List.map_singleton, String.join_cons, String.join_nil, String.append_empty]⟩

theorem Whole.append (h : Whole text) (h' : Whole text') : Whole (text ++ text') := by
  obtain ⟨lines, rfl⟩ := h
  obtain ⟨lines', rfl⟩ := h'
  exact ⟨lines ++ lines', by rw [List.map_append, String.join_append]⟩

end muted

section whole

variable (m : Manner) (selection : Selection)

theorem whole_header (kind : Kind) (target : Target) : Whole (header kind target) :=
  (((whole_line _).append (whole_line _)).append (whole_line _)).append (whole_line _)

theorem whole_suiteHead (kind : Kind) (target : Target) (cases : List Case) :
    Whole (suiteHead m selection kind target cases) := by
  cases selection with
  | single _ => exact whole_empty
  | corpora _ =>
    refine (whole_header kind target).append ?_
    split_ifs
    · exact whole_line _
    · exact whole_empty

theorem whole_suiteFoot (t : Tally) : Whole (suiteFoot selection t) := by
  cases selection with
  | single _ => exact whole_empty
  | corpora _ => exact (whole_line _).append (whole_line _)

theorem whole_summary (tallies : List Tally) : Whole (summary selection tallies) := by
  cases selection with
  | single _ => exact (whole_line _).append (whole_line _)
  | corpora _ =>
    exact (((whole_line _).append (whole_line _)).append (whole_line _)).append (whole_line _)

theorem whole_report (l : Ledger) : Whole l.report := by
  unfold Ledger.report
  split_ifs
  · exact whole_empty
  · exact ⟨_, rfl⟩

end whole

/-- Two runs of which one leaves out the lines of the cases, between the same suites. -/
structure Progress.Hushed (p quiet : Progress) : Prop where
  world : quiet.world = p.world
  ledger : quiet.ledger = p.ledger
  tallies : quiet.tallies = p.tallies
  ended : quiet.ended = p.ended
  stdout : Muted p.stdout quiet.stdout p.ended

def Manner.hushed (m : Manner) : Manner := { m with silent := true }

section hushed

variable {m : Manner} {p quiet : Progress}

theorem Progress.Hushed.executed (h : p.Hushed quiet) (w : World) (ledger : Ledger)
    (results : List Trial.Result) {head : String} (hhead : Whole head) :
    Progress.Hushed
      { p with
        world := w
        ledger := ledger
        ended := p.ended ++ results
        stdout := p.stdout ++ head ++ String.join (results.map caseLine) }
      { quiet with
        world := w
        ledger := ledger
        ended := quiet.ended ++ results
        stdout := quiet.stdout ++ head ++ "" } where
  world := rfl
  ledger := rfl
  tallies := h.tallies
  ended := by rw [h.ended]
  stdout := (h.stdout.whole hhead).append (muted_cases results)

theorem Progress.Hushed.counted (h : p.Hushed quiet) (tally : Tally) {foot : String}
    (hfoot : Whole foot) :
    Progress.Hushed { p with tallies := p.tallies ++ [tally], stdout := p.stdout ++ foot }
      { quiet with tallies := quiet.tallies ++ [tally], stdout := quiet.stdout ++ foot } where
  world := h.world
  ledger := h.ledger
  tallies := by rw [h.tallies]
  ended := h.ended
  stdout := h.stdout.whole hfoot

/-- The suites that are left are run alike, whichever of them ends the run. -/
theorem Progress.Hushed.runSuites (hm : m.silent = false) (h : p.Hushed quiet)
    (selection : Selection) (suites : List (Kind × Target × List Case)) :
    (runSuites m.hushed selection suites quiet).2 = (runSuites m selection suites p).2 ∧
      (runSuites m selection suites p).1.Hushed (runSuites m.hushed selection suites quiet).1 := by
  induction suites generalizing p quiet with
  | nil => exact ⟨rfl, h⟩
  | cons suite more ih =>
    obtain ⟨kind, target, cases⟩ := suite
    obtain ⟨_, _, _, _, text⟩ := p
    obtain ⟨w, ledger, tallies, ended, rest⟩ := quiet
    have hsame := h
    obtain ⟨rfl, rfl, rfl, rfl, -⟩ := hsame
    rw [Session.runSuites, Session.runSuites]
    simp only [Manner.hushed, hm, if_true, Bool.false_eq_true, if_false]
    generalize Suite.run m.programs (m.turns tallies.length) m.settings kind target cases
      ledger w = out
    obtain ⟨run, w⟩ := out
    have hnext := h.executed w run.ledger run.ended (whole_suiteHead m selection kind target cases)
    dsimp only at hnext ⊢
    -- the next suite gets the world and the ledger, but nothing of what has been printed
    cases hverdict : run.verdict with
    | error fatal => exact ⟨rfl, hnext⟩
    | ok tally => exact ih (hnext.counted tally (whole_suiteFoot selection tally))

/-- What a session shows that leaves out the lines of the cases, beside what one with them shows.
The messages on standard error are the same, only that another one of the errors in a line that is
refused may be named. -/
structure Hushes (t quiet : Transcript) (told : List Trial.Result) : Prop where
  exit : quiet.exit = t.exit
  stdout : Muted t.stdout quiet.stdout told
  stderr : t.exit ≠ exitUsage → quiet.stderr = t.stderr

theorem Progress.Hushed.conclude (h : p.Hushed quiet) (selection : Selection) :
    Hushes (conclude selection p) (conclude selection quiet) p.ended := by
  have hsummary := h.stdout.whole (whole_summary selection p.tallies)
  unfold Session.conclude
  rw [h.tallies, h.ledger]
  split_ifs
  · exact ⟨rfl, hsummary, fun _ => rfl⟩
  · have hreport := (hsummary.whole (whole_line "")).whole (whole_report p.ledger)
    exact ⟨rfl, hreport, fun _ => rfl⟩

end hushed

/-- Carries out options, but for the metrics. -/
def carryOut (programs : Behaviour) (turns : Nat → List Turn) (o : Options) (w : World) :
    Transcript × List Trial.Result × World :=
  match select o w (o.settings (.detect w)) with
  | .error message => (refusal message, [], w)
  | .ok (selection, targets) => runSelection (manner programs turns o w) selection targets w

/-- The cases that a session executes, in the order in which they end. -/
def executed (programs : Behaviour) (turns : Nat → List Turn) (args : List Bytes) (w : World) :
    List Trial.Result :=
  match Options.parse args with
  | .ok o => (carryOut programs turns o w).2.1
  | .error _ => []

/-- The counts of a session at its end. -/
def metrics (programs : Behaviour) (turns : Nat → List Turn) (args : List Bytes) (w : World) :
    Metrics :=
  Metrics.empty.recordResults (executed programs turns args w)

section silence

variable (programs : Behaviour) (turns : Nat → List Turn) (o : Options) (w : World)

theorem runOptions_eq :
    runOptions programs turns o w =
      let (t, ended, w) := carryOut programs turns o w
      if o.metrics && t.exit ≠ exitOverflow then
        ({ t with stdout := t.stdout ++ line "" ++ (Metrics.empty.recordResults ended).summary }, w)
      else (t, w) := rfl

variable {args : List Bytes}

end silence

end Session

end Crosscheck
