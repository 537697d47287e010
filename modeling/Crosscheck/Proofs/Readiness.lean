import Crosscheck.Proofs.Collisions
import Crosscheck.Proofs.Exit

/-!
# Nothing before the checks

A run of the corpora of some kinds, or of one file, first looks for all that it needs, and looking
changes nothing. So either everything is there in the world that the run starts from, and the
suites start from that very world, or the run is refused and there is nothing to be seen of it but
its message.
-/

namespace Crosscheck

theorem exists_forall₂_iff {α β : Type} {R : α → β → Prop} {as : List α} :
    (∃ bs, List.Forall₂ R as bs) ↔ ∀ a ∈ as, ∃ b, R a b := by
  induction as with
  | nil => exact ⟨fun _ _ h => (nomatch h), fun _ => ⟨[], .nil⟩⟩
  | cons a as ih =>
    rw [List.forall_mem_cons, ← ih]
    constructor
    · rintro ⟨bs, h⟩
      obtain ⟨b, bs', hb, hbs', -⟩ := List.forall₂_cons_left_iff.1 h
      exact ⟨⟨b, hb⟩, bs', hbs'⟩
    · rintro ⟨⟨b, hb⟩, bs, hbs⟩
      exact ⟨b :: bs, .cons hb hbs⟩

theorem Discovery.exists_cases_iff {w : World} {dir : Path} {kind : Kind} :
    (∃ cs, cases w dir kind = .ok cs) ↔
      w.isDirectory dir = true ∧ ∃ names, w.list dir = .ok names := by
  constructor
  · rintro ⟨cs, hcs⟩
    obtain ⟨names, hnames, -⟩ := exists_list_of_cases hcs
    refine ⟨?_, names, hnames⟩
    by_contra hdir
    rw [cases, if_neg hdir] at hcs
    cases hcs
  · rintro ⟨hdir, names, hnames⟩
    exact ⟨_, cases_of_list hdir hnames⟩

namespace Session

/-- What a run is about: the corpora of some kinds, or one file. -/
inductive Errand where
  | corpora (kinds : List Kind)
  | file (p : Path)
  deriving DecidableEq, Repr

namespace Errand

/-- The kinds that a run is about; a file may be of none. -/
def kinds : Errand → List Kind
  | corpora kinds => kinds
  | file p => (Kind.ofPath? p).toList

/-- Whether there is something to run: a listing of every corpus, or a file of some kind. -/
def Found (w : World) (settings : Settings) : Errand → Prop
  | corpora kinds => ∀ kind ∈ kinds,
      w.isDirectory (Discovery.corpusPath settings kind) = true ∧
        ∃ names, w.list (Discovery.corpusPath settings kind) = .ok names
  | file p => ∃ kind, Kind.ofPath? p = some kind

/-- Nothing that a run needs is missing. -/
structure Ready (w : World) (settings : Settings) (errand : Errand) (targets : List Target) :
    Prop extends Equipped w settings errand.kinds targets where
  found : errand.Found w settings

def check (w : World) (settings : Settings) (targets : List Target) :
    Errand → Except Error Selection
  | corpora kinds => checkCorpora w settings kinds targets
  | file p => checkSingle w settings p targets

end Errand

/-- Runs the corpora of some kinds, or one file, on some targets. The cases that were executed come
with the transcript. -/
def runErrand (m : Manner) (errand : Errand) (targets : List Target) (w : World) :
    Transcript × List Trial.Result × World :=
  match errand.check w m.settings targets with
  | .error e => (refusal ("Error: " ++ e.message), [], w)
  | .ok selection => runSelection m selection targets w

section errand

variable {o : Options} {errand : Errand} {targets : List Target} {w : World} {settings : Settings}

theorem exists_lists_iff {kind : Kind} : (∃ group, Lists w settings kind group) ↔
    w.isDirectory (Discovery.corpusPath settings kind) = true ∧
      ∃ names, w.list (Discovery.corpusPath settings kind) = .ok names := by
  rw [← @Discovery.exists_cases_iff w _ kind]
  constructor
  · rintro ⟨group, -, hcases⟩
    exact ⟨group.2, hcases⟩
  · rintro ⟨cs, hcases⟩
    exact ⟨(kind, cs), rfl, hcases⟩

theorem exists_check_iff :
    (∃ selection, errand.check w settings targets = .ok selection) ↔
      errand.Ready w settings targets := by
  cases errand with
  | corpora kinds =>
    simp only [Errand.check, checkCorpora_eq_ok_iff]
    constructor
    · rintro ⟨_, hequipped, groups, hgroups, -⟩
      exact ⟨hequipped, fun kind hkind =>
        exists_lists_iff.1 (exists_forall₂_iff.1 ⟨groups, hgroups⟩ kind hkind)⟩
    · rintro ⟨hequipped, hfound⟩
      obtain ⟨groups, hgroups⟩ := exists_forall₂_iff.2 fun kind hkind =>
        exists_lists_iff.2 (hfound kind hkind)
      exact ⟨_, hequipped, groups, hgroups, rfl⟩
  | file p =>
    simp only [Errand.check, checkSingle_eq_ok_iff]
    constructor
    · rintro ⟨_, kind, hkind, hequipped, -⟩
      refine ⟨?_, kind, hkind⟩
      rwa [Errand.kinds, hkind, Option.toList_some]
    · rintro ⟨hequipped, kind, hkind⟩
      rw [Errand.kinds, hkind, Option.toList_some] at hequipped
      exact ⟨_, kind, hkind, hequipped, rfl⟩

theorem runErrand_of_check {m : Manner} {selection : Selection}
    (h : errand.check w m.settings targets = .ok selection) :
    runErrand m errand targets w = runSelection m selection targets w := by
  rw [runErrand, h]

theorem runErrand_of_not_ready {m : Manner} (h : ¬errand.Ready w m.settings targets) :
    ∃ e : Error, runErrand m errand targets w = (refusal ("Error: " ++ e.message), [], w) := by
  cases hcheck : errand.check w m.settings targets with
  | ok selection => exact absurd (exists_check_iff.1 ⟨selection, hcheck⟩) h
  | error e => exact ⟨e, by rw [runErrand, hcheck]⟩

end errand

def errand? (o : Options) : Except UnknownName Errand :=
  match o.file with
  | some file => .ok (.file file)
  | none => (Kind.vocabulary.parseList o.kind).map .corpora

theorem select_eq {o : Options} {w : World} {settings : Settings} {errand : Errand}
    {targets : List Target} (htargets : Target.vocabulary.parseList o.target = .ok targets)
    (herrand : errand? o = .ok errand) : select o w settings =
      match errand.check w settings targets with
      | .error e => .error ("Error: " ++ e.message)
      | .ok selection => .ok (selection, targets) := by
  unfold errand? at herrand
  unfold select
  rw [htargets]
  cases hfile : o.file with
  | some file =>
    rw [hfile] at herrand
    obtain rfl := Except.ok.inj herrand
    simp only [Errand.check, bind, Except.bind, Except.mapError]
    cases checkSingle w settings file targets <;> rfl
  | none =>
    rw [hfile] at herrand
    obtain ⟨kinds, hkinds, rfl⟩ := map_eq_ok_iff.1 herrand
    simp only [Errand.check, bind, Except.bind, Except.mapError, hkinds]
    cases checkCorpora w settings kinds targets <;> rfl

/-- A command line is an errand with the settings that it gives; metrics are only printed. -/
theorem runOptions_eq_runErrand (programs : Behaviour) (turns : Nat → List Turn) {o : Options}
    (w : World) {errand : Errand} {targets : List Target}
    (htargets : Target.vocabulary.parseList o.target = .ok targets)
    (herrand : errand? o = .ok errand) :
    let run := runErrand (manner programs turns o w) errand targets w
    (runOptions programs turns o w).1.exit = run.1.exit ∧
      (runOptions programs turns o w).2 = run.2.2 := by
  have hprinted {t : Transcript} {w' : World} (asked : Bool) (stdout : String) :
      (if asked then ({ t with stdout := stdout }, w') else (t, w')).1.exit = t.exit ∧
        (if asked then ({ t with stdout := stdout }, w') else (t, w')).2 = w' := by
    cases asked <;> exact ⟨rfl, rfl⟩
  unfold runOptions runErrand manner
  simp only [select_eq htargets herrand]
  cases errand.check w (o.settings (.detect w)) targets with
  | error e => exact hprinted _ _
  | ok selection => exact hprinted _ _

/-- A run has an effect only if nothing that it needs was missing in the world that it started from,
and then its suites start from that world. If something is missing, the run fails with nothing
changed. A command line runs its errand in just this way. -/
theorem runErrand_after_checks (m : Manner) (errand : Errand) (targets : List Target) (w : World) :
    let run := runErrand m errand targets w
    (run.2.2.launched ≠ w.launched ∨ run.2.2.files ≠ w.files ∨ run.2.1 ≠ [] →
      errand.Ready w m.settings targets) ∧
    (errand.Ready w m.settings targets → ∃ selection,
      errand.check w m.settings targets = .ok selection ∧
        run = runSelection m selection targets w) ∧
    (¬errand.Ready w m.settings targets →
      run.1.exit = 1 ∧ ∃ e : Error, run = (refusal ("Error: " ++ e.message), [], w)) ∧
    ∀ o : Options, m = manner m.programs m.turns o w →
      Target.vocabulary.parseList o.target = .ok targets → errand? o = .ok errand →
        (runOptions m.programs m.turns o w).1.exit = run.1.exit ∧
          (runOptions m.programs m.turns o w).2 = run.2.2 := by
  intro run
  have hrefused (h : ¬errand.Ready w m.settings targets) :
      ∃ e : Error, run = (refusal ("Error: " ++ e.message), [], w) := runErrand_of_not_ready h
  refine ⟨fun heffect => ?_, fun hready => ?_, fun hready => ?_, fun o hm htargets herrand => ?_⟩
  · by_contra hready
    obtain ⟨e, hrun⟩ := hrefused hready
    rw [hrun] at heffect
    simp at heffect
  · obtain ⟨selection, hcheck⟩ := exists_check_iff.2 hready
    exact ⟨selection, hcheck, runErrand_of_check hcheck⟩
  · obtain ⟨e, hrun⟩ := hrefused hready
    rw [hrun]
    exact ⟨rfl, e, rfl⟩
  · have hrun := runOptions_eq_runErrand m.programs m.turns w htargets herrand
    rwa [← hm] at hrun

theorem runErrand_after_checks_sample :
    let m : Manner := ⟨Settings.standard, false, scribe, fun _ => []⟩
    let file : Errand := .file (.ofText "a.c")
    (file.Ready equippedWorld m.settings [.riscv64] ∧
      (runErrand m file [.riscv64] equippedWorld).2.2.launched.length = 5) ∧
    ¬(Errand.corpora [.c]).Ready equippedWorld m.settings [.riscv64] ∧
      (runErrand m (.corpora [.c]) [.riscv64] equippedWorld).1.exit = 1 ∧
      (runErrand m (.corpora [.c]) [.riscv64] equippedWorld).2.2 = equippedWorld := by
  intro m file
  have hlaunched : (runErrand m file [.riscv64] equippedWorld).2.2.launched.length = 5 := by
    decide +kernel
  have hready : file.Ready equippedWorld m.settings [.riscv64] := by
    refine (runErrand_after_checks m file [.riscv64] equippedWorld).1 (.inl fun h => ?_)
    rw [h] at hlaunched
    cases hlaunched
  have hcorpora : ¬(Errand.corpora [.c]).Ready equippedWorld m.settings [.riscv64] := fun h =>
    absurd (h.found .c List.mem_cons_self).1 (by decide +kernel)
  obtain ⟨hexit, e, hrun⟩ :=
    (runErrand_after_checks m (.corpora [.c]) [.riscv64] equippedWorld).2.2.1 hcorpora
  exact ⟨⟨hready, hlaunched⟩, hcorpora, hexit, congrArg (fun run => run.2.2) hrun⟩

end Session

end Crosscheck
