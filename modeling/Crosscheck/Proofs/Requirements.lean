import Crosscheck.Proofs.Attribution
import Crosscheck.Proofs.Exit

/-!
# Required programs

A run is refused if one of some programs cannot be found. These are the programs that its trials
launch as tools, no more and no fewer: a tool that cannot be launched ends the run, and each of them
is one on some machine. So once all of them are found, no trial ends the run for want of a program.
-/

namespace Crosscheck

theorem OsError.message_ne_notFound (cause : OsError) : cause.message ≠ "not found" := by
  intro h
  have hlast := congrArg (fun s => s.toList.getLast?) h
  cases cause with
  | code number => simp [message, List.getLast?_cons] at hlast
  | zeroInPath => exact absurd hlast (by decide)
  | zeroInArgument => exact absurd hlast (by decide)
  | emptyPath => exact absurd hlast (by decide)
  | readerGone => exact absurd hlast (by decide)

/-- A machine on which every file is there and every program works, except for one that the system
refuses to launch. -/
def lacking (program : Path) (cause : OsError) : Host Unit := fun _ r =>
  match r with
  | .isFile _ => (true, ())
  | .read _ => (.ok [], ())
  | .remove _ => (.ok (), ())
  | .launch command _ =>
    (if command.program = program then .error (.ofRefusal program cause) else .ok ⟨0, [], []⟩, ())
  | .now => (0, ())

namespace Trial

variable (t : Trial)

/-- The trial launches a program, the system refuses that for some cause, and the trial ends the
run. -/
def EndsBy {σ : Type} (host : Host σ) (s : σ) (program : Path) (cause : OsError) : Prop :=
  ∃ command : Command, command.program = program ∧
    (command, .error (.ofRefusal program cause)) ∈ t.plan.launches host s ∧
    ∃ fatal, (t.plan.serve host s).1 = .error fatal

/-- On some machine the trial ends the run because of a program. -/
def Needs (program : Path) (cause : OsError) : Prop :=
  ∃ (σ : Type) (host : Host σ) (s : σ), t.EndsBy host s program cause

/-- The programs that a trial launches as tools. -/
def tools : List Path := (t.phases.filter fun ph => t.role ph == .tool).map fun ph =>
  (t.command ph).program

variable {t}

theorem mem_tools_iff {program : Path} : program ∈ t.tools ↔
    ∃ ph ∈ t.phases, t.role ph = .tool ∧ (t.command ph).program = program := by
  simp [tools, and_assoc]

/-- A launch that failed is the last one, and its phase settles the trial. -/
theorem Course.of_failed {phs : List Phase} {launched : List Launched}
    {ending : Except Verdict (List Capture)} (h : t.Course phs launched ending)
    {command : Command} {e : LaunchError} (hfailed : (command, .error e) ∈ launched) :
    ∃ ph ∈ phs, command = t.command ph ∧
      ending = .error ((e.classify (t.role ph)).map (t.failed ph)) := by
  induction h with
  | nil => cases hfailed
  | stop hsettle =>
    obtain ⟨rfl, rfl⟩ := Prod.mk.inj (List.mem_singleton.1 hfailed)
    exact ⟨_, List.mem_cons_self, rfl, congrArg Except.error (Except.error.inj hsettle).symm⟩
  | go hsucceeded hrest ih =>
    rcases List.mem_cons.1 hfailed with heq | hfailed
    · obtain ⟨-, rfl⟩ := Prod.mk.inj heq
      obtain ⟨r, hr, -⟩ := hsucceeded
      cases hr
    · obtain ⟨ph, hph, hcommand, hending⟩ := ih hfailed
      refine ⟨ph, List.mem_cons_of_mem _ hph, hcommand, ?_⟩
      rw [hending]
      rfl

theorem Course.exists_settled {phs : List Phase} {launched : List Launched} {v : Verdict}
    (h : t.Course phs launched (.error v)) : ∃ ph ∈ phs, ∃ result,
      (t.command ph, result) ∈ launched ∧ t.settle ph result = .error v := by
  generalize hending : Except.error v = ending at h
  induction h with
  | nil => cases hending
  | stop hsettle =>
    obtain rfl := Except.error.inj hending
    exact ⟨_, List.mem_cons_self, _, List.mem_cons_self, hsettle⟩
  | @go ph phs result r launched ending hsucceeded hrest ih =>
    cases ending with
    | ok rs => cases hending
    | error v' =>
      obtain rfl := Except.error.inj hending
      obtain ⟨ph, hph, result, hlaunched, hsettle⟩ := ih rfl
      exact ⟨ph, List.mem_cons_of_mem _ hph, result, List.mem_cons_of_mem _ hlaunched, hsettle⟩

theorem classify_ofRefusal_tool (program : Path) (cause : OsError) : ∃ reason,
    (LaunchError.ofRefusal program cause).classify .tool =
      .error (.error (.toolUnavailable program.display reason)) := by
  unfold LaunchError.ofRefusal
  split
  · exact ⟨_, rfl⟩
  · exact ⟨_, rfl⟩

theorem classify_ofRefusal_product (program : Path) (cause : OsError) : ∃ text,
    (LaunchError.ofRefusal program cause).classify .product = .ok text := by
  unfold LaunchError.ofRefusal
  split
  · exact ⟨_, rfl⟩
  · exact ⟨_, rfl⟩

theorem mem_tools_of_endsBy {σ : Type} {host : Host σ} {s : σ} {program : Path} {cause : OsError}
    (h : t.EndsBy host s program cause) : program ∈ t.tools := by
  obtain ⟨command, rfl, hlaunched, fatal, hfatal⟩ := h
  rcases t.serve_opening host .empty s with ⟨v, hopening, -⟩ | ⟨answer, hopening, -⟩
  · rw [(t.launches_eq_nil_of_opening host hopening).1] at hlaunched
    cases hlaunched
  · obtain ⟨ending, hcourse, hverdict⟩ := t.course_of_opening host hopening
    obtain ⟨ph, hph, rfl, rfl⟩ := hcourse.of_failed hlaunched
    refine mem_tools_iff.2 ⟨ph, hph, ?_, rfl⟩
    cases hrole : t.role ph with
    | tool => rfl
    | product =>
      obtain ⟨text, htext⟩ := classify_ofRefusal_product (t.command ph).program cause
      rw [hverdict, hrole, htext] at hfatal
      cases hfatal

/-- Tools are launched before products. -/
theorem pairwise_role_phases (t : Trial) :
    t.phases.Pairwise fun ph ph' => t.role ph' = .tool → t.role ph = .tool := by
  unfold phases
  cases hrole : t.runRole <;> cases t.corpus.answerDir <;> simp [role, hrole]

theorem accepts_silent (ph : Phase) : t.Accepts ph ⟨0, [], []⟩ := by
  cases ph <;> simp [Accepts]

theorem result_of_lacking {α : Type} {program : Path} {cause : OsError} (p : Plan α)
    {command : Command} {result : Except LaunchError Capture}
    (h : (command, result) ∈ p.launches (lacking program cause) ()) :
    result = if command.program = program then .error (.ofRefusal program cause)
      else .ok ⟨0, [], []⟩ := by
  induction p with
  | done a => cases h
  | ask r next ih =>
    rw [Plan.launches, Plan.exchanges, List.filterMap_cons] at h
    cases r with
    | launch command' limit =>
      rcases List.mem_cons.1 h with heq | h
      · obtain ⟨rfl, rfl⟩ := Prod.mk.inj heq
        rfl
      · exact ih _ h
    | isFile p => exact ih _ h
    | read p => exact ih _ h
    | remove p => exact ih _ h
    | now => exact ih _ h

theorem Course.of_lacking {program : Path} {cause : OsError} {phs : List Phase}
    {launched : List Launched} {ending : Except Verdict (List Capture)}
    (h : t.Course phs launched ending)
    (hresults : ∀ command result, (command, result) ∈ launched → result =
      if command.program = program then .error (.ofRefusal program cause) else .ok ⟨0, [], []⟩)
    (hphs : phs.Pairwise fun ph ph' => t.role ph' = .tool → t.role ph = .tool) {ph : Phase}
    (hph : ph ∈ phs) (hrole : t.role ph = .tool) (hprogram : (t.command ph).program = program) :
    (∃ command : Command, command.program = program ∧
      (command, .error (.ofRefusal program cause)) ∈ launched) ∧
      ∃ fatal, ending = .error (.error fatal) := by
  induction h with
  | nil => cases hph
  | @stop ph' phs result v hsettle =>
    have hresult := hresults _ _ List.mem_cons_self
    obtain ⟨hfirst, -⟩ := List.pairwise_cons.1 hphs
    by_cases hlacking : (t.command ph').program = program
    · rw [if_pos hlacking] at hresult
      -- A product may lie where the tool does, but no product is launched before a tool.
      have htool : t.role ph' = .tool := by
        rcases List.mem_cons.1 hph with rfl | hph
        · exact hrole
        · exact hfirst ph hph hrole
      obtain ⟨reason, hreason⟩ := classify_ofRefusal_tool program cause
      rw [hresult, settle, htool, hreason] at hsettle
      refine ⟨⟨_, hlacking, ?_⟩, _, congrArg Except.error (Except.error.inj hsettle).symm⟩
      rw [hresult]
      exact List.mem_cons_self
    · rw [if_neg hlacking] at hresult
      rw [hresult, t.settle_eq_ok_iff.2 ⟨rfl, accepts_silent ph'⟩] at hsettle
      cases hsettle
  | @go ph' phs result r launched ending hsucceeded hrest ih =>
    have hresult := hresults _ _ List.mem_cons_self
    obtain ⟨-, hrest⟩ := List.pairwise_cons.1 hphs
    obtain ⟨r', rfl, -⟩ := hsucceeded
    rcases List.mem_cons.1 hph with rfl | hph
    · rw [if_pos hprogram] at hresult
      cases hresult
    · obtain ⟨⟨command, hcommand, hmem⟩, fatal, rfl⟩ := ih
        (fun command result hmem => hresults command result (List.mem_cons_of_mem _ hmem)) hrest hph
      exact ⟨⟨command, hcommand, List.mem_cons_of_mem _ hmem⟩, fatal, rfl⟩

theorem opening_lacking (t : Trial) (program : Path) (cause : OsError) : ∃ answer,
    ((t.opening.plan .empty).serve (lacking program cause) ()).1 = (.ok answer, .empty) := by
  rw [opening, Step.plan_bind, plan_checkSource]
  simp only [Plan.ask_bind, Plan.done_bind, Plan.serve]
  change ∃ answer, ((t.readAnswer.plan .empty).serve (lacking program cause) ()).1 =
    (.ok answer, .empty)
  rw [plan_readAnswer]
  cases t.corpus.answerDir with
  | none => exact ⟨none, rfl⟩
  | some dir => exact ⟨some [], rfl⟩

theorem endsBy_lacking {program : Path} (h : program ∈ t.tools) (cause : OsError) :
    t.EndsBy (lacking program cause) () program cause := by
  obtain ⟨ph, hph, hrole, hprogram⟩ := mem_tools_iff.1 h
  obtain ⟨answer, hopening⟩ := t.opening_lacking program cause
  obtain ⟨ending, hcourse, hverdict⟩ := t.course_of_opening _ hopening
  obtain ⟨⟨command, hcommand, hlaunched⟩, fatal, rfl⟩ := hcourse.of_lacking
    (fun _ _ => result_of_lacking t.plan) t.pairwise_role_phases hph hrole hprogram
  exact ⟨command, hcommand, hlaunched, fatal, hverdict⟩

theorem needs_iff {program : Path} {cause : OsError} :
    t.Needs program cause ↔ program ∈ t.tools := by
  constructor
  · rintro ⟨σ, host, s, h⟩
    exact mem_tools_of_endsBy h
  · intro h
    exact ⟨Unit, lacking program cause, (), endsBy_lacking h cause⟩

theorem mem_tools_iff_required {program : Path} : program ∈ t.tools ↔
    program = t.settings.tools.compiler ∨
      t.corpus.answerDir = none ∧ program = t.settings.tools.referenceCompiler ∨
      program ∈ t.settings.tools.requiredFor t.target := by
  cases htarget : t.target <;> cases hanswers : t.corpus.answerDir <;>
    simp [tools, phases, hanswers, role, runRole, htarget, Target.execution, command,
      compileCommand, linkCommand, referenceCommand, runCommand, Tools.compile, Tools.link,
      Tools.build, Tools.buildReference, Tools.runUnderTest, Tools.requiredFor] <;> grind

theorem classify_eq_notFound {e : LaunchError} {role : Role} {name : String}
    (h : e.classify role = .error (.error (.toolUnavailable name "not found"))) :
    role = .tool ∧ e = .notFound name := by
  cases role with
  | product => cases e <;> cases h
  | tool =>
    refine ⟨rfl, ?_⟩
    cases e with
    | notFound program =>
      cases h
      rfl
    | refused program cause =>
      simp only [LaunchError.classify, Except.error.injEq, Fatal.error.injEq,
        Error.toolUnavailable.injEq] at h
      exact absurd h.2 cause.message_ne_notFound
    | timedOut program limit => cases h
    | io cause => cases h
    | deadlineOverflow => cases h

theorem settle_eq_notFound {ph : Phase} {result : Except LaunchError Capture} {name : String}
    (h : t.settle ph result = .error (.error (.error (.toolUnavailable name "not found")))) :
    t.role ph = .tool ∧ result = .error (.notFound name) := by
  cases result with
  | ok r =>
    rw [settle] at h
    split at h <;> cases h
  | error e =>
    cases hclassify : e.classify (t.role ph) with
    | ok text =>
      rw [settle, hclassify] at h
      cases h
    | error fatal =>
      rw [settle, hclassify] at h
      obtain rfl : fatal = _ := Except.error.inj (Except.error.inj h)
      obtain ⟨hrole, rfl⟩ := classify_eq_notFound hclassify
      exact ⟨hrole, rfl⟩

theorem exists_tool_of_toolUnavailable {σ : Type} {host : Host σ} {s : σ} {name : String}
    (h : (t.plan.serve host s).1 = .error (.error (.toolUnavailable name "not found"))) :
    ∃ command : Command, command.program ∈ t.tools ∧
      (command, .error (.notFound name)) ∈ t.plan.launches host s := by
  rcases t.serve_opening host .empty s with ⟨v, hopening, hunstarted⟩ | ⟨answer, hopening, -⟩
  · rw [(t.launches_eq_nil_of_opening host hopening).2] at h
    subst h
    rcases hunstarted with ⟨p, hv⟩ | ⟨reason, hv⟩ | ⟨dir, cause, -, -, hv⟩
    · cases hv
    · cases hv
    · cases hv
  · obtain ⟨ending, hcourse, hverdict⟩ := t.course_of_opening host hopening
    rw [h] at hverdict
    cases ending with
    | ok rs => cases hverdict
    | error v =>
      obtain rfl : _ = v := hverdict
      obtain ⟨ph, hph, result, hlaunched, hsettle⟩ := hcourse.exists_settled
      obtain ⟨hrole, rfl⟩ := settle_eq_notFound hsettle
      exact ⟨t.command ph, mem_tools_iff.2 ⟨ph, hph, hrole, rfl⟩, hlaunched⟩

end Trial

namespace Tools

variable {settings : Settings} {targets : List Target} {kinds : List Kind}

theorem requiredFor_eq (tools : Tools) (target : Target) : tools.requiredFor target =
    tools.linkDriver target ::
      if target.execution = .simulated then [tools.simulator] else [] := by
  cases target <;> rfl

theorem required_eq (tools : Tools) : tools.required settings targets kinds =
    tools.compiler ::
      (if ∃ kind ∈ kinds, (settings.corpus kind).answerDir = none then [tools.referenceCompiler]
        else []) ++ targets.flatMap tools.requiredFor := by
  have hkinds : (kinds.any fun kind => (settings.corpus kind).answerDir.isNone) = true ↔
      ∃ kind ∈ kinds, (settings.corpus kind).answerDir = none := by simp
  simp only [required, hkinds, List.cons_append, List.nil_append]

theorem mem_required_iff {tools : Tools} {program : Path} :
    program ∈ tools.required settings targets kinds ↔ program = tools.compiler ∨
      (∃ kind ∈ kinds, (settings.corpus kind).answerDir = none) ∧
        program = tools.referenceCompiler ∨
      ∃ target ∈ targets, program ∈ tools.requiredFor target := by
  rw [required_eq, List.mem_append, List.mem_cons, List.mem_flatMap, or_assoc]
  split
  · next h => simp [h]
  · next h => simp [h]

/-- The required programs are the tools of the trials of a run. -/
theorem mem_required_iff_exists_trial (workDir : Path) (htargets : targets ≠ [])
    (hkinds : kinds ≠ []) {program : Path} :
    program ∈ settings.tools.required settings targets kinds ↔ ∃ test target,
      test.kind ∈ kinds ∧ target ∈ targets ∧
        program ∈ Trial.tools ⟨settings, workDir, test, target⟩ := by
  obtain ⟨target₀, htarget₀⟩ := List.exists_mem_of_ne_nil _ htargets
  obtain ⟨kind₀, hkind₀⟩ := List.exists_mem_of_ne_nil _ hkinds
  let ofKind (kind : Kind) : Case := ⟨"", .ofText "", kind⟩
  rw [mem_required_iff]
  constructor
  · rintro (hcompiler | ⟨⟨kind, hkind, hanswers⟩, hreference⟩ | ⟨target, htarget, hrequired⟩)
    · exact ⟨ofKind kind₀, target₀, hkind₀, htarget₀,
        Trial.mem_tools_iff_required.2 (.inl hcompiler)⟩
    · exact ⟨ofKind kind, target₀, hkind, htarget₀,
        Trial.mem_tools_iff_required.2 (.inr (.inl ⟨hanswers, hreference⟩))⟩
    · exact ⟨ofKind kind₀, target, hkind₀, htarget,
        Trial.mem_tools_iff_required.2 (.inr (.inr hrequired))⟩
  · rintro ⟨test, target, htest, htarget, hprogram⟩
    rcases Trial.mem_tools_iff_required.1 hprogram with h | ⟨hanswers, h⟩ | h
    · exact .inl h
    · exact .inr (.inl ⟨⟨test.kind, htest, hanswers⟩, h⟩)
    · exact .inr (.inr ⟨target, htarget, h⟩)

theorem verify_eq_error_iff {w : World} {e : Error} :
    verify w settings targets kinds = .error e ↔ ∃ front program back,
      settings.tools.required settings targets kinds = front ++ program :: back ∧
        (∀ p ∈ front, ∃ found, Lookup.find? w p = some found) ∧
        Lookup.find? w program = none ∧
        e = .toolUnavailable program.display "not found in PATH" := by
  have hfirst (program : Path) : (settings.tools.required settings targets kinds).find?
      (fun p => (Lookup.find? w p).isNone) = some program ↔ ∃ front back,
        settings.tools.required settings targets kinds = front ++ program :: back ∧
        (∀ p ∈ front, ∃ found, Lookup.find? w p = some found) ∧
        Lookup.find? w program = none := by
    rw [List.find?_eq_some_iff_append]
    simp only [Option.isNone_iff_eq_none, Bool.not_eq_true', Option.isNone_eq_false_iff,
      Option.isSome_iff_exists]
    constructor
    · rintro ⟨hmissing, front, back, hlist, hfront⟩
      exact ⟨front, back, hlist, hfront, hmissing⟩
    · rintro ⟨front, back, hlist, hfront, hmissing⟩
      exact ⟨hmissing, front, back, hlist, hfront⟩
  unfold verify
  cases hfind : (settings.tools.required settings targets kinds).find?
      (fun program => (Lookup.find? w program).isNone) with
  | none =>
    refine ⟨fun h => (nomatch h), ?_⟩
    rintro ⟨front, program, back, hlist, hfront, hmissing, -⟩
    have hsome := (hfirst program).2 ⟨front, back, hlist, hfront, hmissing⟩
    rw [hfind] at hsome
    cases hsome
  | some program =>
    constructor
    · intro h
      obtain ⟨front, back, hlist, hfront, hmissing⟩ := (hfirst program).1 hfind
      exact ⟨front, program, back, hlist, hfront, hmissing, (Except.error.inj h).symm⟩
    · rintro ⟨front, program', back, hlist, hfront, hmissing, rfl⟩
      have hsome := (hfirst program').2 ⟨front, back, hlist, hfront, hmissing⟩
      rw [hfind] at hsome
      rw [Option.some.inj hsome]

theorem not_toolUnavailable_of_verify {w : World}
    (hverify : verify w settings targets kinds = .ok ()) (htargets : targets ≠ [])
    (hkinds : kinds ≠ []) {workDir : Path} {test : Case} {target : Target}
    (htest : test.kind ∈ kinds) (htarget : target ∈ targets) {σ : Type} {host : Host σ} {s : σ}
    (hmissing : ∀ command name, (command, .error (.notFound name)) ∈
      (Trial.plan ⟨settings, workDir, test, target⟩).launches host s →
        Lookup.find? w command.program = none) (name : String) :
    ((Trial.plan ⟨settings, workDir, test, target⟩).serve host s).1 ≠
      .error (.error (.toolUnavailable name "not found")) := by
  intro h
  -- The program that is said to be missing is a tool, so it has been looked up and found.
  obtain ⟨command, htool, hlaunched⟩ := Trial.exists_tool_of_toolUnavailable h
  have hrequired : command.program ∈ settings.tools.required settings targets kinds :=
    (mem_required_iff_exists_trial workDir htargets hkinds).2 ⟨test, target, htest, htarget, htool⟩
  obtain ⟨found, hfound⟩ := verify_eq_ok_iff.1 hverify _ hrequired
  rw [hmissing command name hlaunched] at hfound
  cases hfound

/-- The programs that are looked up before a run, in their order, are those whose launch by one of
its trials may end it. If they are found, and the system misses no program that can be found, no
trial ends the run for want of one; otherwise the first that is missing is named. -/
theorem verify_matches_trials (settings : Settings) (targets : List Target) (kinds : List Kind)
    (htargets : targets ≠ []) (hkinds : kinds ≠ []) :
    let tools := settings.tools
    let needed := tools.compiler ::
      (if ∃ kind ∈ kinds, (settings.corpus kind).answerDir = none then [tools.referenceCompiler]
        else []) ++
      targets.flatMap fun target => tools.linkDriver target ::
        if target.execution = .simulated then [tools.simulator] else []
    (∀ workDir program cause, program ∈ needed ↔ ∃ test target, test.kind ∈ kinds ∧
      target ∈ targets ∧ Trial.Needs ⟨settings, workDir, test, target⟩ program cause) ∧
    (∀ w, verify w settings targets kinds = .ok () ↔
      ∀ program ∈ needed, ∃ found, Lookup.find? w program = some found) ∧
    (∀ w e, verify w settings targets kinds = .error e ↔ ∃ front program back,
      needed = front ++ program :: back ∧
        (∀ p ∈ front, ∃ found, Lookup.find? w p = some found) ∧
        Lookup.find? w program = none ∧
        e = .toolUnavailable program.display "not found in PATH") ∧
    ∀ w workDir test target, verify w settings targets kinds = .ok () → test.kind ∈ kinds →
      target ∈ targets → ∀ (σ : Type) (host : Host σ) (s : σ),
      (∀ command name, (command, .error (.notFound name)) ∈
        (Trial.plan ⟨settings, workDir, test, target⟩).launches host s →
          Lookup.find? w command.program = none) →
      ∀ name, ((Trial.plan ⟨settings, workDir, test, target⟩).serve host s).1 ≠
        .error (.error (.toolUnavailable name "not found")) := by
  intro tools needed
  have hneeded : needed = tools.required settings targets kinds := by
    simp only [required_eq, funext (requiredFor_eq tools), needed]
  refine ⟨fun workDir program cause => ?_, fun w => ?_, fun w e => ?_, ?_⟩
  · simp only [hneeded, Trial.needs_iff]
    exact mem_required_iff_exists_trial workDir htargets hkinds
  · rw [hneeded]
    exact verify_eq_ok_iff
  · rw [hneeded]
    exact verify_eq_error_iff
  · intro w workDir test target hverify htest htarget σ host s hmissing
    exact not_toolUnavailable_of_verify hverify htargets hkinds htest htarget hmissing

theorem verify_matches_trials_sample :
    let settings := Settings.standard
    let tools := settings.tools
    let t : Trial := ⟨settings, .ofText "/", .ofPath (.ofText "a.c") .c, .riscv64⟩
    let w : World := { Session.equippedWorld with
      files := FileTree.empty.insert [Text.utf8 "moon"] (.file [] false) }
    (∃ test target, test.kind ∈ [Kind.c] ∧ target ∈ [Target.riscv64] ∧
      Trial.Needs ⟨settings, .ofText "/", test, target⟩ tools.simulator .notFound) ∧
    verify w settings [.riscv64] [.c] = .error (.toolUnavailable "clang" "not found in PATH") ∧
    verify Session.equippedWorld settings [.riscv64] [.c] = .ok () ∧
    ∀ name, (t.plan.serve (lacking (.ofText "mold") .notFound) ()).1 ≠
      .error (.error (.toolUnavailable name "not found")) := by
  intro settings tools t w
  obtain ⟨hneeds, -, herror, hended⟩ :=
    verify_matches_trials settings [.riscv64] [.c] (by decide) (by decide)
  have hverify : verify Session.equippedWorld settings [.riscv64] [.c] = .ok () := by
    decide +kernel
  refine ⟨(hneeds _ tools.simulator .notFound).1 (by decide), (herror w _).2 ⟨[tools.compiler],
    tools.referenceCompiler, [tools.riscvDriver, tools.simulator], rfl, ?_, by decide +kernel, ?_⟩,
    hverify, hended Session.equippedWorld _ t.test t.target hverify (by decide) (by decide) Unit
      _ () fun command name hlaunched => ?_⟩
  · have hfound : Lookup.find? w tools.compiler = some (.ofText "/moon") := by decide +kernel
    exact fun p hp => ⟨_, List.mem_singleton.1 hp ▸ hfound⟩
  · decide +kernel
  · have hresult := Trial.result_of_lacking t.plan hlaunched
    by_cases hprogram : command.program = .ofText "mold"
    · rw [hprogram]
      decide +kernel
    · rw [if_neg hprogram] at hresult
      cases hresult

end Tools

end Crosscheck
