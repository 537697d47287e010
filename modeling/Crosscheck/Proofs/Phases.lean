import Crosscheck.Proofs.Conversation
import Crosscheck.Trial

/-!
# The phases of a trial

Every command of a trial belongs to a phase. Phases differ in what they launch, what they write,
what they take for success and how a failure of theirs is put, and in nothing else: `perform` is one
definition for all of them, and a trial is its opening, which looks at the files, followed by its
phases in order.
-/

namespace Crosscheck

/-- The commands of a trial, by what they are for. -/
inductive Phase where
  | compile
  | link
  | buildReference
  | runUnderTest
  | runReference
  deriving DecidableEq, Repr

/-- What is said of a capture that is no success. -/
def Phase.complaint (r : Capture) : Phase → String
  | compile =>
    if r.succeeded then "unexpected compiler output: " ++ r.diagnostics
    else r.failureDetail "compilation failed"
  | link => r.failureDetail "Assembly linking failed"
  | buildReference => r.failureDetail "Standard compilation failed"
  | runUnderTest | runReference => ""

/-- The outcome that stands for the failure of a phase. -/
def Phase.outcome : Phase → String → Outcome
  | compile => .failedAtCompilation
  | link => .failedAtAssembly
  | buildReference => .failedAtReferenceCompilation
  | runUnderTest | runReference => .failedAtExecution

namespace Trial

namespace Step

variable {α β : Type}

/-- What a step does when some artifacts have been made already. -/
def plan (x : Step α) (made : Artifacts) : Plan (Except Verdict α × Artifacts) := x.run.run made

theorem ext {x y : Step α} (h : ∀ made, x.plan made = y.plan made) : x = y := funext h

@[simp] theorem plan_pure (a : α) (made : Artifacts) :
    plan (pure a) made = .done (.ok a, made) := rfl

@[simp] theorem plan_bind (x : Step α) (f : α → Step β) (made : Artifacts) :
    (x >>= f).plan made = x.plan made >>= fun ending =>
      match ending with
      | (.ok a, made) => (f a).plan made
      | (.error v, made) => .done (.error v, made) := by
  refine congrArg (x.plan made >>= ·) (funext fun ending => ?_)
  obtain ⟨_ | _, _⟩ := ending <;> rfl

@[simp] theorem plan_discard (x : Step α) (made : Artifacts) :
    (discard x).plan made = x.plan made >>= fun ending =>
      .done (ending.1.map fun _ => (), ending.2) := by
  refine congrArg (x.plan made >>= ·) (funext fun ending => ?_)
  obtain ⟨_ | _, _⟩ := ending <;> rfl

@[simp] theorem plan_map (f : α → β) (x : Step α) (made : Artifacts) :
    (f <$> x).plan made = x.plan made >>= fun ending => .done (ending.1.map f, ending.2) := by
  refine congrArg (x.plan made >>= ·) (funext fun ending => ?_)
  obtain ⟨_ | _, _⟩ := ending <;> rfl

@[simp] theorem plan_throw (v : Verdict) (made : Artifacts) :
    plan (throw v : Step α) made = .done (.error v, made) := rfl

@[simp] theorem plan_finish (o : Outcome) (made : Artifacts) :
    plan (finish o : Step α) made = .done (.error (.ok o), made) := rfl

@[simp] theorem plan_abort (f : Fatal) (made : Artifacts) :
    plan (abort f : Step α) made = .done (.error (.error f), made) := rfl

@[simp] theorem plan_ask (r : Request) (made : Artifacts) :
    (ask r).plan made = .ask r fun a => .done (.ok a, made) := rfl

@[simp] theorem plan_track (p : Path) (made : Artifacts) :
    (track p).plan made = .done (.ok (), made.track p) := rfl

end Step

open Step

variable (t : Trial)

def command : Phase → Command
  | .compile => t.compileCommand
  | .link => t.linkCommand
  | .buildReference => t.referenceCommand
  | .runUnderTest => t.runCommand
  | .runReference => t.runReferenceCommand

/-- The path after the `-o` of a phase's command. -/
def product? : Phase → Option Path
  | .compile => some t.products.assembly
  | .link => some t.products.underTest
  | .buildReference => some t.products.reference
  | .runUnderTest | .runReference => none

def role : Phase → Role
  | .compile | .link | .buildReference => .tool
  | .runUnderTest => t.runRole
  | .runReference => .product

def failed : Phase → String → Outcome
  | .compile => .failedAtCompilation
  | .link => .failedAtAssembly
  | .buildReference => .failedAtReferenceCompilation
  | .runUnderTest => t.runFailure
  | .runReference => fun detail => .failedAtExecution ("reference binary: " ++ detail)

/-- What a phase takes for success. A run may end as it likes. -/
def Accepts : Phase → Capture → Prop
  | .compile, r => r.exitCode = 0 ∧
      (t.settings.strictDiagnostics = true → r.stdout = [] ∧ r.stderr = [])
  | .link, r | .buildReference, r => r.exitCode = 0
  | .runUnderTest, _ | .runReference, _ => True

instance (ph : Phase) (r : Capture) : Decidable (t.Accepts ph r) :=
  match ph with
  | .compile => inferInstanceAs (Decidable (_ = _ ∧ (_ → _ ∧ _)))
  | .link | .buildReference => inferInstanceAs (Decidable (_ = _))
  | .runUnderTest | .runReference => .isTrue trivial

/-- What the launch of a phase comes to: a capture to go on with, or the end of the trial. -/
def settle (ph : Phase) : Except LaunchError Capture → Except Verdict Capture
  | .ok r => if t.Accepts ph r then .ok r else .error (.ok (t.failed ph (ph.complaint r)))
  | .error e => .error ((e.classify (t.role ph)).map (t.failed ph))

/-- The artifacts once a phase has taken on its product. -/
def hold (ph : Phase) (made : Artifacts) : Artifacts :=
  match t.product? ph with
  | some p => made.track p
  | none => made

def perform (ph : Phase) : Step Capture := fun made =>
  .ask (.launch (t.command ph) t.settings.timeout) fun result =>
    .done (t.settle ph result, t.hold ph made)

@[simp] theorem plan_perform (ph : Phase) (made : Artifacts) :
    (t.perform ph).plan made = .ask (.launch (t.command ph) t.settings.timeout) fun result =>
      .done (t.settle ph result, t.hold ph made) := rfl

/-- Performs phases up to the first that ends the trial. -/
def performAll : List Phase → Step (List Capture)
  | [] => return []
  | ph :: phs => do
    let r ← t.perform ph
    (r :: ·) <$> performAll phs

theorem settle_eq_ok_iff {ph : Phase} {result : Except LaunchError Capture} {r : Capture} :
    t.settle ph result = .ok r ↔ result = .ok r ∧ t.Accepts ph r := by
  cases result with
  | error e => simp [settle]
  | ok r' =>
    simp only [settle, Except.ok.injEq]
    split
    · next haccepts =>
      constructor
      · intro h
        cases h
        exact ⟨rfl, haccepts⟩
      · rintro ⟨rfl, -⟩
        rfl
    · next hrefused =>
      constructor
      · intro h
        cases h
      · rintro ⟨rfl, haccepts⟩
        exact absurd haccepts hrefused

/-- What the failure of a phase makes of a trial, by how it failed. A capture that is not accepted
and a command that takes too long are failures of the case, and so is a product that cannot be
launched; a tool that cannot be launched ends the run, and so does all else. -/
def Blames (ph : Phase) (v : Verdict) : Except LaunchError Capture → Prop
  | .ok _ | .error (.timedOut ..) => ∃ detail, v = .ok (ph.outcome detail)
  | .error (.notFound program) =>
    match t.role ph with
    | .tool => v = .error (.error (.toolUnavailable program "not found"))
    | .product => ∃ detail, v = .ok (ph.outcome detail)
  | .error (.refused program cause) =>
    match t.role ph with
    | .tool => v = .error (.error (.toolUnavailable program cause.message))
    | .product => ∃ detail, v = .ok (ph.outcome detail)
  | .error (.io cause) => v = .error (.error (.io cause))
  | .error .deadlineOverflow => v = .error .deadlineOverflow

theorem failed_eq_outcome (ph : Phase) (text : String) :
    ∃ detail, t.failed ph text = ph.outcome detail := by
  cases ph <;> exact ⟨_, rfl⟩

theorem blames_of_settle {ph : Phase} {result : Except LaunchError Capture} {v : Verdict}
    (h : t.settle ph result = .error v) : t.Blames ph v result := by
  cases result with
  | ok r =>
    simp only [settle] at h
    split at h
    · cases h
    · cases h
      obtain ⟨detail, hdetail⟩ := t.failed_eq_outcome ph (ph.complaint r)
      exact ⟨detail, congrArg Except.ok hdetail⟩
  | error e =>
    cases h
    obtain ⟨detail, hdetail⟩ := t.failed_eq_outcome ph e.message
    cases e with
    | notFound program =>
      cases hrole : t.role ph with
      | tool => simp only [Blames, hrole]; rfl
      | product => simp only [Blames, hrole]; exact ⟨detail, congrArg Except.ok hdetail⟩
    | refused program cause =>
      cases hrole : t.role ph with
      | tool => simp only [Blames, hrole]; rfl
      | product => simp only [Blames, hrole]; exact ⟨detail, congrArg Except.ok hdetail⟩
    | timedOut program limit => exact ⟨detail, congrArg Except.ok hdetail⟩
    | io cause => rfl
    | deadlineOverflow => rfl

theorem outcome_of_blames {ph : Phase} {result : Except LaunchError Capture} {o : Outcome}
    (h : t.Blames ph (.ok o) result) : ∃ detail, o = ph.outcome detail := by
  have hok : (∃ detail, (.ok o : Verdict) = .ok (ph.outcome detail)) →
      ∃ detail, o = ph.outcome detail := fun ⟨detail, hdetail⟩ => ⟨detail, Except.ok.inj hdetail⟩
  rcases result with e | r
  · cases e with
    | notFound program => cases hrole : t.role ph <;> simp_all [Blames]
    | refused program cause => cases hrole : t.role ph <;> simp_all [Blames]
    | timedOut program limit => exact hok h
    | io cause => cases h
    | deadlineOverflow => cases h
  · exact hok h

theorem plan_performAll_cons (ph : Phase) (phs : List Phase) (made : Artifacts) :
    (t.performAll (ph :: phs)).plan made =
      .ask (.launch (t.command ph) t.settings.timeout) fun result =>
        match t.settle ph result with
        | .ok r => (t.performAll phs).plan (t.hold ph made) >>= fun ending =>
          .done (ending.1.map (r :: ·), ending.2)
        | .error v => .done (.error v, t.hold ph made) := by
  rw [performAll, plan_bind, plan_perform, Plan.ask_bind]
  refine congrArg (Plan.ask _) (funext fun result => ?_)
  rw [Plan.done_bind]
  cases t.settle ph result with
  | error v => rfl
  | ok r => exact plan_map ..

@[simp] theorem plan_launch (role : Role) (command : Command) (failed : String → Outcome)
    (made : Artifacts) :
    (t.launch role command failed).plan made = .ask (.launch command t.settings.timeout)
      fun result => .done (match result with
        | .ok r => .ok r
        | .error e => .error ((e.classify role).map failed), made) := by
  refine congrArg (Plan.ask (.launch command t.settings.timeout)) (funext fun result => ?_)
  cases result <;> rfl

@[simp] theorem plan_produce (product : Path) (command : Command) (failed : String → Outcome)
    (fallback : String) (made : Artifacts) :
    (t.produce product command failed fallback).plan made =
      .ask (.launch command t.settings.timeout) fun result => .done (match result with
        | .ok r => if r.succeeded then .ok r else .error (.ok (failed (r.failureDetail fallback)))
        | .error e => .error ((e.classify .tool).map failed), made.track product) := by
  simp only [produce, plan_bind, plan_track, plan_launch, Plan.done_bind, Plan.ask_bind]
  congr 1
  funext result
  cases result with
  | error e => rfl
  | ok r => by_cases h : r.succeeded = true <;> simp [h]

theorem succeeded_iff (r : Capture) : r.succeeded = true ↔ r.exitCode = 0 := by
  simp [Capture.succeeded]

theorem hasOutput_eq_false_iff (r : Capture) :
    r.hasOutput = false ↔ r.stdout = [] ∧ r.stderr = [] := by
  simp [Capture.hasOutput]

theorem produce_eq_perform (ph : Phase) (product : Path) (fallback : String)
    (hproduct : t.product? ph = some product) (hrole : t.role ph = .tool)
    (haccepts : ∀ r, t.Accepts ph r ↔ r.exitCode = 0)
    (hcomplaint : ∀ r, ph.complaint r = r.failureDetail fallback) :
    t.produce product (t.command ph) (t.failed ph) fallback = t.perform ph := by
  refine Step.ext fun made => ?_
  rw [plan_produce, plan_perform]
  refine congrArg (Plan.ask _) (funext fun result => ?_)
  simp only [hold, hproduct]
  cases result with
  | error e => rw [settle, hrole]
  | ok r =>
    by_cases hexit : r.exitCode = 0
    · rw [settle, if_pos ((haccepts r).2 hexit)]
      simp only [(succeeded_iff r).2 hexit, if_true]
    · rw [settle, if_neg (mt (haccepts r).1 hexit), hcomplaint]
      simp only [mt (succeeded_iff r).1 hexit, Bool.false_eq_true, if_false]

theorem accepts_compile_iff (r : Capture) : t.Accepts .compile r ↔
    r.succeeded = true ∧ (t.settings.strictDiagnostics && r.hasOutput) = false := by
  rw [succeeded_iff, Bool.and_eq_false_imp, hasOutput_eq_false_iff]
  rfl

theorem compile_eq_perform : t.compile = discard (t.perform .compile) := by
  refine Step.ext fun made => ?_
  simp only [compile, plan_bind, plan_discard, plan_produce, plan_perform, Plan.ask_bind,
    Plan.done_bind]
  refine congrArg (Plan.ask _) (funext fun result => ?_)
  cases result with
  | error e => rfl
  | ok r =>
    simp only [settle, accepts_compile_iff, Phase.complaint, failed]
    by_cases hs : r.succeeded = true
    · by_cases hnoisy : (t.settings.strictDiagnostics && r.hasOutput) = true
      · simp only [hs, hnoisy, if_true, plan_finish]
        rfl
      · simp only [hs, hnoisy, if_true]
        rfl
    · simp only [hs, Bool.false_eq_true, if_false, false_and]
      rfl

theorem link_eq_perform : t.link = discard (t.perform .link) :=
  congrArg discard (t.produce_eq_perform .link _ _ rfl rfl (fun _ => Iff.rfl) fun _ => rfl)

theorem buildReference_eq_perform : t.buildReference = discard (t.perform .buildReference) :=
  congrArg discard
    (t.produce_eq_perform .buildReference _ _ rfl rfl (fun _ => Iff.rfl) fun _ => rfl)

theorem runUnderTest_eq_perform : t.runUnderTest = t.perform .runUnderTest := by
  refine Step.ext fun made => ?_
  rw [runUnderTest, plan_launch, plan_perform]
  refine congrArg (Plan.ask _) (funext fun result => ?_)
  cases result <;> rfl

theorem runReference_eq_perform : t.runReference = t.perform .runReference := by
  refine Step.ext fun made => ?_
  rw [runReference, plan_launch, plan_perform]
  refine congrArg (Plan.ask _) (funext fun result => ?_)
  cases result <;> rfl

/-- The phases of a trial. A recorded answer stands in for the reference binary. -/
def phases : List Phase :=
  match t.corpus.answerDir with
  | none => [.compile, .link, .buildReference, .runUnderTest, .runReference]
  | some _ => [.compile, .link, .runUnderTest]

/-- What a trial looks at before its first command. -/
def opening : Step (Option Bytes) := do
  t.checkSource
  t.readAnswer

/-- What the captures of all phases come to. -/
def conclude : Option Bytes → List Capture → Outcome
  | some answer, [_, _, underTest] => Capture.compareAnswer underTest.stdout answer
  | none, [_, _, _, underTest, reference] => Capture.compare underTest reference
  | _, _ => .passed

@[simp] theorem plan_checkSource (made : Artifacts) :
    t.checkSource.plan made = .ask (.isFile t.test.source) fun isThere =>
      .done (if isThere then .ok () else .error (.ok (.sourceNotFound t.test.source)), made) := by
  refine congrArg (Plan.ask _) (funext fun isThere => ?_)
  cases isThere <;> rfl

theorem plan_readAnswer (made : Artifacts) :
    t.readAnswer.plan made = match t.corpus.answerDir with
      | none => .done (.ok none, made)
      | some dir => .ask (.isFile (t.answerPath dir)) fun isThere =>
        if isThere then .ask (.read (t.answerPath dir)) fun content =>
          .done (match content with
            | .ok bytes => .ok (some bytes)
            | .error cause => .error (.error (.error (.io cause))), made)
        else .done (.error (.ok (.skipped "no answer file")), made) := by
  unfold readAnswer
  cases t.corpus.answerDir with
  | none => rfl
  | some dir =>
    refine congrArg (Plan.ask _) (funext fun isThere => ?_)
    cases isThere with
    | false => rfl
    | true =>
      refine congrArg (Plan.ask _) (funext fun content => ?_)
      cases content <;> rfl

theorem discard_bind {α β : Type} (x : Step α) (f : Unit → Step β) :
    (discard x >>= f) = x >>= fun _ => f () := by
  rw [discard, map_const, Function.comp_apply, bind_map_left]

theorem steps_without_answer (h : t.corpus.answerDir = none) :
    (do t.compile; t.link; t.judge none) =
      conclude none <$> t.performAll t.phases := by
  simp only [phases, h, performAll, judge, compile_eq_perform, link_eq_perform,
    buildReference_eq_perform, runUnderTest_eq_perform, runReference_eq_perform, discard_bind,
    map_bind, map_pure, conclude]

theorem steps_with_answer {dir : Path} (h : t.corpus.answerDir = some dir) (answer : Bytes) :
    (do t.compile; t.link; t.judge (some answer)) =
      conclude (some answer) <$> t.performAll t.phases := by
  simp only [phases, h, performAll, judge, compile_eq_perform, link_eq_perform,
    runUnderTest_eq_perform, discard_bind, map_bind, map_pure, conclude]

theorem steps_eq : t.steps = t.opening >>= fun answer =>
    conclude answer <$> t.performAll t.phases := by
  refine Step.ext fun made => ?_
  simp only [steps, opening, bind_assoc, plan_bind t.checkSource, plan_checkSource, Plan.ask_bind,
    Plan.done_bind]
  refine congrArg (Plan.ask _) (funext fun isThere => ?_)
  cases isThere with
  | false => rfl
  | true =>
    simp only [if_true]
    rw [plan_bind, plan_bind, plan_readAnswer]
    cases h : t.corpus.answerDir with
    | none =>
      exact congrArg (fun x : Step Outcome => x.plan made) (t.steps_without_answer h)
    | some dir =>
      refine congrArg (Plan.ask _) (funext fun isThere => ?_)
      cases isThere with
      | false => rfl
      | true =>
        refine congrArg (Plan.ask _) (funext fun content => ?_)
        cases content with
        | error cause => rfl
        | ok answer =>
          exact congrArg (fun x : Step Outcome => x.plan made) (t.steps_with_answer h answer)

/-- The verdict on a trial whose steps ended in some way. -/
def verdictOf : Except Verdict Outcome → Verdict
  | .ok outcome => .ok outcome
  | .error verdict => verdict

theorem plan_eq : t.plan = t.steps.plan .empty >>= fun ending =>
    ending.2.release >>= fun _ => pure (verdictOf ending.1) := rfl

/-- A trial is its opening, its phases, and the removal of what they made. -/
theorem plan_eq_opening : t.plan = t.opening.plan .empty >>= fun ending =>
    match ending with
    | (.error v, made) => made.release >>= fun _ => .done v
    | (.ok answer, made) => (t.performAll t.phases).plan made >>= fun ending =>
      ending.2.release >>= fun _ => .done (verdictOf (ending.1.map (conclude answer))) := by
  rw [plan_eq, steps_eq, Step.plan_bind, bind_assoc]
  refine congrArg (t.opening.plan .empty >>= ·) (funext fun ending => ?_)
  obtain ⟨v | answer, made⟩ := ending
  · rfl
  · simp only [Step.plan_map, bind_assoc, Plan.done_bind]
    rfl

/-- What the opening finds in a world, which it leaves as it is. -/
def look (w : World) : Except Verdict (Option Bytes) :=
  if w.isFile t.test.source then
    match t.corpus.answerDir with
    | none => .ok none
    | some dir =>
      if w.isFile (t.answerPath dir) then
        match w.read (t.answerPath dir) with
        | .ok bytes => .ok (some bytes)
        | .error cause => .error (.error (.error (.io cause)))
      else .error (.ok (.skipped "no answer file"))
  else .error (.ok (.sourceNotFound t.test.source))

theorem run_opening (programs : Behaviour) (made : Artifacts) (w : World) :
    (t.opening.plan made).run programs w = ((t.look w, made), w) := by
  rw [opening, Step.plan_bind, plan_checkSource]
  simp only [Plan.ask_bind, Plan.done_bind, Plan.run, World.answer, look]
  by_cases hsource : w.isFile t.test.source = true
  · simp only [hsource, if_true]
    rw [plan_readAnswer]
    cases t.corpus.answerDir with
    | none => rfl
    | some dir =>
      simp only [Plan.run, World.answer]
      by_cases hanswer : w.isFile (t.answerPath dir) = true
      · simp only [hanswer, if_true, Plan.run, World.answer]
        cases w.read (t.answerPath dir) <;> rfl
      · simp only [hanswer, Bool.false_eq_true, if_false, Plan.run]
  · simp only [hsource, Bool.false_eq_true, if_false, Plan.run]

variable {σ : Type} (host : Host σ)

theorem serve_plan_fst (s : σ) :
    (t.plan.serve host s).1 = verdictOf ((t.steps.plan .empty).serve host s).1.1 := by
  rw [plan_eq, Plan.serve_bind, Plan.serve_bind]
  rfl

theorem serve_performAll_cons (ph : Phase) (phs : List Phase) (made : Artifacts) (s : σ) :
    ((t.performAll (ph :: phs)).plan made).serve host s =
      let (result, s) := host s (.launch (t.command ph) t.settings.timeout)
      match t.settle ph result with
      | .ok r =>
        let (ending, s) := ((t.performAll phs).plan (t.hold ph made)).serve host s
        ((ending.1.map (r :: ·), ending.2), s)
      | .error v => ((.error v, t.hold ph made), s) := by
  rw [plan_performAll_cons, Plan.serve]
  cases h : t.settle ph (host s (.launch (t.command ph) t.settings.timeout)).1 with
  | error v => simp only [h, Plan.serve]
  | ok r => simp only [h, Plan.serve_bind, Plan.serve]

theorem exists_settle_of_performAll {phs : List Phase} {made : Artifacts} {s : σ} {v : Verdict}
    (h : (((t.performAll phs).plan made).serve host s).1.1 = .error v) :
    ∃ ph result, t.settle ph result = .error v := by
  induction phs generalizing made s with
  | nil => cases h
  | cons ph phs ih =>
    rw [serve_performAll_cons] at h
    cases hsettle : t.settle ph (host s (.launch (t.command ph) t.settings.timeout)).1 with
    | error v' =>
      simp only [hsettle, Except.error.injEq] at h
      exact ⟨ph, _, h ▸ hsettle⟩
    | ok r =>
      simp only [hsettle] at h
      apply ih
      cases hrest : (((t.performAll phs).plan (t.hold ph made)).serve host
          (host s (.launch (t.command ph) t.settings.timeout)).2).1.1 with
      | error v' => rw [hrest] at h; exact h ▸ rfl
      | ok rs => rw [hrest] at h; cases h

end Trial

end Crosscheck
