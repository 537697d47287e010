import Crosscheck.Proofs.Phases

/-!
# What a verdict means

A trial comes to comparing the run under test with a standard, a recorded answer or the run of a
reference binary, if all phases before that leave what the next one needs. It is passed if it comes
to that and the standard is met, and a mismatch if it comes to that and the standard is not met;
nothing else makes it either.
-/

namespace Crosscheck

/-- What a run under test is held against. -/
inductive Standard where
  | answer (stdout : Bytes)
  | reference (capture : Capture)
  deriving DecidableEq, Repr

theorem map_eq_ok_iff {ε α β : Type} {f : α → β} {x : Except ε α} {b : β} :
    x.map f = .ok b ↔ ∃ a, x = .ok a ∧ f a = b := by
  cases x <;> simp [Except.map]

namespace Standard

/-- Whether a run meets the standard. An answer says nothing on exit code and error stream. -/
def Admits : Standard → Capture → Prop
  | answer stdout, underTest => underTest.stdout = stdout
  | reference capture, underTest => underTest.exitCode = capture.exitCode ∧
      underTest.stdout = capture.stdout ∧ underTest.stderr = capture.stderr

def judge (underTest : Capture) : Standard → Outcome
  | answer stdout => Capture.compareAnswer underTest.stdout stdout
  | reference capture => Capture.compare underTest capture

theorem isNone_streamDiff (expected actual : Bytes) :
    (Capture.streamDiff expected actual).isNone = true ↔ actual = expected := by
  unfold Capture.streamDiff
  by_cases h : expected = actual
  · simp [h]
  · simp [h, Ne.symm h]

/-- Every comparison is the verdict on a mismatch that is empty if the standard is met. -/
theorem judge_eq_verdict (s : Standard) (underTest : Capture) :
    ∃ m, s.judge underTest = Capture.verdict m ∧ (m.isEmpty = true ↔ s.Admits underTest) := by
  cases s with
  | answer stdout =>
    refine ⟨_, rfl, ?_⟩
    simp only [Mismatch.isEmpty, Option.isNone_none, Bool.true_and, Bool.and_true,
      isNone_streamDiff, Admits]
  | reference capture =>
    refine ⟨_, rfl, ?_⟩
    have hexit : (if underTest.exitCode = capture.exitCode then none
        else some (underTest.exitCode, capture.exitCode)).isNone = true ↔
        underTest.exitCode = capture.exitCode := by
      split <;> simp_all
    simp only [Mismatch.isEmpty, Bool.and_eq_true, hexit, isNone_streamDiff, Admits, and_assoc]

theorem judge_of_admits {s : Standard} {underTest : Capture} (h : s.Admits underTest) :
    s.judge underTest = .passed := by
  obtain ⟨m, hm, hempty⟩ := s.judge_eq_verdict underTest
  rw [hm, Capture.verdict, if_pos (hempty.2 h)]

theorem judge_of_not_admits {s : Standard} {underTest : Capture} (h : ¬s.Admits underTest) :
    ∃ m, s.judge underTest = .failedOnMismatch m := by
  obtain ⟨m, hm, hempty⟩ := s.judge_eq_verdict underTest
  exact ⟨m, by rw [hm, Capture.verdict, if_neg (mt hempty.1 h)]⟩

end Standard

namespace Trial

variable (t : Trial) (programs : Behaviour)

/-- Phases that are launched one after the other, each from the world that the one before it left,
and each with a capture that it accepts. -/
inductive Runs : List Phase → World → List Capture → World → Prop
  | nil {w : World} : Runs [] w [] w
  | cons {ph : Phase} {phs : List Phase} {w w₁ w₂ : World} {r : Capture} {rs : List Capture}
      (hlaunch : w.launch programs (t.command ph) t.settings.timeout = (.ok r, w₁))
      (haccepts : t.Accepts ph r) (hrest : Runs phs w₁ rs w₂) : Runs (ph :: phs) w (r :: rs) w₂

/-- The trial comes to comparing a run with a standard. The recorded answer is what its file holds
before the first command. -/
inductive Compares (w : World) : Capture → Standard → Prop
  | answer {dir : Path} {answer : Bytes} {compiled linked underTest : Capture} {w' : World}
      (hsource : w.isFile t.test.source = true)
      (hcorpus : t.corpus.answerDir = some dir)
      (hanswer : w.isFile (t.answerPath dir) = true)
      (hread : w.read (t.answerPath dir) = .ok answer)
      (hruns : t.Runs programs [.compile, .link, .runUnderTest] w
        [compiled, linked, underTest] w') :
      Compares w underTest (.answer answer)
  | reference {compiled linked built underTest reference : Capture} {w' : World}
      (hsource : w.isFile t.test.source = true)
      (hcorpus : t.corpus.answerDir = none)
      (hruns : t.Runs programs [.compile, .link, .buildReference, .runUnderTest, .runReference] w
        [compiled, linked, built, underTest, reference] w') :
      Compares w underTest (.reference reference)

/-- What the phases come to in a world. -/
def outcomes (w : World) : Except Verdict (List Capture) :=
  (((t.performAll t.phases).plan .empty).run programs w).1.1

theorem run_steps_of_look_ok {w : World} {answer : Option Bytes} (h : t.look w = .ok answer) :
    ((t.steps.plan .empty).run programs w).1.1 =
      (t.outcomes programs w).map (conclude answer) := by
  rw [steps_eq, Step.plan_bind, Plan.run_bind, run_opening, h]
  simp only [Step.plan_map, Plan.run_bind, Plan.run, outcomes]

theorem run_steps_of_look_error {w : World} {v : Verdict} (h : t.look w = .error v) :
    ((t.steps.plan .empty).run programs w).1.1 = .error v := by
  rw [steps_eq, Step.plan_bind, Plan.run_bind, run_opening, h]
  rfl

theorem run_plan_fst (w : World) : (t.plan.run programs w).1 =
    verdictOf ((t.steps.plan .empty).run programs w).1.1 := by
  rw [Plan.run_eq_serve, Plan.run_eq_serve, serve_plan_fst]

theorem performAll_eq_ok_iff (phs : List Phase) (made : Artifacts) (w : World) (rs : List Capture) :
    (((t.performAll phs).plan made).run programs w).1.1 = .ok rs ↔
      ∃ w', t.Runs programs phs w rs w' := by
  induction phs generalizing made w rs with
  | nil =>
    constructor
    · intro h
      cases h
      exact ⟨w, .nil⟩
    · rintro ⟨_, h⟩
      cases h
      rfl
  | cons ph phs ih =>
    rw [plan_performAll_cons]
    simp only [Plan.run, World.answer]
    constructor
    · intro h
      cases hsettle : t.settle ph (w.launch programs (t.command ph) t.settings.timeout).1 with
      | error v =>
        rw [hsettle] at h
        cases h
      | ok r =>
        rw [hsettle] at h
        simp only [Plan.run_bind, Plan.run] at h
        obtain ⟨hresult, haccepts⟩ := t.settle_eq_ok_iff.1 hsettle
        obtain ⟨rs', hrs', rfl⟩ := map_eq_ok_iff.1 h
        obtain ⟨w', hrest⟩ := (ih _ _ _).1 hrs'
        exact ⟨w', .cons (Prod.ext hresult rfl) haccepts hrest⟩
    · rintro ⟨w', h⟩
      cases h with
      | cons hlaunch haccepts hrest =>
        rw [hlaunch, t.settle_eq_ok_iff.2 ⟨rfl, haccepts⟩]
        simp only [Plan.run_bind, Plan.run, (ih _ _ _).2 ⟨w', hrest⟩]
        rfl

/-- The verdict of a trial that comes to a comparison is the outcome of that comparison. -/
theorem run_plan_of_compares {w : World} {underTest : Capture} {s : Standard}
    (h : t.Compares programs w underTest s) :
    (t.plan.run programs w).1 = .ok (s.judge underTest) := by
  cases h with
  | @answer dir answer _ _ _ _ hsource hcorpus hanswer hread hruns =>
    have hlook : t.look w = .ok (some answer) := by
      simp only [look, hsource, hcorpus, hanswer, hread, if_true]
    have hphases : t.phases = [.compile, .link, .runUnderTest] := by simp only [phases, hcorpus]
    rw [run_plan_fst, t.run_steps_of_look_ok programs hlook, outcomes, hphases,
      (t.performAll_eq_ok_iff programs ..).2 ⟨_, hruns⟩]
    rfl
  | reference hsource hcorpus hruns =>
    have hlook : t.look w = .ok none := by simp only [look, hsource, hcorpus, if_true]
    have hphases : t.phases =
        [.compile, .link, .buildReference, .runUnderTest, .runReference] := by
      simp only [phases, hcorpus]
    rw [run_plan_fst, t.run_steps_of_look_ok programs hlook, outcomes, hphases,
      (t.performAll_eq_ok_iff programs ..).2 ⟨_, hruns⟩]
    rfl

theorem Runs.exists_cons {ph : Phase} {phs : List Phase} {w w' : World} {rs : List Capture}
    (h : t.Runs programs (ph :: phs) w rs w') :
    ∃ r rest w₁, rs = r :: rest ∧ t.Runs programs phs w₁ rest w' := by
  cases h with
  | cons hlaunch haccepts hrest => exact ⟨_, _, _, rfl, hrest⟩

theorem Runs.eq_nil {w w' : World} {rs : List Capture} (h : t.Runs programs [] w rs w') :
    rs = [] := by
  cases h
  rfl

theorem compares_of_runs {w w' : World} {answer : Option Bytes} {rs : List Capture}
    (hlook : t.look w = .ok answer) (hruns : t.Runs programs t.phases w rs w') :
    ∃ underTest s, t.Compares programs w underTest s := by
  unfold look at hlook
  split at hlook
  · next hsource =>
    cases hcorpus : t.corpus.answerDir with
    | none =>
      simp only [phases, hcorpus] at hruns
      obtain ⟨compiled, _, _, rfl, hlink⟩ := hruns.exists_cons
      obtain ⟨linked, _, _, rfl, hbuild⟩ := hlink.exists_cons
      obtain ⟨built, _, _, rfl, hrun⟩ := hbuild.exists_cons
      obtain ⟨underTest, _, _, rfl, hreference⟩ := hrun.exists_cons
      obtain ⟨reference, _, _, rfl, hend⟩ := hreference.exists_cons
      obtain rfl := hend.eq_nil
      exact ⟨underTest, _, .reference hsource hcorpus hruns⟩
    | some dir =>
      simp only [phases, hcorpus] at hruns hlook
      split at hlook
      · next hanswer =>
        cases hread : w.read (t.answerPath dir) with
        | error cause => simp only [hread] at hlook; cases hlook
        | ok bytes =>
          obtain ⟨compiled, _, _, rfl, hlink⟩ := hruns.exists_cons
          obtain ⟨linked, _, _, rfl, hrun⟩ := hlink.exists_cons
          obtain ⟨underTest, _, _, rfl, hend⟩ := hrun.exists_cons
          obtain rfl := hend.eq_nil
          exact ⟨underTest, _, .answer hsource hcorpus hanswer hread hruns⟩
      · cases hlook
  · cases hlook

theorem ne_of_look {w : World} {o : Outcome} (h : t.look w = .error (.ok o)) :
    o ≠ .passed ∧ ∀ m, o ≠ .failedOnMismatch m := by
  unfold look at h
  repeat' split at h
  all_goals cases h <;> simp

/-- Only a comparison makes a trial passed or a mismatch. -/
theorem compares_of_run_plan {w : World} {o : Outcome} (h : (t.plan.run programs w).1 = .ok o)
    (ho : o = .passed ∨ ∃ m, o = .failedOnMismatch m) :
    ∃ underTest s, t.Compares programs w underTest s := by
  rw [run_plan_fst] at h
  cases hlook : t.look w with
  | error v =>
    rw [t.run_steps_of_look_error programs hlook] at h
    obtain rfl : v = .ok o := h
    obtain ⟨hpassed, hmismatch⟩ := t.ne_of_look hlook
    obtain rfl | ⟨m, rfl⟩ := ho
    · exact absurd rfl hpassed
    · exact absurd rfl (hmismatch m)
  | ok answer =>
    rw [t.run_steps_of_look_ok programs hlook] at h
    cases hall : t.outcomes programs w with
    | error v =>
      rw [hall] at h
      rw [outcomes, Plan.run_eq_serve] at hall
      obtain ⟨ph, result, hsettle⟩ := t.exists_settle_of_performAll _ hall
      obtain rfl : v = .ok o := h
      obtain ⟨detail, rfl⟩ := t.outcome_of_blames (t.blames_of_settle hsettle)
      obtain ho | ⟨m, ho⟩ := ho <;> cases ph <;> cases ho
    | ok rs =>
      obtain ⟨w', hruns⟩ := (t.performAll_eq_ok_iff programs ..).1 hall
      exact t.compares_of_runs programs hlook hruns

/-- A trial is passed exactly if it comes to a comparison and the standard is met, and a mismatch
exactly if it comes to a comparison and the standard is not met. -/
theorem passed_iff_admits (t : Trial) (programs : Behaviour) (w : World) :
    ((t.plan.run programs w).1 = .ok .passed ↔
      ∃ underTest s, t.Compares programs w underTest s ∧ s.Admits underTest) ∧
    ((∃ m, (t.plan.run programs w).1 = .ok (.failedOnMismatch m)) ↔
      ∃ underTest s, t.Compares programs w underTest s ∧ ¬s.Admits underTest) := by
  constructor
  · constructor
    · intro h
      obtain ⟨underTest, s, hcompares⟩ := t.compares_of_run_plan programs h (.inl rfl)
      refine ⟨underTest, s, hcompares, Classical.byContradiction fun hadmits => ?_⟩
      obtain ⟨m, hm⟩ := Standard.judge_of_not_admits hadmits
      rw [t.run_plan_of_compares programs hcompares, hm] at h
      cases h
    · rintro ⟨underTest, s, hcompares, hadmits⟩
      rw [t.run_plan_of_compares programs hcompares, Standard.judge_of_admits hadmits]
  · constructor
    · rintro ⟨m, h⟩
      obtain ⟨underTest, s, hcompares⟩ := t.compares_of_run_plan programs h (.inr ⟨m, rfl⟩)
      refine ⟨underTest, s, hcompares, fun hadmits => ?_⟩
      rw [t.run_plan_of_compares programs hcompares, Standard.judge_of_admits hadmits] at h
      cases h
    · rintro ⟨underTest, s, hcompares, hadmits⟩
      obtain ⟨m, hm⟩ := Standard.judge_of_not_admits hadmits
      exact ⟨m, by rw [t.run_plan_of_compares programs hcompares, hm]⟩

end Trial

end Crosscheck
