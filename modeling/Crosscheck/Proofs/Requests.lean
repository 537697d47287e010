import Crosscheck.Proofs.Alike
import Crosscheck.Proofs.Tracking

/-!
# What a trial asks

A trial looks at its inputs, launches its commands, removes its products and asks for the time, and
it goes alike with itself: the time, the cause of a failed reading and what comes of a removal make
no difference to its outcome.
-/

namespace Crosscheck

open FileTree

namespace Trial

variable (t : Trial)

/-- The files that a trial or its commands read and none of its commands writes. -/
def inputs : List Path :=
  t.test.source :: t.runtime :: (t.corpus.answerDir.map t.answerPath).toList

/-- What a trial may ask. -/
inductive Asks : Request → Prop
  | isFile {p : Path} (h : p ∈ t.inputs) : Asks (.isFile p)
  | read {p : Path} (h : p ∈ t.inputs) : Asks (.read p)
  | remove {p : Path} (h : p ∈ t.products.toList) : Asks (.remove p)
  | launch (ph : Phase) : Asks (.launch (t.command ph) t.settings.timeout)
  | now : Asks .now

/-- A result without the time that it took. -/
def Result.timeless (r : Result) : Case × Target × Outcome := (r.test, r.target, r.outcome)

variable {t}

theorem source_mem : t.test.source ∈ t.inputs := List.mem_cons_self

theorem runtime_mem : t.runtime ∈ t.inputs := List.mem_cons_of_mem _ List.mem_cons_self

theorem answer_mem {dir : Path} (h : t.corpus.answerDir = some dir) :
    t.answerPath dir ∈ t.inputs := by
  simp [inputs, h]

theorem alike_removeAll {ps : List Path} (h : ps ⊆ t.products.toList) :
    (Artifacts.removeAll ps).Alike t.Asks (fun _ _ => True) (Artifacts.removeAll ps) := by
  induction ps with
  | nil => exact .done trivial
  | cons p ps ih =>
    refine .ask (.remove (h List.mem_cons_self)) fun a b _ => ?_
    exact (ih fun q hq => h (List.mem_cons_of_mem p hq)).bind fun _ _ _ => .done trivial

/-- Phases go alike up to the artifacts that they make, which are products. -/
theorem alike_performAll (phs : List Phase) {made : Artifacts}
    (h : made.paths ⊆ t.products.toList) :
    ((t.performAll phs).plan made).Alike t.Asks
      (fun x y => x = y ∧ x.2.paths ⊆ t.products.toList) ((t.performAll phs).plan made) := by
  induction phs generalizing made with
  | nil => exact .done ⟨rfl, h⟩
  | cons ph phs ih =>
    rw [plan_performAll_cons]
    refine .ask (.launch ph) fun a b hab => ?_
    obtain rfl : a = b := hab
    have hheld := (t.hold_subset ph h).2
    cases t.settle ph a with
    | error v => exact .done ⟨rfl, hheld⟩
    | ok r =>
      refine (ih hheld).bind ?_
      rintro x _ ⟨rfl, hx⟩
      exact .done ⟨rfl, hx⟩

/-- Ways for the opening to end that make no difference: a failed reading has some cause. -/
def SameOpening (x y : Except Verdict (Option Bytes) × Artifacts) : Prop :=
  x.2 = .empty ∧ y.2 = .empty ∧
    (x.1 = y.1 ∨ ∃ f f', x.1 = .error (.error f) ∧ y.1 = .error (.error f'))

theorem alike_opening :
    (t.opening.plan .empty).Alike t.Asks SameOpening (t.opening.plan .empty) := by
  simp only [opening, Step.plan_bind, plan_checkSource, Plan.ask_bind, Plan.done_bind]
  refine .ask (.isFile source_mem) fun a b hab => ?_
  obtain rfl : a = b := hab
  cases a with
  | false => exact .done ⟨rfl, rfl, .inl rfl⟩
  | true =>
    simp only [if_true]
    rw [plan_readAnswer]
    cases hcorpus : t.corpus.answerDir with
    | none => exact .done ⟨rfl, rfl, .inl rfl⟩
    | some dir =>
      refine .ask (.isFile (answer_mem hcorpus)) fun a b hab => ?_
      obtain rfl : a = b := hab
      cases a with
      | false => exact .done ⟨rfl, rfl, .inl rfl⟩
      | true =>
        refine .ask (.read (answer_mem hcorpus)) fun a b hab => .done ⟨rfl, rfl, ?_⟩
        cases a with
        | ok bytes =>
          cases b with
          | ok bytes' =>
            obtain rfl : bytes = bytes' := Option.some.inj hab
            exact .inl rfl
          | error cause => cases hab
        | error cause =>
          cases b with
          | ok bytes => cases hab
          | error cause' => exact .inr ⟨_, _, rfl, rfl⟩

/-- A trial goes alike with itself up to its verdict, where one fatal error is like another. -/
theorem alike_plan : t.plan.Alike t.Asks (fun v v' => v.toOption = v'.toOption) t.plan := by
  rw [plan_eq_opening]
  refine alike_opening.bind ?_
  rintro ⟨x, made⟩ ⟨y, made'⟩ ⟨rfl, rfl, hxy⟩
  have hnone : Artifacts.empty.paths ⊆ t.products.toList := List.nil_subset _
  rcases hxy with rfl | ⟨f, f', rfl, rfl⟩
  · cases x with
    | error v => exact (alike_removeAll hnone).bind fun _ _ _ => .done rfl
    | ok answer =>
      refine (alike_performAll t.phases hnone).bind ?_
      rintro x _ ⟨rfl, hx⟩
      exact (alike_removeAll hx).bind fun _ _ _ => .done rfl
  · exact (alike_removeAll hnone).bind fun _ _ _ => .done rfl

theorem alike_timed : t.timed.Alike t.Asks
    (fun x y => x.toOption.map Result.timeless = y.toOption.map Result.timeless) t.timed := by
  refine .ask .now fun start start' _ => alike_plan.bind fun v v' hv => ?_
  refine .ask .now fun stop stop' _ => .done ?_
  cases v with
  | error f =>
    cases v' with
    | error f' => rfl
    | ok outcome => cases hv
  | ok outcome =>
    cases v' with
    | error f => cases hv
    | ok outcome' =>
      obtain rfl : outcome = outcome' := Option.some.inj hv
      rfl

end Trial

end Crosscheck
