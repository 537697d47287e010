import Crosscheck.Proofs.Phases

/-!
# What is launched, and what a failure is put down to

Whoever answers a trial, its commands are launched in the order of its phases and none after one
that failed. The course of some phases lists what was launched with what came of it; from it follow
the order of the commands, the success of all but the last, and the verdict when the last failed.
-/

namespace Crosscheck.Trial

variable (t : Trial)

/-- Whether what came of a launch lets the trial go on. -/
def Succeeded (ph : Phase) (result : Except LaunchError Capture) : Prop :=
  ∃ r, result = .ok r ∧ t.Accepts ph r

/-- How phases go: what was launched, and the captures or the verdict that this comes to. -/
inductive Course : List Phase → List Launched → Except Verdict (List Capture) → Prop
  | nil : Course [] [] (.ok [])
  | stop {ph : Phase} {phs : List Phase} {result : Except LaunchError Capture} {v : Verdict}
      (hsettle : t.settle ph result = .error v) :
      Course (ph :: phs) [(t.command ph, result)] (.error v)
  | go {ph : Phase} {phs : List Phase} {result : Except LaunchError Capture} {r : Capture}
      {launched : List Launched} {ending : Except Verdict (List Capture)}
      (hsucceeded : t.Succeeded ph result) (hrest : Course phs launched ending) :
      Course (ph :: phs) ((t.command ph, result) :: launched) (ending.map (r :: ·))

variable {σ : Type} (host : Host σ)

theorem course_performAll (phs : List Phase) (made : Artifacts) (s : σ) :
    t.Course phs (((t.performAll phs).plan made).launches host s)
      (((t.performAll phs).plan made).serve host s).1.1 := by
  induction phs generalizing made s with
  | nil => exact .nil
  | cons ph phs ih =>
    rw [serve_performAll_cons, plan_performAll_cons, Plan.launches, Plan.exchanges,
      List.filterMap_cons]
    simp only [Exchange.launched?]
    cases hsettle : t.settle ph (host s (.launch (t.command ph) t.settings.timeout)).1 with
    | error v => exact .stop hsettle
    | ok r =>
      have hrest := ih (t.hold ph made) (host s (.launch (t.command ph) t.settings.timeout)).2
      have hlaunches := Plan.launches_bind host ((t.performAll phs).plan (t.hold ph made))
        (fun ending => .done (ending.1.map (r :: ·), ending.2))
        (host s (.launch (t.command ph) t.settings.timeout)).2
      simp only [Plan.launches, Plan.exchanges, List.filterMap_nil, List.append_nil] at hlaunches
      simp only [hlaunches]
      exact .go ⟨r, t.settle_eq_ok_iff.1 hsettle⟩ hrest

variable {t}

theorem Course.commands_prefix {phs : List Phase} {launched : List Launched}
    {ending : Except Verdict (List Capture)} (h : t.Course phs launched ending) :
    launched.map Prod.fst <+: phs.map t.command := by
  induction h with
  | nil => exact List.prefix_rfl
  | stop => exact List.cons_prefix_cons.2 ⟨rfl, List.nil_prefix⟩
  | go _ _ ih => exact List.cons_prefix_cons.2 ⟨rfl, ih⟩

theorem Course.launched_ne_nil {ph : Phase} {phs : List Phase} {launched : List Launched}
    {ending : Except Verdict (List Capture)} (h : t.Course (ph :: phs) launched ending) :
    launched ≠ [] := by
  cases h <;> simp

/-- The last launch is that of a phase. It succeeded if it is the launch of the last phase and the
phases came to captures; else it failed, and the verdict is what it is to blame for. -/
theorem Course.last {phs : List Phase} {launched earlier : List Launched}
    {ending : Except Verdict (List Capture)} (h : t.Course phs launched ending)
    {command : Command} {result : Except LaunchError Capture}
    (hlast : launched = earlier ++ [(command, result)]) :
    ∃ ph, phs[earlier.length]? = some ph ∧ command = t.command ph ∧
      (t.Succeeded ph result ∧ earlier.length + 1 = phs.length ∧ (∃ rs, ending = .ok rs) ∨
        ∃ v, ending = .error v ∧ t.settle ph result = .error v) := by
  induction h generalizing earlier with
  | nil => simp at hlast
  | @stop ph phs result' v hsettle =>
    cases earlier with
    | nil =>
      simp only [List.nil_append, List.cons.injEq, Prod.mk.injEq, and_true] at hlast
      obtain ⟨rfl, rfl⟩ := hlast
      exact ⟨ph, rfl, rfl, .inr ⟨v, rfl, hsettle⟩⟩
    | cons => simp at hlast
  | @go ph phs result' r launched ending hsucceeded hrest ih =>
    cases earlier with
    | nil =>
      simp only [List.nil_append, List.cons.injEq, Prod.mk.injEq] at hlast
      obtain ⟨⟨rfl, rfl⟩, rfl⟩ := hlast
      cases hrest
      exact ⟨ph, rfl, rfl, .inl ⟨hsucceeded, rfl, _, rfl⟩⟩
    | cons e earlier =>
      simp only [List.cons_append, List.cons.injEq] at hlast
      obtain ⟨ph', hph, hcommand, hcases⟩ := ih hlast.2
      refine ⟨ph', hph, hcommand, ?_⟩
      rcases hcases with ⟨hs, hlength, rs, rfl⟩ | ⟨v, rfl, hsettle⟩
      · exact .inl ⟨hs, by simp only [List.length_cons, hlength], _, rfl⟩
      · exact .inr ⟨v, rfl, hsettle⟩

theorem Course.settle_of_error {phs : List Phase} {launched : List Launched} {v : Verdict}
    (h : t.Course phs launched (.error v)) : ∃ ph result, t.settle ph result = .error v := by
  generalize hending : Except.error v = ending at h
  induction h with
  | nil => cases hending
  | stop hsettle =>
    cases hending
    exact ⟨_, _, hsettle⟩
  | @go ph phs result r launched ending hsucceeded hrest ih =>
    cases ending with
    | ok rs => cases hending
    | error v' =>
      cases hending
      exact ih rfl

theorem Course.earlier {phs : List Phase} {launched : List Launched}
    {ending : Except Verdict (List Capture)} (h : t.Course phs launched ending) {i : Nat}
    (hi : i + 1 < launched.length) : ∃ ph result, phs[i]? = some ph ∧
      launched[i]? = some (t.command ph, result) ∧ t.Succeeded ph result := by
  induction h generalizing i with
  | nil => simp at hi
  | stop => simp at hi
  | @go ph phs result r launched ending hsucceeded hrest ih =>
    cases i with
    | zero => exact ⟨ph, result, rfl, rfl, hsucceeded⟩
    | succ i => exact ih (by simpa using hi)

theorem not_succeeded_of_settle {ph : Phase} {result : Except LaunchError Capture} {v : Verdict}
    (h : t.settle ph result = .error v) : ¬t.Succeeded ph result := by
  rintro ⟨r, hr⟩
  rw [t.settle_eq_ok_iff.2 hr] at h
  cases h

variable (t)

theorem only_performAll (phs : List Phase) (made : Artifacts) :
    ((t.performAll phs).plan made).Only fun r => ∃ command limit, r = .launch command limit := by
  induction phs generalizing made with
  | nil => trivial
  | cons ph phs ih =>
    simp only [plan_performAll_cons, Plan.only_ask]
    refine ⟨⟨_, _, rfl⟩, fun result => ?_⟩
    cases t.settle ph result with
    | error v => exact Plan.only_done ..
    | ok r => exact (ih _).bind fun _ => Plan.only_done ..

theorem only_release (made : Artifacts) : made.release.Only fun r => ∃ p, r = .remove p := by
  rw [Artifacts.release]
  induction made.paths with
  | nil => trivial
  | cons p ps ih => exact ⟨⟨p, rfl⟩, fun _ => ih.bind fun _ => Plan.only_done ..⟩

theorem only_opening (made : Artifacts) : (t.opening.plan made).Only fun r =>
    (∃ p, r = .isFile p) ∨ ∃ p, r = .read p := by
  simp only [opening, Step.plan_bind, plan_checkSource, Plan.ask_bind, Plan.done_bind,
    Plan.only_ask]
  refine ⟨.inl ⟨_, rfl⟩, fun isThere => ?_⟩
  cases isThere with
  | false => trivial
  | true =>
    simp only [if_true]
    rw [plan_readAnswer]
    cases t.corpus.answerDir with
    | none => trivial
    | some dir =>
      refine ⟨.inl ⟨_, rfl⟩, fun isThere => ?_⟩
      cases isThere with
      | false => trivial
      | true => exact ⟨.inr ⟨_, rfl⟩, fun _ => trivial⟩

/-- A whole trial makes only requests that its opening, its launches and its removals are. -/
theorem only_plan {allowed : Request → Prop} (hopening : (t.opening.plan .empty).Only allowed)
    (hlaunch : ∀ ph, allowed (.launch (t.command ph) t.settings.timeout))
    (hremove : ∀ p, allowed (.remove p)) : t.plan.Only allowed := by
  have hphases (phs : List Phase) (made : Artifacts) :
      ((t.performAll phs).plan made).Only allowed := by
    induction phs generalizing made with
    | nil => trivial
    | cons ph phs ih =>
      simp only [plan_performAll_cons, Plan.only_ask]
      refine ⟨hlaunch ph, fun result => ?_⟩
      cases t.settle ph result with
      | error v => exact Plan.only_done ..
      | ok r => exact (ih _).bind fun _ => Plan.only_done ..
  have hrelease (made : Artifacts) (v : Verdict) :
      (made.release >>= fun _ => .done v).Only allowed := by
    refine ((only_release made).mono ?_).bind fun _ => Plan.only_done ..
    rintro _ ⟨p, rfl⟩
    exact hremove p
  rw [plan_eq_opening]
  refine hopening.bind fun ending => ?_
  obtain ⟨v | answer, made⟩ := ending
  · exact hrelease made v
  · exact (hphases t.phases made).bind fun ending => hrelease _ _

/-- The trial ended before its first command: there is no source, or no answer to compare with, or
the answer could not be read. -/
def Unstarted (said : List Exchange) (v : Verdict) : Prop :=
  (∃ p, v = .ok (.sourceNotFound p)) ∨ (∃ reason, v = .ok (.skipped reason)) ∨
    ∃ dir cause, t.corpus.answerDir = some dir ∧
      (⟨.read (t.answerPath dir), .error cause⟩ : Exchange) ∈ said ∧ v = .error (.error (.io cause))

theorem Unstarted.of_append {t : Trial} {said more : List Exchange} {v : Verdict}
    (h : t.Unstarted said v) : t.Unstarted (said ++ more) v := by
  rcases h with h | h | ⟨dir, cause, hdir, hmem, hv⟩
  · exact .inl h
  · exact .inr (.inl h)
  · exact .inr (.inr ⟨dir, cause, hdir, List.mem_append_left _ hmem, hv⟩)

/-- The opening ends the trial, or it has read what it has looked for. -/
theorem serve_opening (made : Artifacts) (s : σ) :
    (∃ v, ((t.opening.plan made).serve host s).1 = (.error v, made) ∧
      t.Unstarted ((t.opening.plan made).exchanges host s) v) ∨
    ∃ answer, ((t.opening.plan made).serve host s).1 = (.ok answer, made) ∧
      ∀ p cause, (⟨.read p, .error cause⟩ : Exchange) ∉ (t.opening.plan made).exchanges host s := by
  rw [opening, Step.plan_bind, plan_checkSource, Plan.ask_bind]
  simp only [Plan.done_bind, Plan.serve, Plan.exchanges]
  cases hsource : (host s (.isFile t.test.source)).1 with
  | false => exact .inl ⟨_, rfl, .inl ⟨_, rfl⟩⟩
  | true =>
    simp only [if_true]
    rw [plan_readAnswer]
    cases hcorpus : t.corpus.answerDir with
    | none =>
      refine .inr ⟨none, rfl, fun p cause hmem => ?_⟩
      simp [Plan.exchanges] at hmem
    | some dir =>
      simp only [Plan.serve, Plan.exchanges]
      cases hthere : (host (host s (.isFile t.test.source)).2 (.isFile (t.answerPath dir))).1 with
      | false => exact .inl ⟨_, rfl, .inr (.inl ⟨_, rfl⟩)⟩
      | true =>
        simp only [if_true, Plan.serve, Plan.exchanges]
        cases hread : (host (host (host s (.isFile t.test.source)).2
            (.isFile (t.answerPath dir))).2 (.read (t.answerPath dir))).1 with
        | ok bytes =>
          refine .inr ⟨some bytes, rfl, fun p cause hmem => ?_⟩
          simp at hmem
        | error cause =>
          exact .inl ⟨_, rfl, .inr (.inr ⟨dir, cause, hcorpus, by simp, rfl⟩)⟩

theorem launches_eq_nil_of_opening {s : σ} {v : Verdict}
    (h : ((t.opening.plan .empty).serve host s).1 = (.error v, .empty)) :
    t.plan.launches host s = [] ∧ (t.plan.serve host s).1 = v := by
  rw [plan_eq_opening, Plan.launches_bind, Plan.serve_bind, h]
  constructor
  · rw [(t.only_opening .empty).launches_eq_nil host (by simp), List.nil_append]
    exact Plan.Only.launches_eq_nil host ((only_release .empty).bind fun _ => Plan.only_done ..)
      (by simp) _
  · rw [Plan.serve_bind]
    rfl

/-- A trial whose opening does not end it goes by the course of its phases. -/
theorem course_of_opening {s : σ} {answer : Option Bytes}
    (h : ((t.opening.plan .empty).serve host s).1 = (.ok answer, .empty)) :
    ∃ ending, t.Course t.phases (t.plan.launches host s) ending ∧
      (t.plan.serve host s).1 = verdictOf (ending.map (conclude answer)) := by
  refine ⟨(((t.performAll t.phases).plan .empty).serve host
    ((t.opening.plan .empty).serve host s).2).1.1, ?_, ?_⟩
  · rw [plan_eq_opening, Plan.launches_bind, (t.only_opening .empty).launches_eq_nil host (by simp),
      h, List.nil_append]
    simp only
    rw [Plan.launches_bind, Plan.Only.launches_eq_nil host
      ((only_release _).bind fun _ => Plan.only_done ..) (by simp), List.append_nil]
    exact t.course_performAll host t.phases .empty _
  · rw [plan_eq_opening, Plan.serve_bind, h]
    simp only
    rw [Plan.serve_bind, Plan.serve_bind]
    rfl

theorem unread_of_opening {s : σ} {answer : Option Bytes}
    (h : ((t.opening.plan .empty).serve host s).1 = (.ok answer, .empty))
    (hread : ∀ p cause, (⟨.read p, .error cause⟩ : Exchange) ∉
      (t.opening.plan .empty).exchanges host s) (p : Path) (cause : OsError) :
    (⟨.read p, .error cause⟩ : Exchange) ∉ t.plan.exchanges host s := by
  rw [plan_eq_opening, Plan.exchanges_bind, h]
  intro hmem
  rcases List.mem_append.1 hmem with hmem | hmem
  · exact hread p cause hmem
  · have honly : ((t.performAll t.phases).plan .empty >>= fun ending =>
        ending.2.release >>= fun _ =>
          .done (verdictOf (ending.1.map (conclude answer)))).Only fun r => ∀ p, r ≠ .read p :=
      ((t.only_performAll t.phases .empty).mono (by rintro _ ⟨_, _, rfl⟩ _ ⟨⟩)).bind fun ending =>
        ((only_release ending.2).mono (by rintro _ ⟨_, rfl⟩ _ ⟨⟩)).bind fun _ => Plan.only_done ..
    exact honly.exchanges host hmem p rfl

theorem conclude_eq (answer : Option Bytes) (rs : List Capture) :
    conclude answer rs = .passed ∨ ∃ m, conclude answer rs = .failedOnMismatch m := by
  have hverdict (m : Mismatch) : Capture.verdict m = .passed ∨
      ∃ m', Capture.verdict m = .failedOnMismatch m' := by
    unfold Capture.verdict
    split
    · exact .inl rfl
    · exact .inr ⟨m, rfl⟩
  unfold conclude
  split
  · exact hverdict _
  · exact hverdict _
  · exact .inl rfl

theorem phases_ne_nil : t.phases ≠ [] := by
  unfold phases
  split <;> simp

theorem not_unstarted_of_blames {said : List Exchange} {ph : Phase} {v : Verdict}
    {result : Except LaunchError Capture} (h : t.Blames ph v result)
    (hread : ∀ p cause, (⟨.read p, .error cause⟩ : Exchange) ∉ said) : ¬t.Unstarted said v := by
  rintro (⟨p, rfl⟩ | ⟨reason, rfl⟩ | ⟨dir, cause, -, hmem, -⟩)
  · obtain ⟨detail, hdetail⟩ := t.outcome_of_blames h
    cases ph <;> cases hdetail
  · obtain ⟨detail, hdetail⟩ := t.outcome_of_blames h
    cases ph <;> cases hdetail
  · exact hread _ _ hmem

theorem not_unstarted_of_compared {said : List Exchange} {o : Outcome}
    (h : o = .passed ∨ ∃ m, o = .failedOnMismatch m)
    (hread : ∀ p cause, (⟨.read p, .error cause⟩ : Exchange) ∉ said) :
    ¬t.Unstarted said (.ok o) := by
  rintro (⟨p, hp⟩ | ⟨reason, hreason⟩ | ⟨dir, cause, -, hmem, -⟩)
  · cases hp
    rcases h with h | ⟨m, h⟩ <;> cases h
  · cases hreason
    rcases h with h | ⟨m, h⟩ <;> cases h
  · exact hread _ _ hmem

/-- The commands of a trial fit together: what a build writes is what is linked or run after it, and
both builds start from one source and end with one runtime. -/
def Wired : Prop :=
  ∃ assembly binary reference runtime : Path,
    (t.command .compile).arguments = t.corpus.compilerArguments.map Text.utf8 ++
      [Text.utf8 "--file", t.test.source.bytes, Text.utf8 ("--target=" ++ t.target.token),
        Text.utf8 "-o", assembly.bytes] ∧
    (t.command .link).arguments =
      [Text.utf8 "-o", binary.bytes, assembly.bytes, runtime.bytes] ++
        t.settings.tools.linkFlags.map Text.utf8 ∧
    (t.command .buildReference).arguments =
      [Text.utf8 "-o", reference.bytes, t.test.source.bytes, runtime.bytes] ++
        t.settings.tools.linkFlags.map Text.utf8 ∧
    (t.command .runUnderTest = ⟨binary, []⟩ ∨
      t.command .runUnderTest =
        ⟨t.settings.tools.simulator, [Text.utf8 t.settings.tools.simulatorShim, binary.bytes]⟩) ∧
    t.command .runReference = ⟨reference, []⟩

theorem wired : t.Wired := by
  refine ⟨t.products.assembly, t.products.underTest, t.products.reference, t.runtime,
    rfl, rfl, rfl, ?_, rfl⟩
  cases htarget : t.target with
  | riscv64 => exact .inr (by simp only [command, runCommand, Tools.runUnderTest, htarget,
      Target.execution])
  | aarch64 => exact .inl (by simp only [command, runCommand, Tools.runUnderTest, htarget,
      Target.execution])

/-- Whoever answers, a trial launches its commands in their order, each after the success of those
before it, and its verdict is put down to the last one: if that failed, it is to blame, and if it
was the last of all, the runs were compared. Nothing is launched exactly if there was no source, no
answer, or no reading it. -/
theorem launches_attributed (t : Trial) {σ : Type} (host : Host σ) (s : σ) :
    t.Wired ∧
    (t.plan.launches host s).map Prod.fst <+: t.phases.map t.command ∧
    (t.plan.launches host s = [] ↔
      t.Unstarted (t.plan.exchanges host s) (t.plan.serve host s).1) ∧
    (∀ i, i + 1 < (t.plan.launches host s).length → ∃ ph result, t.phases[i]? = some ph ∧
      (t.plan.launches host s)[i]? = some (t.command ph, result) ∧ t.Succeeded ph result) ∧
    ∀ earlier command result, t.plan.launches host s = earlier ++ [(command, result)] →
      ∃ ph, t.phases[earlier.length]? = some ph ∧ command = t.command ph ∧
        (t.Succeeded ph result ∧ earlier.length + 1 = t.phases.length ∧
            ((t.plan.serve host s).1 = .ok .passed ∨
              ∃ m, (t.plan.serve host s).1 = .ok (.failedOnMismatch m)) ∨
          ¬t.Succeeded ph result ∧ t.settle ph result = .error (t.plan.serve host s).1 ∧
            t.Blames ph (t.plan.serve host s).1 result) := by
  refine ⟨t.wired, ?_⟩
  rcases t.serve_opening host .empty s with ⟨v, hopening, hunstarted⟩ | ⟨answer, hopening, hread⟩
  · obtain ⟨hlaunches, hverdict⟩ := t.launches_eq_nil_of_opening host hopening
    rw [hlaunches, hverdict]
    refine ⟨List.nil_prefix, iff_of_true rfl ?_, by simp, by simp⟩
    rw [plan_eq_opening, Plan.exchanges_bind]
    exact hunstarted.of_append
  · obtain ⟨ending, hcourse, hverdict⟩ := t.course_of_opening host hopening
    have hunread := t.unread_of_opening host hopening hread
    refine ⟨hcourse.commands_prefix, ?_, fun i hi => hcourse.earlier hi, ?_⟩
    · obtain ⟨ph, phs, hphases⟩ := List.exists_cons_of_ne_nil t.phases_ne_nil
      have hnonempty : t.plan.launches host s ≠ [] := (hphases ▸ hcourse).launched_ne_nil
      refine iff_of_false hnonempty ?_
      rw [hverdict]
      cases ending with
      | ok rs => exact t.not_unstarted_of_compared (conclude_eq answer rs) hunread
      | error v =>
        obtain ⟨ph, result, hsettle⟩ := hcourse.settle_of_error
        exact t.not_unstarted_of_blames (t.blames_of_settle hsettle) hunread
    · intro earlier command result hlast
      obtain ⟨ph, hph, hcommand, hcases⟩ := hcourse.last hlast
      refine ⟨ph, hph, hcommand, ?_⟩
      rw [hverdict]
      rcases hcases with ⟨hsucceeded, hlength, rs, rfl⟩ | ⟨v, rfl, hsettle⟩
      · refine .inl ⟨hsucceeded, hlength, ?_⟩
        exact (conclude_eq answer rs).imp (congrArg Except.ok)
          fun ⟨m, hm⟩ => ⟨m, congrArg Except.ok hm⟩
      · exact .inr ⟨not_succeeded_of_settle hsettle, hsettle, t.blames_of_settle hsettle⟩

end Crosscheck.Trial
