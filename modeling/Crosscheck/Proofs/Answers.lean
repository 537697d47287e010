import Crosscheck.Proofs.Attribution
import Crosscheck.Proofs.Collisions
import Crosscheck.Proofs.Repetitions
import Crosscheck.Proofs.Verdict

/-!
# Recorded answers

A trial with recorded answers asks for one file, and by what it finds there it is skipped or
compared. The name of that file is the name of the case, which is the stem of its source read as
text. So a case that was found goes by the answer that has its stem, byte for byte, exactly if the
stem is text: the answer of a source with another name is never asked for, and the case is skipped
although its answer is there.
-/

namespace Crosscheck

namespace Trial

variable (t : Trial)

/-- A trial goes by the file at some place, whoever answers it. It is skipped only if no file is
there, it reads no other file, and if it comes to a comparison then what it compares with is what it
has read there. -/
structure GoesBy (place : Path) : Prop where
  looked : ∀ {σ : Type} (host : Host σ) (s : σ) (reason : String),
    (t.plan.serve host s).1 = .ok (.skipped reason) →
      (⟨.isFile place, false⟩ : Exchange) ∈ t.plan.exchanges host s
  read : ∀ {σ : Type} (host : Host σ) (s : σ) (p : Path) (content : Except OsError Bytes),
    (⟨.read p, content⟩ : Exchange) ∈ t.plan.exchanges host s → p = place
  compared : ∀ {σ : Type} (host : Host σ) (s : σ) (o : Outcome), (t.plan.serve host s).1 = .ok o →
    (o = .passed ∨ ∃ m, o = .failedOnMismatch m) → ∃ recorded underTest,
      (⟨.read place, .ok recorded⟩ : Exchange) ∈ t.plan.exchanges host s ∧
      (t.runCommand, .ok underTest) ∈ t.plan.launches host s ∧
      o = Capture.compareAnswer underTest.stdout recorded

variable {dir : Path} {σ : Type} (host : Host σ)

/-- With recorded answers the opening comes to an answer that it has read, or ends the trial, as
skipped only if there was no file to read. -/
theorem serve_opening_of_answers (hdir : t.corpus.answerDir = some dir) (made : Artifacts) (s : σ) :
    (∃ v, ((t.opening.plan made).serve host s).1 = (.error v, made) ∧ ∀ o, v = .ok o →
      o = .sourceNotFound t.test.source ∨ (∃ reason, o = .skipped reason) ∧
        (⟨.isFile (t.answerPath dir), false⟩ : Exchange) ∈
          (t.opening.plan made).exchanges host s) ∨
    ∃ recorded, ((t.opening.plan made).serve host s).1 = (.ok (some recorded), made) ∧
      (⟨.read (t.answerPath dir), .ok recorded⟩ : Exchange) ∈
        (t.opening.plan made).exchanges host s := by
  rw [opening, Step.plan_bind, plan_checkSource, Plan.ask_bind]
  simp only [Plan.done_bind, Plan.serve, Plan.exchanges]
  cases hsource : (host s (.isFile t.test.source)).1 with
  | false =>
    refine .inl ⟨_, rfl, fun o ho => .inl ?_⟩
    exact (Except.ok.inj ho).symm
  | true =>
    simp only [if_true]
    rw [plan_readAnswer, hdir]
    simp only [Plan.serve, Plan.exchanges]
    cases hthere : (host (host s (.isFile t.test.source)).2 (.isFile (t.answerPath dir))).1 with
    | false =>
      refine .inl ⟨_, rfl, fun o ho => .inr ⟨⟨_, (Except.ok.inj ho).symm⟩, ?_⟩⟩
      exact List.mem_cons_of_mem _ List.mem_cons_self
    | true =>
      simp only [if_true, Plan.serve, Plan.exchanges]
      cases hread : (host (host (host s (.isFile t.test.source)).2
          (.isFile (t.answerPath dir))).2 (.read (t.answerPath dir))).1 with
      | ok recorded => exact .inr ⟨recorded, rfl, by simp⟩
      | error cause =>
        refine .inl ⟨_, rfl, fun o ho => ?_⟩
        cases ho

theorem only_opening_of_answers (hdir : t.corpus.answerDir = some dir) (made : Artifacts) :
    (t.opening.plan made).Only fun r => ∀ p, r = .read p → p = t.answerPath dir := by
  simp only [opening, Step.plan_bind, plan_checkSource, Plan.ask_bind, Plan.done_bind,
    Plan.only_ask]
  refine ⟨nofun, fun isThere => ?_⟩
  cases isThere with
  | false => trivial
  | true =>
    simp only [if_true]
    rw [plan_readAnswer, hdir]
    refine ⟨nofun, fun isThere => ?_⟩
    cases isThere with
    | false => trivial
    | true => exact ⟨fun p hp => (Request.read.inj hp).symm, fun _ => trivial⟩

/-- Nothing but the recorded answer is read in a whole trial. -/
theorem only_plan_of_answers (hdir : t.corpus.answerDir = some dir) :
    t.plan.Only fun r => ∀ p, r = .read p → p = t.answerPath dir :=
  t.only_plan (t.only_opening_of_answers hdir .empty) (fun _ => nofun) fun _ => nofun

/-- Phases that came to captures were launched one by one, each with its capture. -/
theorem launches_performAll_of_ok {phs : List Phase} {made : Artifacts} {s : σ} {rs : List Capture}
    (h : (((t.performAll phs).plan made).serve host s).1.1 = .ok rs) :
    rs.length = phs.length ∧ ((t.performAll phs).plan made).launches host s =
      List.zipWith (fun ph r => (t.command ph, .ok r)) phs rs := by
  induction phs generalizing made s rs with
  | nil =>
    obtain rfl := Except.ok.inj h
    exact ⟨rfl, rfl⟩
  | cons ph phs ih =>
    rw [serve_performAll_cons] at h
    rw [plan_performAll_cons, Plan.launches, Plan.exchanges, List.filterMap_cons]
    simp only [Exchange.launched?]
    cases hsettle : t.settle ph (host s (.launch (t.command ph) t.settings.timeout)).1 with
    | error v =>
      simp only [hsettle] at h
      cases h
    | ok r =>
      simp only [hsettle] at h
      obtain ⟨rs', hrest, rfl⟩ := map_eq_ok_iff.1 h
      obtain ⟨hlength, hlaunches⟩ := ih hrest
      have hbind := Plan.launches_bind host ((t.performAll phs).plan (t.hold ph made))
        (fun ending => .done (ending.1.map (r :: ·), ending.2))
        (host s (.launch (t.command ph) t.settings.timeout)).2
      simp only [Plan.launches, Plan.exchanges, List.filterMap_nil, List.append_nil] at hbind
      rw [Plan.launches] at hlaunches
      refine ⟨congrArg Nat.succ hlength, ?_⟩
      simp only [hbind, hlaunches, (t.settle_eq_ok_iff.1 hsettle).1, List.zipWith_cons_cons]

theorem exchanges_opening_subset {s : σ} {e : Exchange}
    (he : e ∈ (t.opening.plan .empty).exchanges host s) : e ∈ t.plan.exchanges host s := by
  rw [plan_eq_opening, Plan.exchanges_bind]
  exact List.mem_append_left _ he

/-- Once the answer is read, the run under test is compared with it, unless a phase fails. -/
theorem outcome_of_read (hdir : t.corpus.answerDir = some dir) {s : σ} {recorded : Bytes}
    (hopening : ((t.opening.plan .empty).serve host s).1 = (.ok (some recorded), .empty))
    {o : Outcome} (hverdict : (t.plan.serve host s).1 = .ok o) :
    (∃ underTest, (t.runCommand, .ok underTest) ∈ t.plan.launches host s ∧
      o = Capture.compareAnswer underTest.stdout recorded) ∨
    ∃ (ph : Phase) (detail : String), o = ph.outcome detail := by
  have hphases : t.phases = [.compile, .link, .runUnderTest] := by simp only [phases, hdir]
  rw [plan_eq_opening, Plan.serve_bind, hopening] at hverdict
  rw [plan_eq_opening, Plan.launches_bind, hopening]
  simp only [Plan.serve_bind, Plan.launches_bind, Plan.serve] at hverdict ⊢
  cases hending : (((t.performAll t.phases).plan .empty).serve host
      ((t.opening.plan .empty).serve host s).2).1.1 with
  | error v =>
    rw [hending] at hverdict
    obtain rfl : v = .ok o := hverdict
    obtain ⟨ph, result, hsettle⟩ := t.exists_settle_of_performAll host hending
    obtain ⟨detail, hdetail⟩ := t.outcome_of_blames (t.blames_of_settle hsettle)
    exact .inr ⟨ph, detail, hdetail⟩
  | ok rs =>
    rw [hending] at hverdict
    obtain ⟨hlength, hlaunches⟩ := t.launches_performAll_of_ok host hending
    rw [hphases] at hlength
    obtain ⟨compiled, linked, underTest, rfl⟩ := List.length_eq_three.1 hlength
    refine .inl ⟨underTest, ?_, (Except.ok.inj hverdict).symm⟩
    rw [hlaunches, hphases]
    refine List.mem_append_right _ (List.mem_append_left _ ?_)
    simp [command]

theorem ne_skipped_of_read (hdir : t.corpus.answerDir = some dir) {s : σ} {recorded : Bytes}
    (hopening : ((t.opening.plan .empty).serve host s).1 = (.ok (some recorded), .empty))
    (reason : String) : (t.plan.serve host s).1 ≠ .ok (.skipped reason) := by
  intro hskipped
  rcases t.outcome_of_read host hdir hopening hskipped with ⟨underTest, -, ho⟩ | ⟨ph, detail, ho⟩
  · have hcompared := conclude_eq (some recorded) [underTest, underTest, underTest]
    rw [conclude, ← ho] at hcompared
    rcases hcompared with h | ⟨m, h⟩ <;> cases h
  · cases ph <;> cases ho

theorem goesBy_answerPath (hdir : t.corpus.answerDir = some dir) : t.GoesBy (t.answerPath dir) where
  looked host s reason hskipped := by
    rcases t.serve_opening_of_answers host hdir .empty s with
      ⟨v, hopening, hends⟩ | ⟨recorded, hopening, -⟩
    · obtain ⟨-, hverdict⟩ := t.launches_eq_nil_of_opening host hopening
      rcases hends _ (hverdict.symm.trans hskipped) with ho | ⟨-, hmem⟩
      · cases ho
      · exact t.exchanges_opening_subset host hmem
    · exact absurd hskipped (t.ne_skipped_of_read host hdir hopening reason)
  read host s p content hmem := (t.only_plan_of_answers hdir).exchanges host hmem p rfl
  compared host s o hverdict ho := by
    rcases t.serve_opening_of_answers host hdir .empty s with
      ⟨v, hopening, hends⟩ | ⟨recorded, hopening, hmem⟩
    · obtain ⟨-, hv⟩ := t.launches_eq_nil_of_opening host hopening
      rcases hends o (hv.symm.trans hverdict) with rfl | ⟨⟨reason, rfl⟩, -⟩ <;>
        rcases ho with ho | ⟨m, ho⟩ <;> cases ho
    · rcases t.outcome_of_read host hdir hopening hverdict with
        ⟨underTest, hlaunched, hcompared⟩ | ⟨ph, detail, rfl⟩
      · exact ⟨recorded, underTest, t.exchanges_opening_subset host hmem, hlaunched, hcompared⟩
      · cases ph <;> rcases ho with ho | ⟨m, ho⟩ <;> cases ho

/-- A machine on which every file is there and empty, and nothing can be launched. -/
def emptyFiles : Host Unit := fun _ r =>
  match r with
  | .isFile _ => (true, ())
  | .read _ => (.ok [], ())
  | .remove _ => (.ok (), ())
  | .launch .. => (.error (.io .notFound), ())
  | .now => ((0 : ℕ), ())

theorem goesBy_iff (hdir : t.corpus.answerDir = some dir) (place : Path) :
    t.GoesBy place ↔ t.answerPath dir = place := by
  constructor
  · intro h
    have hmem : (⟨.read (t.answerPath dir), .ok []⟩ : Exchange) ∈
        (t.opening.plan .empty).exchanges emptyFiles () := by
      rw [opening, Step.plan_bind, plan_checkSource, Plan.ask_bind]
      simp only [Plan.done_bind, Plan.exchanges, emptyFiles, if_true]
      rw [plan_readAnswer, hdir]
      simp [Plan.exchanges, emptyFiles]
    exact h.read emptyFiles () _ _ (t.exchanges_opening_subset emptyFiles hmem)
  · rintro rfl
    exact t.goesBy_answerPath hdir

/-- The recorded answer that is called as the stem of a source, byte for byte. -/
def ownAnswer (dir : Path) (stem : Bytes) : Path :=
  (t.settings.resolve dir).join ⟨stem ++ Text.utf8 ".ans"⟩

theorem answerPath_eq_ownAnswer_iff {source : Path} {kind : Kind} {stem : Bytes}
    (htest : t.test = .ofPath source kind) (hstem : source.fileStem? = some stem) :
    t.answerPath dir = t.ownAnswer dir stem ↔ source.Readable := by
  have hname : t.test.name = Text.lossy stem := by rw [htest, Case.ofPath, hstem]
  have hbytes : t.answerPath dir = (t.settings.resolve dir).join
      ⟨Text.utf8 (Text.lossy stem) ++ Text.utf8 ".ans"⟩ := by
    rw [answerPath, hname, Path.ofText, Text.utf8_append]
  have hslash : slash ∉ stem := by
    obtain ⟨name, hfile, rfl⟩ := Option.map_eq_some_iff.1 hstem
    exact fun hmem => Path.slash_not_mem_fileName hfile (Path.stem_subset name hmem)
  have hans {bs : Bytes} (h : slash ∉ bs) : slash ∉ bs ++ Text.utf8 ".ans" := by
    rw [List.mem_append, not_or]
    exact ⟨h, by decide⟩
  have hread : source.Readable ↔ Text.utf8 (Text.lossy stem) = stem := by
    simp only [Path.Readable, hstem, Option.some.injEq, forall_eq', Text.strict?]
    split <;> simp [*]
  rw [hbytes, hread, ownAnswer]
  constructor
  · intro h
    exact List.append_cancel_right
      (Path.join_injective _ (hans (Text.slash_not_mem_lossy hslash)) (hans hslash) h)
  · intro h
    rw [h]

/-- A trial is skipped in a world only if the file is not there. -/
theorem isFile_of_skipped (hdir : t.corpus.answerDir = some dir) {programs : Behaviour} {w : World}
    {reason : String} (h : (t.plan.run programs w).1 = .ok (.skipped reason)) :
    w.isFile (t.answerPath dir) = false := by
  have hfound := t.run_opening programs .empty w
  rw [Plan.run_eq_serve] at h hfound
  rcases t.serve_opening_of_answers (World.answer programs) hdir .empty w with
    ⟨v, hopening, -⟩ | ⟨recorded, hopening, -⟩
  · obtain ⟨-, hverdict⟩ := t.launches_eq_nil_of_opening (World.answer programs) hopening
    have hlook : t.look w = .error (.ok (.skipped reason)) := by
      rw [← h, hverdict]
      exact (congrArg Prod.fst (congrArg Prod.fst hfound)).symm.trans (congrArg Prod.fst hopening)
    simp only [look, hdir] at hlook
    split at hlook
    · split at hlook
      · split at hlook <;> cases hlook
      · next hmissing => exact eq_false_of_ne_true hmissing
    · cases hlook
  · exact absurd h (t.ne_skipped_of_read _ hdir hopening reason)

end Trial

namespace Discovery

open Trial

/-- A case that was found has a stem, and it goes by the answer with that stem exactly if the stem
is text. Then it is not skipped where this answer is, and if it comes to a comparison, that is with
what this answer holds. -/
theorem answers_of_discovered {w₀ : World} {place : Path} {kind : Kind} {cs : List Case}
    (hcases : cases w₀ place kind = .ok cs) {t : Trial} (htest : t.test ∈ cs) {dir : Path}
    (hdir : t.corpus.answerDir = some dir) : ∃ stem, t.test.source.fileStem? = some stem ∧
      (t.GoesBy (t.ownAnswer dir stem) ↔ t.test.source.Readable) ∧
      (t.test.source.Readable → ∀ programs w, w.isFile (t.ownAnswer dir stem) = true →
        (∀ reason, (t.plan.run programs w).1 ≠ .ok (.skipped reason)) ∧
        ∀ underTest s, t.Compares programs w underTest s → ∃ recorded,
          w.read (t.ownAnswer dir stem) = .ok recorded ∧ s = .answer recorded ∧
            (t.plan.run programs w).1 = .ok (s.judge underTest)) := by
  obtain ⟨names, -, name, -, hc, hkind⟩ := exists_name_of_cases hcases htest
  obtain ⟨ext, hext⟩ := Kind.exists_extension_of_ofPath hkind
  obtain ⟨file, hfile, -⟩ := Option.bind_eq_some_iff.1 hext
  have hsource : t.test.source = place.join ⟨name⟩ := congrArg Case.source hc
  have hstem : t.test.source.fileStem? = some (Path.stem file) := by
    rw [hsource, Path.fileStem?, hfile, Option.map_some]
  have hown : t.answerPath dir = t.ownAnswer dir (Path.stem file) ↔ t.test.source.Readable :=
    t.answerPath_eq_ownAnswer_iff (hsource ▸ hc) hstem
  refine ⟨_, hstem, (t.goesBy_iff hdir _).trans hown, fun hread programs w hthere => ?_⟩
  rw [← hown.2 hread] at hthere ⊢
  refine ⟨fun reason hskipped => ?_, fun underTest s hcompares => ?_⟩
  · rw [t.isFile_of_skipped hdir hskipped] at hthere
    cases hthere
  · have hverdict := t.run_plan_of_compares programs hcompares
    cases hcompares with
    | answer hsource hcorpus hanswer hread hruns =>
      obtain rfl := Option.some.inj (hdir.symm.trans hcorpus)
      exact ⟨_, hread, rfl, hverdict⟩
    | reference hsource hcorpus hruns => cases hdir.symm.trans hcorpus

/-- A directory with a source and with the answer that has its stem. -/
def answeredWorld (stem : Bytes) : World where
  files := (FileTree.empty.insert [stem ++ Text.utf8 ".mbt"] (.file [] false)).insert
    [stem ++ Text.utf8 ".ans"] (.file [] false)
  here := []
  searchPath := none
  clock := 0
  processors := 1
  launched := []

/-- The trial of that source, with the answers looked up where the sources are. -/
def answeredTrial (stem : Bytes) (target : Target) : Trial where
  settings := Settings.standard.withCorpus .miniMoonBit
    { Corpus.standard .miniMoonBit with answerDir := some (.ofText ".") }
  workDir := .ofText "work"
  test := .ofPath ((Path.ofText ".").join ⟨stem ++ Text.utf8 ".mbt"⟩) .miniMoonBit
  target := target

theorem answers_of_discovered_plain :
    let t := answeredTrial (Text.utf8 "a") .riscv64
    let w := answeredWorld (Text.utf8 "a")
    (∃ cs, cases w (.ofText ".") .miniMoonBit = .ok cs ∧ t.test ∈ cs) ∧
      t.GoesBy (t.ownAnswer (.ofText ".") (Text.utf8 "a")) ∧
      ∀ programs reason, (t.plan.run programs w).1 ≠ .ok (.skipped reason) := by
  intro t w
  have hlist : w.list (.ofText ".") = .ok [Text.utf8 "a.ans", Text.utf8 "a.mbt"] := by decide
  have hdir : w.isDirectory (.ofText ".") = true := by decide
  have hcases : cases w (.ofText ".") .miniMoonBit = .ok _ := cases_of_list hdir hlist
  have htest : t.test ∈ _ := mem_cases_of_list hcases hlist
    (show Text.utf8 "a.mbt" ∈ _ by decide) (by decide) (by decide)
  have hread : t.test.source.Readable := by
    rintro stem hstem
    obtain rfl := Option.some.inj (hstem.symm.trans (show _ = some (Text.utf8 "a") by decide))
    decide
  obtain ⟨stem, hstem, hgoes, hverdict⟩ := answers_of_discovered hcases htest
    (show t.corpus.answerDir = some (.ofText ".") from rfl)
  obtain rfl := Option.some.inj (hstem.symm.trans (show _ = some (Text.utf8 "a") by decide))
  exact ⟨⟨_, hcases, htest⟩, hgoes.2 hread,
    fun programs => (hverdict hread programs w (by decide)).1⟩

/-- A source whose stem is the byte `FF` is found and its answer is there, and yet it is skipped. -/
theorem answered_case_skipped :
    let w := answeredWorld [0xff]
    (∃ cs, cases w (.ofText ".") .miniMoonBit = .ok cs ∧
      ∀ target, (answeredTrial [0xff] target).test ∈ cs) ∧
    ∀ target programs,
      let t := answeredTrial [0xff] target
      t.test.source.fileStem? = some [0xff] ∧
        w.isFile (t.ownAnswer (.ofText ".") [0xff]) = true ∧
        (t.plan.run programs w).1 = .ok (.skipped "no answer file") := by
  intro w
  have hlist : w.list (.ofText ".") =
      .ok [0xff :: Text.utf8 ".ans", 0xff :: Text.utf8 ".mbt"] := by decide
  have hdir : w.isDirectory (.ofText ".") = true := by decide
  have hcases : cases w (.ofText ".") .miniMoonBit = .ok _ := cases_of_list hdir hlist
  have htest : ∀ target, (answeredTrial [0xff] target).test ∈ _ := fun _ =>
    mem_cases_of_list hcases hlist (show 0xff :: Text.utf8 ".mbt" ∈ _ by decide) (by decide)
      (by decide)
  refine ⟨⟨_, hcases, htest⟩, fun target programs =>
    ⟨by cases target <;> decide, by cases target <;> decide, ?_⟩⟩
  have hlook : (answeredTrial [0xff] target).look w = .error (.ok (.skipped "no answer file")) := by
    have hsource : w.isFile (answeredTrial [0xff] target).test.source = true := by
      cases target <;> decide
    have hanswer : w.isFile ((answeredTrial [0xff] target).answerPath (.ofText ".")) = false := by
      cases target <;> decide
    have hcorpus : (answeredTrial [0xff] target).corpus.answerDir = some (.ofText ".") := rfl
    simp only [look, hsource, hcorpus, hanswer, if_true, Bool.false_eq_true, if_false]
  rw [run_plan_fst, run_steps_of_look_error _ programs hlook]
  rfl

end Discovery

end Crosscheck
