import Crosscheck.Proofs.Neutral
import Crosscheck.Proofs.SideBySide
import Crosscheck.Proofs.Verdict

/-!
# Leftovers of earlier trials

A trial does not clear the places of its artifacts before it begins. What lies there makes no
difference as long as every command that reports success has written its output: each file that a
command reads is then an input of the trial or the work of an earlier phase. A compiler that reports
success and writes nothing breaks this. The trial goes on with whatever assembly an earlier one has
left, and it may be passed with it.
-/

namespace Crosscheck

open FileTree

theorem FileTree.exists_read_of_isFile {s : FileTree} {here : Location} {p : Path}
    (h : s.isFile here p = true) : ∃ bytes, s.read here p = .ok bytes := by
  unfold isFile at h
  unfold read
  split at h
  · next l data mode hentry => exact ⟨data, by rw [hentry]⟩
  · cases h

namespace Trial

/-- The files that the command of a phase reads. -/
def sources (t : Trial) : Phase → List Path
  | .compile => [t.test.source]
  | .link => [t.products.assembly, t.runtime]
  | .buildReference => [t.test.source, t.runtime]
  | .runUnderTest => [t.products.underTest]
  | .runReference => [t.products.reference]

/-- What the command of a phase reads is the same in two worlds. -/
def SameSources (t : Trial) (ph : Phase) (w w' : World) : Prop :=
  ∀ p ∈ t.sources ph, (w.files.entry w.here true p).toOption =
    (w'.files.entry w'.here true p).toOption

/-- Programs that go by the files that they read, and not by what lies where they are to write.
There they write the same, or they leave everything as it was. -/
structure Deterministic (programs : Behaviour) (t : Trial) (start : World) : Prop where
  inputs : ∀ p ∈ t.inputs, ∀ l, start.files.goal? start.here p = some l → ¬t.Owns start l
  links : ∀ l, t.Owns start l → ∀ target, start.files.get? l ≠ some (.symlink target)
  writes : ∀ ph w, Midway [t] start w → ∀ l,
    (t.after programs ph w).files.get? l ≠ w.files.get? l →
      Plain (w.files.get? l) ∧ Plain ((t.after programs ph w).files.get? l) ∧
        ∃ p, t.product? ph = some p ∧ w.files.spot? w.here p = some l
  determined : ∀ ph w w', Midway [t] start w → Midway [t] start w' → t.SameSources ph w w' →
    (w.launch programs (t.command ph) t.settings.timeout).1 =
        (w'.launch programs (t.command ph) t.settings.timeout).1 ∧
      ∀ p l, t.product? ph = some p → w.files.spot? w.here p = some l →
        (t.after programs ph w).files.get? l = (t.after programs ph w').files.get? l ∨
        (t.after programs ph w).files.get? l = w.files.get? l ∧
          (t.after programs ph w').files.get? l = w'.files.get? l

/-- Programs whose output, once they report success, is not what lay there before. -/
def Productive (programs : Behaviour) (t : Trial) (start : World) : Prop :=
  ∀ ph w w' r, Midway [t] start w → Midway [t] start w' → t.SameSources ph w w' →
    (w.launch programs (t.command ph) t.settings.timeout).1 = .ok r → t.Accepts ph r →
    ∀ p l, t.product? ph = some p → w.files.spot? w.here p = some l →
      (t.after programs ph w).files.get? l = (t.after programs ph w').files.get? l

section deterministic

variable {programs : Behaviour} {t : Trial} {start w w' : World}

theorem sources_subset (t : Trial) (ph : Phase) : t.sources ph ⊆ t.operands ph := by
  cases ph with
  | compile => exact List.subset_append_left [_] _
  | link => exact List.subset_append_left [_, _] _
  | buildReference => exact List.subset_append_left [_, _] _
  | runUnderTest => exact List.Subset.refl _
  | runReference => exact List.Subset.refl _

theorem product_mem_operands {ph : Phase} {p : Path} (h : t.product? ph = some p) :
    p ∈ t.operands ph := by
  cases ph <;> cases h <;> simp [operands]

/-- A product can be told from what lies at its spot, and that from the product. -/
theorem get_of_entry_product
    (hlinks : ∀ l, t.Owns start l → ∀ target, start.files.get? l ≠ some (.symlink target))
    (h : Midway [t] start w) (h' : Midway [t] start w') {p : Path} (hp : p ∈ t.products.toList)
    (hentry : (w.files.entry w.here true p).toOption = (w'.files.entry w'.here true p).toOption)
    {l : Location} (hspot : w.files.spot? w.here p = some l) :
    w.files.get? l = w'.files.get? l := by
  obtain ⟨names, last, hlast⟩ := named_product hp
  have hspot' : w'.files.spot? w'.here p = some l := by rw [h'.spot, ← h.spot, hspot]
  have hget {v : World} (hv : Midway [t] start v) (hl : v.files.spot? v.here p = some l)
      (e : Entry) : (v.files.entry v.here true p).toOption = some (l, e) ↔
        v.files.get? l = some e := by
    rw [hv.entry_follow_product hlinks hp, ← entry_named hlast hl]
    cases v.files.entry v.here false p <;> simp [Except.toOption]
  refine Option.ext fun e => ?_
  rw [← hget h hspot, ← hget h' hspot', hentry]

theorem Deterministic.separable (hdet : Deterministic programs t start) :
    Separable programs [t] start where
  inputs t' ht' p hp l hgoal t'' ht'' := by
    obtain rfl := List.mem_singleton.1 ht'
    obtain rfl := List.mem_singleton.1 ht''
    exact hdet.inputs p hp l hgoal
  links t' ht' l howns := by
    obtain rfl := List.mem_singleton.1 ht'
    exact hdet.links l howns
  writes t' ht' ph w hw l hne := by
    obtain rfl := List.mem_singleton.1 ht'
    exact hdet.writes ph w hw l hne
  determined t' ht' ph w w' hw hw' hoperands := by
    obtain rfl := List.mem_singleton.1 ht'
    have hsources : t'.SameSources ph w w' := fun p hp =>
      hoperands p (sources_subset t' ph hp)
    obtain ⟨hresult, houtput⟩ := hdet.determined ph w w' hw hw' hsources
    refine ⟨hresult, fun p l hproduct hspot => ?_⟩
    rcases houtput p l hproduct hspot with hequal | ⟨hkept, hkept'⟩
    · exact hequal
    · rw [hkept, hkept']
      exact get_of_entry_product hdet.links hw hw' (t'.product_mem hproduct)
        (hoperands p (product_mem_operands hproduct)) hspot

/-- The worlds hold the same at the spots of some products. -/
def Agree (start : World) (made : List Path) (w w' : World) : Prop :=
  ∀ p ∈ made, ∀ l, start.files.spot? start.here p = some l → w.files.get? l = w'.files.get? l

/-- No phase reads a product that no earlier phase was to write. -/
def Supplied (t : Trial) : List Path → List Phase → Prop
  | _, [] => True
  | made, ph :: phs => (∀ p ∈ t.sources ph, p ∈ t.inputs ∨ p ∈ made ∧ p ∈ t.products.toList) ∧
      t.Supplied (made ++ (t.product? ph).toList) phs

theorem supplied_phases (t : Trial) : t.Supplied [] t.phases := by
  unfold phases
  cases t.corpus.answerDir with
  | none => simp [Supplied, sources, product?, source_mem, runtime_mem, Products.toList]
  | some dir => simp [Supplied, sources, product?, source_mem, runtime_mem, Products.toList]

theorem same_sources_of_agree (hdet : Deterministic programs t start) (h : Midway [t] start w)
    (h' : Midway [t] start w') {made : List Path} (hagree : Agree start made w w') {ph : Phase}
    (hsources : ∀ p ∈ t.sources ph, p ∈ t.inputs ∨ p ∈ made ∧ p ∈ t.products.toList) :
    t.SameSources ph w w' := by
  intro p hp
  rcases hsources p hp with hinput | ⟨hmade, hproduct⟩
  · exact entry_input hdet.separable (List.mem_singleton.2 rfl) h h' hinput
  · exact entry_product_of_spot hdet.links h h' hproduct (hagree p hmade)

/-- Once a phase is accepted, its product is the same too. -/
theorem Agree.launch (hdet : Deterministic programs t start)
    (hproductive : Productive programs t start) (h : Midway [t] start w)
    (h' : Midway [t] start w') {made : List Path} (hagree : Agree start made w w') {ph : Phase}
    (hsame : t.SameSources ph w w') {r : Capture}
    (hresult : (w.launch programs (t.command ph) t.settings.timeout).1 = .ok r)
    (haccepts : t.Accepts ph r) :
    Agree start (made ++ (t.product? ph).toList) (t.after programs ph w)
      (t.after programs ph w') := by
  intro p hp l hspot
  by_cases hwritten : ∃ q, t.product? ph = some q ∧ start.files.spot? start.here q = some l
  · obtain ⟨q, hproduct, hq⟩ := hwritten
    exact hproductive ph w w' r h h' hsame hresult haccepts q l hproduct (h.spot q ▸ hq)
  · have hkept {v : World} (hv : Midway [t] start v) :
        (t.after programs ph v).files.get? l = v.files.get? l := by
      refine Classical.byContradiction fun hne => hwritten ?_
      obtain ⟨-, -, q, hproduct, hq⟩ := hdet.writes ph v hv l hne
      exact ⟨q, hproduct, hv.spot q ▸ hq⟩
    have hmade : p ∈ made := by
      rcases List.mem_append.1 hp with hmade | hproduct
      · exact hmade
      · exact absurd ⟨p, by simpa using hproduct, hspot⟩ hwritten
    rw [hkept h, hkept h']
    exact hagree p hmade l hspot

/-- Phases that are supplied come to the same whatever else lies at the spots of the products. -/
theorem performAll_of_agree (hdet : Deterministic programs t start)
    (hproductive : Productive programs t start) (phs : List Phase) {made : List Path}
    (held : Artifacts) (hsupplied : t.Supplied made phs) (h : Midway [t] start w)
    (h' : Midway [t] start w') (hagree : Agree start made w w') :
    (((t.performAll phs).plan held).run programs w).1 =
      (((t.performAll phs).plan held).run programs w').1 := by
  -- The worlds agree on more with every phase: its product is added once it is accepted, and a
  -- phase that is not accepted ends both runs.
  induction phs generalizing made held w w' with
  | nil => rfl
  | cons ph phs ih =>
    obtain ⟨hsources, hrest⟩ := hsupplied
    have hsame := same_sources_of_agree hdet h h' hagree hsources
    have hresult := (hdet.determined ph w w' h h' hsame).1
    have hmidway {v : World} (hv : Midway [t] start v) :
        Midway [t] start (t.after programs ph v) :=
      hv.answer hdet.separable (List.mem_singleton.2 rfl) (.launch ph)
    rw [plan_performAll_cons]
    simp only [Plan.run, World.answer, ← hresult]
    cases hsettle : t.settle ph (w.launch programs (t.command ph) t.settings.timeout).1 with
    | error v => rfl
    | ok r =>
      obtain ⟨hr, haccepts⟩ := t.settle_eq_ok_iff.1 hsettle
      have hafter := Agree.launch hdet hproductive h h' hagree hsame hr haccepts
      simp only [Plan.run_bind, Plan.run]
      rw [ih _ hrest (hmidway h) (hmidway h') hafter]

/-- The opening finds the same in worlds with the same inputs. -/
theorem look_congr (hdet : Deterministic programs t start) (h : Midway [t] start w)
    (h' : Midway [t] start w') : t.look w = t.look w' := by
  have hentry {p : Path} (hp : p ∈ t.inputs) := entry_input hdet.separable
    (List.mem_singleton.2 rfl) h h' hp
  have hsource : w.isFile t.test.source = w'.isFile t.test.source :=
    isFile_congr (hentry source_mem)
  unfold look
  rw [hsource]
  cases hcorpus : t.corpus.answerDir with
  | none => rfl
  | some dir =>
    have hanswer : w.isFile (t.answerPath dir) = w'.isFile (t.answerPath dir) :=
      isFile_congr (hentry (answer_mem hcorpus))
    simp only [hanswer]
    by_cases hthere : w'.isFile (t.answerPath dir) = true
    · obtain ⟨bytes, hbytes⟩ := exists_read_of_isFile hthere
      have hread := read_congr (hentry (answer_mem hcorpus))
      rw [hbytes] at hread
      cases hw : w.files.read w.here (t.answerPath dir) with
      | error cause =>
        rw [hw] at hread
        cases hread
      | ok bytes' =>
        rw [hw] at hread
        obtain rfl : bytes' = bytes := Option.some.inj hread
        simp only [World.read, hw, hbytes]
    · simp [hthere]

theorem midway_run (hdet : Deterministic programs t start) {α : Type} {p : Plan α}
    (hp : p.Only t.Asks) (h : Midway [t] start w) : Midway [t] start (p.run programs w).2 := by
  induction p generalizing w with
  | done a => exact h
  | ask r next ih =>
    have hanswer := h.answer hdet.separable (List.mem_singleton.2 rfl) hp.1
    exact ih _ (hp.2 _) hanswer

theorem verdict_congr (hdet : Deterministic programs t start)
    (hproductive : Productive programs t start) (h : Midway [t] start w)
    (h' : Midway [t] start w') : (t.plan.run programs w).1 = (t.plan.run programs w').1 := by
  have hlook := look_congr hdet h h'
  rw [run_plan_fst, run_plan_fst]
  cases hw : t.look w with
  | error v =>
    rw [t.run_steps_of_look_error programs hw, t.run_steps_of_look_error programs (hlook ▸ hw)]
  | ok answer =>
    have hphases := performAll_of_agree hdet hproductive t.phases .empty t.supplied_phases h h'
      fun p hp => absurd hp List.not_mem_nil
    rw [t.run_steps_of_look_ok programs hw, t.run_steps_of_look_ok programs (hlook ▸ hw),
      outcomes, outcomes, hphases]

end deterministic

/-- If what reports success has written its output, then what earlier trials left behind makes no
difference to a verdict. In particular a second trial comes to the same as the first. -/
theorem verdict_of_leftovers (programs : Behaviour) (t : Trial) (start : World)
    (hdet : Deterministic programs t start) (hproductive : Productive programs t start) :
    (∀ w, Midway [t] start w →
      (t.plan.run programs w).1 = (t.plan.run programs start).1) ∧
    (t.plan.run programs (t.plan.run programs start).2).1 = (t.plan.run programs start).1 := by
  have hverdict (w : World) (h : Midway [t] start w) :
      (t.plan.run programs w).1 = (t.plan.run programs start).1 :=
    verdict_congr hdet hproductive h midway_start
  refine ⟨hverdict, hverdict _ ?_⟩
  exact midway_run hdet alike_plan.only midway_start

/-- What is to lie where once a file has been copied. -/
def copy? (w : World) (source product : Path) : Option (Location × Entry) :=
  match (w.files.entry w.here true source).toOption with
  | some (_, .file data _) => (w.files.spot? w.here product).map fun l => (l, .file data true)
  | _ => none

/-- What a command copies, and where. A compiler that is not diligent copies nothing. -/
def copied? (t : Trial) (diligent : Bool) (command : Command) : Option (Path × Path) :=
  if command = t.linkCommand then some (t.products.assembly, t.products.underTest)
  else if command = t.referenceCommand then some (t.test.source, t.products.reference)
  else if command = t.compileCommand ∧ diligent = true then
    some (t.test.source, t.products.assembly)
  else none

/-- Programs that copy one file, and fail if there is none. What copies nothing succeeds. -/
def copier (t : Trial) (diligent : Bool) : Behaviour := fun w command _ =>
  match copied? t diligent command with
  | none => ⟨.ok ⟨0, [], []⟩, w.files, w.clock⟩
  | some (source, product) =>
    match copy? w source product with
    | some (l, e) => ⟨.ok ⟨0, [], []⟩, w.files.insert l e, w.clock⟩
    | none => ⟨.ok ⟨1, [], []⟩, w.files, w.clock⟩

section copier

variable {t : Trial} {diligent : Bool} {start w w' : World}

theorem spot_of_copy {source product : Path} {l : Location} {e : Entry}
    (h : copy? w source product = some (l, e)) :
    w.files.spot? w.here product = some l ∧ Plain (some e) := by
  unfold copy? at h
  split at h
  · obtain ⟨l', hspot, heq⟩ := Option.map_eq_some_iff.1 h
    cases heq
    exact ⟨hspot, by simp [Plain]⟩
  · cases h

theorem copy_congr (h : Midway [t] start w) (h' : Midway [t] start w') {source product : Path}
    (hsource : (w.files.entry w.here true source).toOption =
      (w'.files.entry w'.here true source).toOption) :
    copy? w source product = copy? w' source product := by
  unfold copy?
  rw [hsource, h.spot, h'.spot]

theorem exitCode_of_accepts {ph : Phase} {r : Capture} {p : Path} (h : t.Accepts ph r)
    (hproduct : t.product? ph = some p) : r.exitCode = 0 := by
  cases ph with
  | compile => exact h.1
  | link => exact h
  | buildReference => exact h
  | runUnderTest => cases hproduct
  | runReference => cases hproduct

variable (hcopied : ∀ ph source product,
    copied? t diligent (t.command ph) = some (source, product) →
      source ∈ t.sources ph ∧ t.product? ph = some product)
include hcopied

theorem deterministic_copier
    (hinputs : ∀ p ∈ t.inputs, ∀ l, start.files.goal? start.here p = some l → ¬t.Owns start l)
    (hfree : ∀ l, t.Owns start l → start.files.get? l = none) :
    Deterministic (copier t diligent) t start where
  inputs := hinputs
  links l howns target := by simp [hfree l howns]
  writes ph w h l hne := by
    simp only [Trial.after, World.launch, copier] at hne ⊢
    cases hcommand : copied? t diligent (t.command ph) with
    | none => simp [hcommand] at hne
    | some paths =>
      obtain ⟨source, product⟩ := paths
      cases hcopy : copy? w source product with
      | none => simp [hcommand, hcopy] at hne
      | some written =>
        obtain ⟨k, e⟩ := written
        obtain ⟨hspot, hplain⟩ := spot_of_copy hcopy
        have hproduct := (hcopied ph source product hcommand).2
        simp only [hcommand, hcopy, get?_insert] at hne ⊢
        obtain rfl : l = k := Classical.byContradiction fun hl => hne (if_neg hl)
        have howns : t.Owns start l := ⟨product, t.product_mem hproduct, h.spot product ▸ hspot⟩
        refine ⟨?_, by rwa [if_pos rfl], product, hproduct, hspot⟩
        by_cases hkept : w.files.get? l = start.files.get? l
        · rw [hkept, hfree l howns]
          simp [Plain]
        · exact (h.files l hkept).2.1
  determined ph w w' h h' hsame := by
    simp only [Trial.after, World.launch, copier]
    cases hcommand : copied? t diligent (t.command ph) with
    | none => exact ⟨rfl, fun p l _ _ => .inr ⟨rfl, rfl⟩⟩
    | some paths =>
      obtain ⟨source, product⟩ := paths
      obtain ⟨hsource, hproduct⟩ := hcopied ph source product hcommand
      have hcopy : copy? w source product = copy? w' source product :=
        copy_congr h h' (hsame source hsource)
      simp only [← hcopy]
      cases hwritten : copy? w source product with
      | none => exact ⟨rfl, fun p l _ _ => .inr ⟨rfl, rfl⟩⟩
      | some written =>
        obtain ⟨k, e⟩ := written
        refine ⟨rfl, fun p l hp hspot => .inl ?_⟩
        obtain rfl : product = p := Option.some.inj (hproduct.symm.trans hp)
        obtain rfl : k = l := Option.some.inj ((spot_of_copy hwritten).1.symm.trans hspot)
        simp

theorem productive_copier
    (hall : ∀ ph product, t.product? ph = some product →
      ∃ source, copied? t diligent (t.command ph) = some (source, product)) :
    Productive (copier t diligent) t start := by
  intro ph w w' r h h' hsame hresult haccepts p l hproduct hspot
  obtain ⟨source, hcommand⟩ := hall ph p hproduct
  have hexit := exitCode_of_accepts haccepts hproduct
  have hcopy : copy? w source p = copy? w' source p :=
    copy_congr h h' (hsame source (hcopied ph source p hcommand).1)
  simp only [Trial.after, World.launch, copier, hcommand, ← hcopy] at hresult ⊢
  cases hwritten : copy? w source p with
  | none =>
    rw [hwritten] at hresult
    cases hresult
    cases hexit
  | some written =>
    obtain ⟨k, e⟩ := written
    obtain rfl : k = l := Option.some.inj ((spot_of_copy hwritten).1.symm.trans hspot)
    simp

end copier

theorem copied_sample (diligent : Bool) (ph : Phase) (source product : Path)
    (h : copied? sample diligent (sample.command ph) = some (source, product)) :
    source ∈ sample.sources ph ∧ sample.product? ph = some product := by
  have hall : ∀ paths ∈ copied? sample diligent (sample.command ph),
      paths.1 ∈ sample.sources ph ∧ sample.product? ph = some paths.2 := by
    cases diligent <;> cases ph <;> decide
  exact hall (source, product) h

theorem deterministic_sample (diligent : Bool) :
    Deterministic (copier sample diligent) sample sampleWorld := by
  refine deterministic_copier (copied_sample diligent) ?_ ?_
  · have hgoals : ∀ p ∈ sample.inputs, ∀ l ∈ sampleWorld.files.goal? sampleWorld.here p,
        ¬sample.Owns sampleWorld l := by decide
    exact hgoals
  · have hfree : ∀ q ∈ sample.products.toList,
        ∀ l ∈ sampleWorld.files.spot? sampleWorld.here q, sampleWorld.files.get? l = none := by
      decide
    rintro l ⟨q, hq, hspot⟩
    exact hfree q hq l hspot

theorem verdict_of_leftovers_sample :
    Deterministic (copier sample true) sample sampleWorld ∧
    Productive (copier sample true) sample sampleWorld ∧
    (∀ w, Midway [sample] sampleWorld w → (sample.plan.run (copier sample true) w).1 =
      (sample.plan.run (copier sample true) sampleWorld).1) ∧
    (sample.plan.run (copier sample true)
        (sample.plan.run (copier sample true) sampleWorld).2).1 =
      (sample.plan.run (copier sample true) sampleWorld).1 := by
  have hdet := deterministic_sample true
  have hproductive : Productive (copier sample true) sample sampleWorld := by
    have hall : ∀ ph, ∀ product ∈ sample.product? ph,
        ((copied? sample true (sample.command ph)).map Prod.snd) = some product := by
      intro ph
      cases ph <;> decide
    refine productive_copier (copied_sample true) fun ph product hproduct => ?_
    obtain ⟨⟨source, p⟩, hpaths, rfl⟩ := Option.map_eq_some_iff.1 (hall ph product hproduct)
    exact ⟨source, hpaths⟩
  exact ⟨hdet, hproductive, verdict_of_leftovers (copier sample true) sample sampleWorld hdet
    hproductive⟩

/-- The world of the sample after an earlier trial that left an assembly file. -/
def litteredWorld : World :=
  { sampleWorld with
    files := sampleWorld.files.insert [Text.utf8 "a.riscv64.s"] (.file [] true) }

/-- A compiler that writes nothing and reports success is passed by what an earlier trial has left
behind, and not without it. -/
theorem verdict_depends_on_leftovers :
    let programs := copier sample false
    let broken : Verdict :=
      .ok (.failedAtAssembly "Assembly linking failed (exit code 1)")
    Deterministic programs sample sampleWorld ∧ Midway [sample] sampleWorld litteredWorld ∧
    (sample.plan.run programs sampleWorld).1 = broken ∧
    (sample.plan.run programs litteredWorld).1 = .ok .passed ∧
    (sample.plan.run programs (sample.plan.run programs litteredWorld).2).1 = broken := by
  refine ⟨deterministic_sample false, ⟨rfl, rfl, fun l hne => ?_⟩, by decide +kernel,
    by decide +kernel, by decide +kernel⟩
  have hassembly : l = [Text.utf8 "a.riscv64.s"] := by
    refine Classical.byContradiction fun hl => hne ?_
    rw [litteredWorld, get?_insert, if_neg hl]
  have howns : sample.Owns sampleWorld l :=
    ⟨sample.products.assembly, by decide, by rw [hassembly]; decide⟩
  have hbefore : sampleWorld.files.get? l = none := by rw [hassembly]; decide
  have hafter : litteredWorld.files.get? l = some (.file [] true) := by
    rw [litteredWorld, get?_insert, if_pos hassembly]
  rw [hbefore, hafter]
  exact ⟨by simp [Plain], by simp [Plain], sample, List.mem_singleton.2 rfl, howns⟩

end Trial

end Crosscheck
