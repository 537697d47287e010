import Crosscheck.Proofs.Interleaving
import Crosscheck.Proofs.Names
import Crosscheck.Proofs.Requests
import Crosscheck.Proofs.Shape

/-!
# Trials side by side

Trials of different cases share a directory for their artifacts and nothing that one of them
changes: each owns the spots of its products. While several are run, the world differs from the one
they started in by plain files at owned spots only, and a trial that sees the same at its own spots
is answered the same.
-/

namespace Crosscheck

open FileTree

namespace Trial

/-- The spots of the products of a trial. -/
def Owns (t : Trial) (w : World) (l : Location) : Prop :=
  ∃ p ∈ t.products.toList, w.files.spot? w.here p = some l

instance (t : Trial) (w : World) (l : Location) : Decidable (t.Owns w l) :=
  inferInstanceAs (Decidable (∃ p ∈ t.products.toList, w.files.spot? w.here p = some l))

/-- The files that the command of a phase names. -/
def operands (t : Trial) : Phase → List Path
  | .compile => [t.test.source, t.products.assembly]
  | .link => [t.products.assembly, t.runtime, t.products.underTest]
  | .buildReference => [t.test.source, t.runtime, t.products.reference]
  | .runUnderTest => [t.products.underTest]
  | .runReference => [t.products.reference]

/-- A world as it may be while some trials are run that started in another one. -/
structure Midway (trials : List Trial) (start w : World) : Prop where
  here : w.here = start.here
  searchPath : w.searchPath = start.searchPath
  files : ∀ l, w.files.get? l ≠ start.files.get? l →
    Plain (start.files.get? l) ∧ Plain (w.files.get? l) ∧ ∃ t ∈ trials, t.Owns start l

/-- The world after a command, whatever comes of it. -/
abbrev after (t : Trial) (programs : Behaviour) (ph : Phase) (w : World) : World :=
  (w.launch programs (t.command ph) t.settings.timeout).2

/-- What keeps some trials apart that start in a world: what they read is no artifact, no artifact
is a link, which would be another name of a file that another trial may own, and a command changes
nothing but the plain file that it is to write, by what the files that it names hold. -/
structure Separable (programs : Behaviour) (trials : List Trial) (start : World) : Prop where
  inputs : ∀ t ∈ trials, ∀ p ∈ t.inputs, ∀ l, start.files.goal? start.here p = some l →
    ∀ t' ∈ trials, ¬t'.Owns start l
  links : ∀ t ∈ trials, ∀ l, t.Owns start l → ∀ target,
    start.files.get? l ≠ some (.symlink target)
  writes : ∀ t ∈ trials, ∀ ph w, Midway trials start w → ∀ l,
    (t.after programs ph w).files.get? l ≠ w.files.get? l →
      Plain (w.files.get? l) ∧ Plain ((t.after programs ph w).files.get? l) ∧
        ∃ p, t.product? ph = some p ∧ w.files.spot? w.here p = some l
  determined : ∀ t ∈ trials, ∀ ph w w', Midway trials start w → Midway trials start w' →
    (∀ p ∈ t.operands ph, (w.files.entry w.here true p).toOption =
      (w'.files.entry w'.here true p).toOption) →
    (w.launch programs (t.command ph) t.settings.timeout).1 =
        (w'.launch programs (t.command ph) t.settings.timeout).1 ∧
      ∀ p l, t.product? ph = some p → w.files.spot? w.here p = some l →
        (t.after programs ph w).files.get? l = (t.after programs ph w').files.get? l

section midway

variable {programs : Behaviour} {trials : List Trial} {start w w' : World} {t : Trial}
  {l : Location}

theorem midway_start : Midway trials start start := ⟨rfl, rfl, fun _ hne => absurd rfl hne⟩

theorem Midway.shape (h : Midway trials start w) (h' : Midway trials start w') :
    w.files.SameShape w'.files := by
  intro l hne
  by_cases hw : w.files.get? l = start.files.get? l
  · have hw' : w'.files.get? l ≠ start.files.get? l := fun heq => hne (hw.trans heq.symm)
    obtain ⟨hstart, hplain, -⟩ := h'.files l hw'
    exact ⟨hw ▸ hstart, hplain⟩
  · obtain ⟨hstart, hplain, -⟩ := h.files l hw
    refine ⟨hplain, ?_⟩
    by_cases hw' : w'.files.get? l = start.files.get? l
    · exact hw' ▸ hstart
    · exact (h'.files l hw').2.1

theorem Midway.spot (h : Midway trials start w) (p : Path) :
    w.files.spot? w.here p = start.files.spot? start.here p := by
  rw [h.here]
  exact (h.shape midway_start).spot start.here p

theorem Midway.get_of_not_owned (h : Midway trials start w)
    (hfree : ∀ t ∈ trials, ¬t.Owns start l) : w.files.get? l = start.files.get? l := by
  refine Classical.byContradiction fun hne => ?_
  obtain ⟨-, -, t, ht, howns⟩ := h.files l hne
  exact hfree t ht howns

theorem Midway.ne_link (h : Midway trials start w)
    (hlink : ∀ target, start.files.get? l ≠ some (.symlink target)) (target : Path) :
    w.files.get? l ≠ some (.symlink target) := by
  by_cases hw : w.files.get? l = start.files.get? l
  · rw [hw]
    exact hlink target
  · exact (h.files l hw).2.1.2 target

theorem named_product {p : Path} (hp : p ∈ t.products.toList) :
    ∃ names last, Named p names last := by
  obtain ⟨_, names, hnamed⟩ := t.siblings_products []
  obtain ⟨-, last, hlast⟩ := hnamed p hp
  exact ⟨names, last, hlast⟩

/-- What a trial asks changes nothing but plain files at the spots that it owns. -/
theorem changes_of_asks (hsep : Separable programs trials start) (ht : t ∈ trials)
    (h : Midway trials start w) {r : Request} (hr : t.Asks r) :
    (w.answer programs r).2.here = w.here ∧ (w.answer programs r).2.searchPath = w.searchPath ∧
    ∀ l, (w.answer programs r).2.files.get? l ≠ w.files.get? l →
      t.Owns start l ∧ Plain (w.files.get? l) ∧ Plain ((w.answer programs r).2.files.get? l) := by
  cases hr with
  | isFile hp => exact ⟨rfl, rfl, fun l hne => absurd rfl hne⟩
  | read hp => exact ⟨rfl, rfl, fun l hne => absurd rfl hne⟩
  | now => exact ⟨rfl, rfl, fun l hne => absurd rfl hne⟩
  | @remove p hp =>
    refine ⟨w.here_remove p, w.searchPath_remove p, fun l hne => ?_⟩
    obtain ⟨names, last, hlast⟩ := named_product hp
    simp only [World.answer, World.files_remove, get?_without hlast] at hne ⊢
    by_cases hremoved : w.files.spot? w.here p = some l ∧ w.files.get? l ≠ some .directory
    · rw [if_pos hremoved]
      have howns : t.Owns start l := ⟨p, hp, h.spot p ▸ hremoved.1⟩
      exact ⟨howns, ⟨hremoved.2, h.ne_link (hsep.links t ht l howns)⟩, by simp [Plain]⟩
    · rw [if_neg hremoved] at hne
      exact absurd rfl hne
  | launch ph =>
    refine ⟨rfl, rfl, fun l hne => ?_⟩
    obtain ⟨hbefore, hafter, p, hproduct, hspot⟩ := hsep.writes t ht ph w h l hne
    exact ⟨⟨p, t.product_mem hproduct, h.spot p ▸ hspot⟩, hbefore, hafter⟩

theorem Midway.answer (h : Midway trials start w) (hsep : Separable programs trials start)
    (ht : t ∈ trials) {r : Request} (hr : t.Asks r) :
    Midway trials start (w.answer programs r).2 := by
  obtain ⟨hhere, hsearchPath, hfiles⟩ := changes_of_asks hsep ht h hr
  refine ⟨hhere.trans h.here, hsearchPath.trans h.searchPath, fun l hne => ?_⟩
  by_cases hkept : (w.answer programs r).2.files.get? l = w.files.get? l
  · rw [hkept] at hne ⊢
    exact h.files l hne
  · obtain ⟨howns, hbefore, hafter⟩ := hfiles l hkept
    refine ⟨?_, hafter, t, ht, howns⟩
    by_cases hw : w.files.get? l = start.files.get? l
    · exact hw ▸ hbefore
    · exact (h.files l hw).1

end midway

section own

variable {programs : Behaviour} {trials : List Trial} {start w w' : World} {t : Trial}

theorem entry_input (hsep : Separable programs trials start) (ht : t ∈ trials)
    (h : Midway trials start w) (h' : Midway trials start w') {p : Path} (hp : p ∈ t.inputs) :
    (w.files.entry w.here true p).toOption = (w'.files.entry w'.here true p).toOption := by
  rw [h'.here, ← h.here]
  refine (h.shape h').entry fun l hgoal => ?_
  rw [h.here, (h.shape midway_start).goal] at hgoal
  have hfree := hsep.inputs t ht p hp l hgoal
  rw [h.get_of_not_owned hfree, h'.get_of_not_owned hfree]

/-- No product is a link. -/
theorem Midway.entry_follow_product (h : Midway trials start w)
    (hlinks : ∀ l, t.Owns start l → ∀ target, start.files.get? l ≠ some (.symlink target))
    {p : Path} (hp : p ∈ t.products.toList) :
    w.files.entry w.here true p = w.files.entry w.here false p := by
  obtain ⟨names, last, hlast⟩ := named_product hp
  refine entry_follow fun l target hentry => ?_
  have hspot := spot_of_entry hentry
  have howns : t.Owns start l := ⟨p, hp, h.spot p ▸ hspot⟩
  exact h.ne_link (hlinks l howns) target ((entry_named hlast hspot).1 hentry)

/-- A product is the same in worlds that agree on its spot. -/
theorem entry_product_of_spot
    (hlinks : ∀ l, t.Owns start l → ∀ target, start.files.get? l ≠ some (.symlink target))
    (h : Midway trials start w) (h' : Midway trials start w') {p : Path}
    (hp : p ∈ t.products.toList)
    (hget : ∀ l, start.files.spot? start.here p = some l → w.files.get? l = w'.files.get? l) :
    (w.files.entry w.here true p).toOption = (w'.files.entry w'.here true p).toOption := by
  rw [h.entry_follow_product hlinks hp, h'.entry_follow_product hlinks hp, h'.here, ← h.here]
  exact entry_of_meets (meets_locate (h.shape h') w.here false p) fun l hspot =>
    hget l (h.spot p ▸ hspot)

/-- A product is the same in worlds that agree on the spots that the trial owns. -/
theorem entry_product (hsep : Separable programs trials start) (ht : t ∈ trials)
    (h : Midway trials start w) (h' : Midway trials start w')
    (hview : ∀ l, t.Owns start l → w.files.get? l = w'.files.get? l) {p : Path}
    (hp : p ∈ t.products.toList) :
    (w.files.entry w.here true p).toOption = (w'.files.entry w'.here true p).toOption :=
  entry_product_of_spot (hsep.links t ht) h h' hp fun l hspot => hview l ⟨p, hp, hspot⟩

theorem mem_of_operand {ph : Phase} {p : Path} (hp : p ∈ t.operands ph) :
    p ∈ t.inputs ∨ ∃ ph', t.product? ph' = some p := by
  cases ph with
  | compile =>
    rcases List.mem_cons.1 hp with rfl | hp
    · exact .inl source_mem
    · exact .inr ⟨.compile, congrArg some (List.mem_singleton.1 hp).symm⟩
  | link =>
    rcases List.mem_cons.1 hp with rfl | hp
    · exact .inr ⟨.compile, rfl⟩
    rcases List.mem_cons.1 hp with rfl | hp
    · exact .inl runtime_mem
    · exact .inr ⟨.link, congrArg some (List.mem_singleton.1 hp).symm⟩
  | buildReference =>
    rcases List.mem_cons.1 hp with rfl | hp
    · exact .inl source_mem
    rcases List.mem_cons.1 hp with rfl | hp
    · exact .inl runtime_mem
    · exact .inr ⟨.buildReference, congrArg some (List.mem_singleton.1 hp).symm⟩
  | runUnderTest => exact .inr ⟨.link, congrArg some (List.mem_singleton.1 hp).symm⟩
  | runReference => exact .inr ⟨.buildReference, congrArg some (List.mem_singleton.1 hp).symm⟩

theorem entry_operand (hsep : Separable programs trials start) (ht : t ∈ trials)
    (h : Midway trials start w) (h' : Midway trials start w')
    (hview : ∀ l, t.Owns start l → w.files.get? l = w'.files.get? l) {ph : Phase} {p : Path}
    (hp : p ∈ t.operands ph) :
    (w.files.entry w.here true p).toOption = (w'.files.entry w'.here true p).toOption := by
  rcases mem_of_operand hp with hp | ⟨ph', hp⟩
  · exact entry_input hsep ht h h' hp
  · exact entry_product hsep ht h h' hview (t.product_mem hp)

/-- Worlds that agree on the spots that a trial owns answer it the same, and go on agreeing. -/
theorem answer_own (hsep : Separable programs trials start) (ht : t ∈ trials)
    (h : Midway trials start w) (h' : Midway trials start w')
    (hview : ∀ l, t.Owns start l → w.files.get? l = w'.files.get? l) {r : Request}
    (hr : t.Asks r) :
    r.Same (w.answer programs r).1 (w'.answer programs r).1 ∧ ∀ l, t.Owns start l →
      (w.answer programs r).2.files.get? l = (w'.answer programs r).2.files.get? l := by
  cases hr with
  | isFile hp => exact ⟨isFile_congr (entry_input hsep ht h h' hp), hview⟩
  | read hp => exact ⟨read_congr (entry_input hsep ht h h' hp), hview⟩
  | now => exact ⟨trivial, hview⟩
  | @remove p hp =>
    refine ⟨trivial, fun l howns => ?_⟩
    obtain ⟨names, last, hlast⟩ := named_product hp
    simp only [World.answer, World.files_remove, get?_without hlast]
    rw [h.spot, h'.spot, hview l howns]
  | launch ph =>
    obtain ⟨hresult, houtput⟩ := hsep.determined t ht ph w w' h h' fun p hp =>
      entry_operand hsep ht h h' hview hp
    refine ⟨hresult, fun l howns => ?_⟩
    by_cases hproduct : ∃ p, t.product? ph = some p ∧ w.files.spot? w.here p = some l
    · obtain ⟨p, hp, hspot⟩ := hproduct
      exact houtput p l hp hspot
    · have hkept {v : World} (hv : Midway trials start v) :
          (t.after programs ph v).files.get? l = v.files.get? l := by
        refine Classical.byContradiction fun hne => hproduct ?_
        obtain ⟨-, -, p, hp, hspot⟩ := hsep.writes t ht ph v hv l hne
        exact ⟨p, hp, by rw [h.spot, ← hv.spot, hspot]⟩
      exact (hkept h).trans ((hview l howns).trans (hkept h').symm)

end own

/-- No two trials own one spot. -/
def Apart (trials : List Trial) (start : World) : Prop :=
  ∀ (i j : Nat) (t t' : Trial) (l : Location), trials[i]? = some t → trials[j]? = some t' →
    t.Owns start l → t'.Owns start l → i = j

/-- Trials that are kept apart are separate jobs. -/
def separation {programs : Behaviour} {trials : List Trial} {start : World}
    (hsep : Separable programs trials start) (hapart : Apart trials start) (count : Nat) :
    Separation programs count where
  sane := Midway trials start
  view i w w' := ∀ t l, trials[i]? = some t → t.Owns start l → w.files.get? l = w'.files.get? l
  asks i r := ∃ t, trials[i]? = some t ∧ t.Asks r
  equivalence i :=
    { refl := fun w t l _ _ => rfl
      symm := fun h t l ht howns => (h t l ht howns).symm
      trans := fun h h' t l ht howns => (h t l ht howns).trans (h' t l ht howns) }
  sane_answer := by
    rintro i r w - ⟨t, ht, hr⟩ h
    exact h.answer hsep (List.mem_of_getElem? ht) hr
  own := by
    rintro i r w w' - ⟨t, ht, hr⟩ h h' hview
    obtain ⟨hsame, hview'⟩ := answer_own hsep (List.mem_of_getElem? ht) h h'
      (fun l => hview t l ht) hr
    refine ⟨hsame, fun t' l ht' => ?_⟩
    obtain rfl : t = t' := Option.some.inj (ht.symm.trans ht')
    exact hview' l
  foreign := by
    rintro i j r w - - hij ⟨t', ht', hr⟩ h t l ht howns
    refine Classical.byContradiction fun hne => ?_
    obtain ⟨-, -, hfiles⟩ := changes_of_asks hsep (List.mem_of_getElem? ht') h hr
    exact hij (hapart i j t t' l ht ht' howns (hfiles l (Ne.symm hne)).1)

end Trial

end Crosscheck
