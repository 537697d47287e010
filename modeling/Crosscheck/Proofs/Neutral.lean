import Crosscheck.Proofs.Tracking

/-!
# Trials leave no files

Programs that write nothing but what they are told to write leave litter: entries where nothing was
before, at spots of paths that were tracked before the launch. Releasing these paths brings back
the files that were there, however the trial ended.
-/

namespace Crosscheck

namespace FileTree

/-- Nothing lies where a path leads. -/
def Absent (s : FileTree) (here : Location) (p : Path) : Prop :=
  ∀ l e, s.entry here false p ≠ .ok (l, e)

/-- The second tree has more than the first only at spots of some paths, and no directory there. -/
def Litter (here : Location) (ps : List Path) (s t : FileTree) : Prop :=
  ∀ l, t.get? l ≠ s.get? l → s.get? l = none ∧ t.get? l ≠ some .directory ∧
    ∃ p ∈ ps, s.spot? here p = some l

section litter

variable {here l : Location} {p : Path} {ps qs all : List Path} {s t t' : FileTree}

theorem litter_refl : Litter here ps s s := fun _ hne => absurd rfl hne

theorem Litter.mono (h : Litter here ps s t) (hsub : ps ⊆ qs) : Litter here qs s t := by
  intro l hne
  obtain ⟨hnone, hdirectory, p, hp, hspot⟩ := h l hne
  exact ⟨hnone, hdirectory, p, hsub hp, hspot⟩

theorem Litter.extends (h : Litter here ps s t) : s.Extends t := by
  intro l e hget
  by_cases hne : t.get? l = s.get? l
  · rw [hne, hget]
  · rw [(h l hne).1] at hget
    cases hget

theorem get_of_absent (hall : Siblings here all) (hp : p ∈ all) (habsent : s.Absent here p)
    (hspot : s.spot? here p = some l) : s.get? l = none := by
  obtain ⟨start, names, hnamed⟩ := hall
  obtain ⟨-, last, hlast⟩ := hnamed p hp
  cases hget : s.get? l with
  | none => rfl
  | some e => exact absurd ((entry_named hlast hspot).2 hget) (habsent l e)

/-- Litter leads the paths of a directory to no new spots. -/
theorem Litter.spot (h : Litter here ps s t) (hall : Siblings here all) (hps : ps ⊆ all)
    (hp : p ∈ all) (hspot : t.spot? here p = some l) : s.spot? here p = some l := by
  by_cases hsame : ∀ l, t.get? l = s.get? l
  · rwa [ext_get? hsame] at hspot
  · obtain ⟨k, hk⟩ := Classical.not_forall.1 hsame
    obtain ⟨-, -, q, hq, hspotq⟩ := h k hk
    obtain ⟨start, names, hnamed⟩ := hall
    obtain ⟨hstart, last, hlast⟩ := hnamed p hp
    obtain ⟨hstart', last', hlast'⟩ := hnamed q (hps hq)
    exact spot_of_sibling h.extends hlast hlast' (hstart.trans hstart'.symm) hspotq hspot

theorem Litter.change (h : Litter here ps s t) (hall : Siblings here all) (hps : ps ⊆ all)
    (hp : p ∈ ps) (habsent : s.Absent here p)
    (hchange : ∀ l, t'.get? l ≠ t.get? l →
      t'.get? l ≠ some .directory ∧ t.spot? here p = some l) : Litter here ps s t' := by
  intro l hne
  by_cases hkept : t'.get? l = t.get? l
  · rw [hkept] at hne ⊢
    exact h l hne
  · obtain ⟨hdirectory, hspot⟩ := hchange l hkept
    have hspot' := h.spot hall hps (hps hp) hspot
    exact ⟨get_of_absent hall (hps hp) habsent hspot', hdirectory, p, hp, hspot'⟩

theorem Litter.without (h : Litter here (p :: ps) s t) (hall : Siblings here all)
    (hps : p :: ps ⊆ all) (habsent : s.Absent here p) : Litter here ps s (t.without here p) := by
  have hp : p ∈ all := hps List.mem_cons_self
  obtain ⟨start, names, hnamed⟩ := id hall
  obtain ⟨-, last, hlast⟩ := hnamed p hp
  intro l hne
  rw [get?_without hlast] at hne ⊢
  by_cases hremoved : t.spot? here p = some l ∧ t.get? l ≠ some .directory
  · have hspot := h.spot hall hps hp hremoved.1
    rw [if_pos hremoved, get_of_absent hall hp habsent hspot] at hne
    exact absurd rfl hne
  · rw [if_neg hremoved] at hne ⊢
    obtain ⟨hnone, hdirectory, q, hq, hspot⟩ := h l hne
    refine ⟨hnone, hdirectory, q, (List.mem_cons.1 hq).resolve_left ?_, hspot⟩
    -- Had the path left litter, it would have been removed.
    rintro rfl
    exact hremoved ⟨spot_of_extends h.extends hlast hspot, hdirectory⟩

theorem Litter.eq (h : Litter here [] s t) : t = s := by
  refine ext_get? fun l => Classical.byContradiction fun hne => ?_
  obtain ⟨-, -, p, hp, -⟩ := h l hne
  cases hp

end litter

end FileTree

open FileTree

namespace Trial

variable (t : Trial)

/-- The places of all artifacts are free. -/
def Fresh (w : World) : Prop := ∀ p ∈ t.products.toList, w.files.Absent w.here p

/-- Programs change nothing but what their command tells them to write, which they may write in
part or not at all, and they make no directory of it. -/
def Confined (programs : Behaviour) : Prop :=
  ∀ ph (w : World) l,
    (w.launch programs (t.command ph) t.settings.timeout).2.files.get? l ≠ w.files.get? l →
    (w.launch programs (t.command ph) t.settings.timeout).2.files.get? l ≠ some .directory ∧
      ∃ p, t.product? ph = some p ∧ w.files.spot? w.here p = some l

variable {t} {programs : Behaviour}

theorem litter_launch (hconfined : t.Confined programs) {s : FileTree} {w : World}
    {made : Artifacts} (hmade : made.paths ⊆ t.products.toList)
    (hfresh : ∀ p ∈ t.products.toList, s.Absent w.here p)
    (hlitter : Litter w.here made.paths s w.files) (ph : Phase) :
    Litter w.here (t.hold ph made).paths s
      (w.launch programs (t.command ph) t.settings.timeout).2.files := by
  obtain ⟨hkept, hheld⟩ := t.hold_subset ph hmade
  have hall := t.siblings_products w.here
  cases hproduct : t.product? ph with
  | none =>
    have hsame : (w.launch programs (t.command ph) t.settings.timeout).2.files = w.files := by
      refine ext_get? fun l => Classical.byContradiction fun hne => ?_
      obtain ⟨-, p, hp, -⟩ := hconfined ph w l hne
      rw [hproduct] at hp
      cases hp
    rw [hsame]
    exact hlitter.mono hkept
  | some p =>
    refine (hlitter.mono hkept).change hall hheld (t.mem_hold hmade hproduct)
      (hfresh p (t.product_mem hproduct)) fun l hne => ?_
    obtain ⟨hdirectory, q, hq, hspot⟩ := hconfined ph w l hne
    rw [hproduct, Option.some.injEq] at hq
    exact ⟨hdirectory, hq ▸ hspot⟩

/-- Phases leave litter at most, at the spots of what they have taken on. -/
theorem litter_performAll (hconfined : t.Confined programs) {s : FileTree} (phs : List Phase)
    {w : World} {made : Artifacts} (hmade : made.paths ⊆ t.products.toList)
    (hfresh : ∀ p ∈ t.products.toList, s.Absent w.here p)
    (hlitter : Litter w.here made.paths s w.files) :
    (((t.performAll phs).plan made).run programs w).2.here = w.here ∧
    (((t.performAll phs).plan made).run programs w).1.2.paths ⊆ t.products.toList ∧
    Litter w.here (((t.performAll phs).plan made).run programs w).1.2.paths s
      (((t.performAll phs).plan made).run programs w).2.files := by
  induction phs generalizing w made with
  | nil => exact ⟨rfl, hmade, hlitter⟩
  | cons ph phs ih =>
    rw [plan_performAll_cons]
    simp only [Plan.run, World.answer]
    have hmade' := (t.hold_subset ph hmade).2
    have hlitter' := litter_launch hconfined hmade hfresh hlitter ph
    cases t.settle ph (w.launch programs (t.command ph) t.settings.timeout).1 with
    | error v => exact ⟨rfl, hmade', hlitter'⟩
    | ok r =>
      simp only [Plan.run_bind, Plan.run]
      exact ih (w := (w.launch programs (t.command ph) t.settings.timeout).2) hmade' hfresh hlitter'

/-- Releasing all paths that have left litter brings the files back. -/
theorem files_removeAll (programs : Behaviour) {s : FileTree} {ps : List Path} {w : World}
    (hps : ps ⊆ t.products.toList) (hfresh : ∀ p ∈ t.products.toList, s.Absent w.here p)
    (hlitter : Litter w.here ps s w.files) :
    ((Artifacts.removeAll ps).run programs w).2.files = s := by
  induction ps generalizing w with
  | nil => exact hlitter.eq
  | cons p ps ih =>
    simp only [Artifacts.removeAll, Plan.run_bind, Plan.run_pure]
    have hwithout := hlitter.without (t.siblings_products w.here) hps
      (hfresh p (hps List.mem_cons_self))
    rw [← World.files_remove] at hwithout
    have hhere := w.here_remove p
    exact ih (w := (w.remove p).2) (fun q hq => hps (List.mem_cons_of_mem p hq))
      (hhere ▸ hfresh) (hhere ▸ hwithout)

theorem here_removeAll (programs : Behaviour) (ps : List Path) (w : World) :
    ((Artifacts.removeAll ps).run programs w).2.here = w.here := by
  induction ps generalizing w with
  | nil => rfl
  | cons p ps ih =>
    simp only [Artifacts.removeAll, Plan.run_bind, Plan.run_pure]
    exact (ih (w.remove p).2).trans (w.here_remove p)

/-- A trial leaves the files as they were, whatever its verdict. -/
theorem files_run (hconfined : t.Confined programs) {w : World} (hfresh : t.Fresh w) :
    (t.plan.run programs w).2.files = w.files ∧ (t.plan.run programs w).2.here = w.here := by
  rw [plan_eq_opening, Plan.run_bind, run_opening]
  cases t.look w with
  | error v =>
    have hempty := files_removeAll programs (List.nil_subset _) hfresh litter_refl
    exact ⟨hempty, here_removeAll programs [] w⟩
  | ok answer =>
    have hnone : Artifacts.empty.paths ⊆ t.products.toList := List.nil_subset _
    obtain ⟨hhere, hmade, hlitter⟩ :=
      litter_performAll hconfined t.phases hnone hfresh litter_refl
    simp only [Plan.run_bind, Plan.run]
    rw [← hhere] at hlitter
    constructor
    · exact files_removeAll programs hmade (hhere.symm ▸ hfresh) hlitter
    · exact (here_removeAll programs _ _).trans hhere

/-- Trials one after the other leave the files as they were, whatever their verdicts. -/
theorem files_run_all (programs : Behaviour) (trials : List Trial) (w : World)
    (hconfined : ∀ t ∈ trials, t.Confined programs) (hfresh : ∀ t ∈ trials, t.Fresh w) :
    (trials.foldl (fun w t => (t.plan.run programs w).2) w).files = w.files := by
  induction trials generalizing w with
  | nil => rfl
  | cons t trials ih =>
    obtain ⟨hfiles, hhere⟩ := files_run (hconfined t List.mem_cons_self)
      (hfresh t List.mem_cons_self)
    rw [List.foldl_cons, ih]
    · exact hfiles
    · exact fun t ht => hconfined t (List.mem_cons_of_mem _ ht)
    · intro t ht
      rw [Fresh, hfiles, hhere]
      exact hfresh t (List.mem_cons_of_mem _ ht)

theorem confined_scribe {t : Trial}
    (h : ∀ ph, outputOf (t.command ph).arguments = t.product? ph) : t.Confined scribe := by
  intro ph w l hne
  rw [get?_scribe, h ph] at hne ⊢
  split at hne
  · next hspot =>
    rw [if_pos hspot]
    exact ⟨by simp, Option.bind_eq_some_iff.1 hspot⟩
  · exact absurd rfl hne

/-- A case whose artifacts lie in the current directory. -/
def sample : Trial :=
  ⟨.standard, .ofText ".", ⟨"a", .ofText "a.c", .c⟩, .riscv64⟩

/-- A world with that case and no artifacts. -/
def sampleWorld : World :=
  ⟨FileTree.empty.insert [Text.utf8 "a.c"] (.file [] false), [], none, 0, 1, []⟩

theorem files_run_all_sample :
    (∀ t ∈ [sample, sample], t.Confined scribe) ∧ (∀ t ∈ [sample, sample], t.Fresh sampleWorld) ∧
    ([sample, sample].foldl (fun w t => (t.plan.run scribe w).2) sampleWorld).files =
      sampleWorld.files := by
  have hconfined : ∀ t ∈ [sample, sample], t.Confined scribe := by
    have houtput : ∀ ph, outputOf (sample.command ph).arguments = sample.product? ph := by
      intro ph
      cases ph <;> decide
    simpa using confined_scribe houtput
  have hfresh : ∀ t ∈ [sample, sample], t.Fresh sampleWorld := by
    have hnone : ∀ p ∈ sample.products.toList,
        (sampleWorld.files.entry sampleWorld.here false p).toOption = none := by decide
    have hsample : sample.Fresh sampleWorld := by
      intro p hp l e hentry
      have hp := hnone p hp
      rw [hentry] at hp
      cases hp
    simpa using hsample
  exact ⟨hconfined, hfresh, files_run_all _ _ _ hconfined hfresh⟩

end Trial

end Crosscheck
