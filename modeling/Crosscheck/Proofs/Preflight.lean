import Crosscheck.Proofs.Verdict
import Crosscheck.Session
import Mathlib.Data.List.Forall2

/-!
# Before the first case

A session runs something only once all that it needs is there: the lists of targets and kinds can be
read, the file is of a kind or every corpus can be listed, and every runtime and every tool is
found. What it runs is then fixed by the options and the files.
-/

namespace Crosscheck

theorem bind_eq_ok_iff {ε α β : Type} {x : Except ε α} {f : α → Except ε β} {b : β} :
    (x >>= f) = .ok b ↔ ∃ a, x = .ok a ∧ f a = .ok b := by
  cases x with
  | error e => simp [bind, Except.bind]
  | ok a => simp [bind, Except.bind]

theorem mapError_eq_ok_iff {ε ε' α : Type} {f : ε → ε'} {x : Except ε α} {a : α} :
    x.mapError f = .ok a ↔ x = .ok a := by
  cases x <;> simp [Except.mapError]

/-- A list is mapped to results of its elements in their order. -/
theorem mapM_eq_ok_iff {ε α β : Type} {f : α → Except ε β} {as : List α} {bs : List β} :
    as.mapM f = .ok bs ↔ List.Forall₂ (fun a b => f a = .ok b) as bs := by
  induction as generalizing bs with
  | nil =>
    rw [List.mapM_nil, List.forall₂_nil_left_iff]
    exact ⟨fun h => (Except.ok.inj h).symm, fun h => h ▸ rfl⟩
  | cons a as ih =>
    rw [List.mapM_cons, List.forall₂_cons_left_iff]
    simp only [bind_eq_ok_iff, ih]
    constructor
    · rintro ⟨b, hb, bs', hbs', h⟩
      exact ⟨b, bs', hb, hbs', (Except.ok.inj h).symm⟩
    · rintro ⟨b, bs', hb, hbs', rfl⟩
      exact ⟨b, hb, bs', hbs', rfl⟩

theorem Discovery.checkRuntimes_eq_ok_iff {w : World} {settings : Settings} {kinds : List Kind}
    {u : Unit} : checkRuntimes w settings kinds = .ok u ↔
      ∀ kind ∈ kinds, w.isFile (runtimePath settings kind) = true := by
  unfold checkRuntimes
  cases hmissing : (kinds.map (runtimePath settings)).find? (fun p => !w.isFile p) with
  | none => simpa [List.find?_eq_none] using hmissing
  | some p =>
    have hfound := List.find?_some hmissing
    obtain ⟨kind, hkind, rfl⟩ := List.mem_map.1 (List.mem_of_find?_eq_some hmissing)
    refine ⟨fun h => (nomatch h), fun h => ?_⟩
    rw [h kind hkind] at hfound
    cases hfound

theorem Tools.verify_eq_ok_iff {w : World} {settings : Settings} {targets : List Target}
    {kinds : List Kind} {u : Unit} : verify w settings targets kinds = .ok u ↔
      ∀ program ∈ settings.tools.required settings targets kinds,
        ∃ p, Lookup.find? w program = some p := by
  unfold verify
  cases hmissing : (settings.tools.required settings targets kinds).find?
      (fun program => (Lookup.find? w program).isNone) with
  | none =>
    have hall := List.find?_eq_none.1 hmissing
    refine ⟨fun _ program hprogram => ?_, fun _ => rfl⟩
    have hsome := hall program hprogram
    rwa [Bool.not_eq_true, Option.isNone_eq_false_iff, Option.isSome_iff_exists] at hsome
  | some program =>
    have hfound := List.find?_some hmissing
    refine ⟨fun h => (nomatch h), fun h => ?_⟩
    obtain ⟨p, hp⟩ := h program (List.mem_of_find?_eq_some hmissing)
    rw [hp] at hfound
    cases hfound

namespace Session

/-- The runtimes and the tools that a run over some kinds and targets needs. -/
structure Equipped (w : World) (settings : Settings) (kinds : List Kind) (targets : List Target) :
    Prop where
  runtimes : ∀ kind ∈ kinds, w.isFile (Discovery.runtimePath settings kind) = true
  tools : ∀ program ∈ settings.tools.required settings targets kinds,
    ∃ p, Lookup.find? w program = some p

/-- The cases in the corpus of a kind. -/
def Lists (w : World) (settings : Settings) (kind : Kind) (group : Kind × List Case) : Prop :=
  group.1 = kind ∧
    Discovery.cases w (Discovery.corpusPath settings kind) kind = .ok group.2

/-- What the options select, if nothing that it needs is missing. -/
inductive Selects (o : Options) (w : World) (settings : Settings) :
    Selection → List Target → Prop
  | corpora {targets : List Target} {kinds : List Kind} {groups : List (Kind × List Case)}
      (htargets : Target.vocabulary.parseList o.target = .ok targets)
      (hfile : o.file = none)
      (hkinds : Kind.vocabulary.parseList o.kind = .ok kinds)
      (hequipped : Equipped w settings kinds targets)
      (hgroups : List.Forall₂ (Lists w settings) kinds groups) :
      Selects o w settings (.corpora groups) targets
  | single {targets : List Target} {file : Path} {kind : Kind}
      (htargets : Target.vocabulary.parseList o.target = .ok targets)
      (hfile : o.file = some file)
      (hkind : Kind.ofPath? file = some kind)
      (hequipped : Equipped w settings [kind] targets) :
      Selects o w settings
        (.single (.ofPath (Discovery.singleSource w settings kind file) kind)) targets

variable {o : Options} {w : World} {settings : Settings} {selection : Selection}
  {targets : List Target}

theorem discover_eq_ok_iff {kinds : List Kind} : discover w settings kinds = .ok selection ↔
    ∃ groups, List.Forall₂ (Lists w settings) kinds groups ∧ selection = .corpora groups := by
  unfold discover
  rw [bind_eq_ok_iff]
  simp only [mapM_eq_ok_iff]
  have hlists (kind : Kind) (group : Kind × List Case) :
      (do return (kind, ← Discovery.cases w (Discovery.corpusPath settings kind) kind) :
        Except Error (Kind × List Case)) = .ok group ↔ Lists w settings kind group := by
    rw [bind_eq_ok_iff]
    constructor
    · rintro ⟨cases, hcases, h⟩
      cases h
      exact ⟨rfl, hcases⟩
    · rintro ⟨rfl, hcases⟩
      exact ⟨group.2, hcases, rfl⟩
  simp only [hlists]
  constructor
  · rintro ⟨groups, hgroups, h⟩
    cases h
    exact ⟨groups, hgroups, rfl⟩
  · rintro ⟨groups, hgroups, rfl⟩
    exact ⟨groups, hgroups, rfl⟩

theorem checkCorpora_eq_ok_iff {kinds : List Kind} :
    checkCorpora w settings kinds targets = .ok selection ↔
      Equipped w settings kinds targets ∧
        ∃ groups, List.Forall₂ (Lists w settings) kinds groups ∧ selection = .corpora groups := by
  simp only [checkCorpora, bind_eq_ok_iff, Discovery.checkRuntimes_eq_ok_iff, discover_eq_ok_iff,
    Tools.verify_eq_ok_iff]
  constructor
  · rintro ⟨-, hruntimes, selected, ⟨groups, hgroups, rfl⟩, -, htools, h⟩
    cases h
    exact ⟨⟨hruntimes, htools⟩, groups, hgroups, rfl⟩
  · rintro ⟨⟨hruntimes, htools⟩, groups, hgroups, rfl⟩
    exact ⟨(), hruntimes, _, ⟨groups, hgroups, rfl⟩, (), htools, rfl⟩

theorem checkSingle_eq_ok_iff {file : Path} :
    checkSingle w settings file targets = .ok selection ↔
      ∃ kind, Kind.ofPath? file = some kind ∧ Equipped w settings [kind] targets ∧
        selection = .single (.ofPath (Discovery.singleSource w settings kind file) kind) := by
  simp only [checkSingle, bind_eq_ok_iff, Discovery.checkRuntimes_eq_ok_iff,
    Tools.verify_eq_ok_iff, Discovery.single]
  cases hkind : Kind.ofPath? file with
  | none => simp
  | some kind =>
    constructor
    · rintro ⟨test, htest, -, hruntimes, -, htools, h⟩
      cases htest
      cases h
      exact ⟨kind, rfl, ⟨hruntimes, htools⟩, rfl⟩
    · rintro ⟨kind', hkind', ⟨hruntimes, htools⟩, rfl⟩
      cases hkind'
      exact ⟨_, rfl, (), hruntimes, (), htools, rfl⟩

/-- A session goes on to its first case exactly if the options select something. -/
theorem select_eq_ok_iff : select o w settings = .ok (selection, targets) ↔
    Selects o w settings selection targets := by
  simp only [select, bind_eq_ok_iff, mapError_eq_ok_iff]
  constructor
  · rintro ⟨parsed, htargets, h⟩
    cases hfile : o.file with
    | none =>
      simp only [hfile, bind_eq_ok_iff, mapError_eq_ok_iff, checkCorpora_eq_ok_iff] at h
      obtain ⟨kinds, hkinds, selected, ⟨hequipped, groups, hgroups, rfl⟩, h⟩ := h
      cases h
      exact .corpora htargets hfile hkinds hequipped hgroups
    | some file =>
      simp only [hfile, bind_eq_ok_iff, mapError_eq_ok_iff, checkSingle_eq_ok_iff] at h
      obtain ⟨selected, ⟨kind, hkind, hequipped, rfl⟩, h⟩ := h
      cases h
      exact .single htargets hfile hkind hequipped
  · intro h
    cases h with
    | corpora htargets hfile hkinds hequipped hgroups =>
      refine ⟨_, htargets, ?_⟩
      simp only [hfile, bind_eq_ok_iff, mapError_eq_ok_iff, checkCorpora_eq_ok_iff]
      exact ⟨_, hkinds, _, ⟨hequipped, _, hgroups, rfl⟩, rfl⟩
    | single htargets hfile hkind hequipped =>
      refine ⟨_, htargets, ?_⟩
      simp only [hfile, bind_eq_ok_iff, mapError_eq_ok_iff, checkSingle_eq_ok_iff]
      exact ⟨_, ⟨_, hkind, hequipped, rfl⟩, rfl⟩

end Session

end Crosscheck
