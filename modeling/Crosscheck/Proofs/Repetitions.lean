import Crosscheck.Proofs.Legs

/-!
# How often a case is executed

A list may name a kind or a target several times, by one spelling or by others, and nothing that
comes after takes the repetitions out. So a case is executed on a target as often as its kind and
that target are named together: the files of a directory have different names, and each of them is
found once. What is named once is executed once, and then it has one count and one record at most.
-/

namespace Crosscheck

namespace FileTree

theorem nodup_children (t : FileTree) (l : Location) : ((t.children l).map Prod.fst).Nodup := by
  have hplace {p : Location × Entry} {child : Bytes × Entry}
      (h : (p.1.getLast?.bind fun name =>
        if p.1.dropLast = l then some (name, p.2) else none) = some child) :
      p.1 = l ++ [child.1] := by
    obtain ⟨name, hlast, hname⟩ := Option.bind_eq_some_iff.1 h
    split at hname
    · next hdir =>
      obtain rfl := Option.some.inj hname
      rw [← hdir]
      exact (List.dropLast_append_getLast? name hlast).symm
    · cases hname
  have hchildren : t.children l = t.entries.filterMap fun p => p.1.getLast?.bind fun name =>
      if p.1.dropLast = l then some (name, p.2) else none := by
    refine List.filterMap_congr fun p _ => ?_
    cases p.1.getLast? <;> rfl
  -- the entries are in strict order of their locations, and a location is made from the name
  rw [List.Nodup, List.pairwise_map, hchildren, List.pairwise_filterMap]
  refine t.sorted.imp fun {p q} hlt child hchild child' hchild' heq => ?_
  rw [hplace hchild, hplace hchild', heq] at hlt
  exact List.lt_irrefl _ hlt

theorem nodup_of_list {t : FileTree} {here : Location} {p : Path} {names : List Bytes}
    (h : t.list here p = .ok names) : names.Nodup := by
  unfold list at h
  split at h
  · next l _ =>
    obtain rfl := Except.ok.inj h
    exact t.nodup_children l
  · cases h
  · cases h

end FileTree

theorem Path.join_injective (dir : Path) {name name' : Bytes} (hname : slash ∉ name)
    (hname' : slash ∉ name') (h : dir.join ⟨name⟩ = dir.join ⟨name'⟩) : name = name' := by
  have hrelative {name : Bytes} (hname : slash ∉ name) : (⟨name⟩ : Path).isAbsolute = false := by
    rw [isAbsolute, decide_eq_false_iff_not]
    exact fun hhead => hname (List.mem_of_head? hhead)
  simp only [join, hrelative hname, hrelative hname', Bool.false_eq_true, if_false] at h
  split at h
  · exact List.append_cancel_left (congrArg bytes h)
  · have hcons := List.append_cancel_left (congrArg bytes h)
    exact (List.cons.inj hcons).2

namespace Vocabulary

variable {α : Type} [DecidableEq α] (v : Vocabulary α)

/-- How often a list names a value. -/
def mentions (s : String) (a : α) : ℕ :=
  if Text.sameLetters s "all" then v.all.count a
  else (listPieces s).countP fun piece => v.parse piece = .ok a

/-- A list is read with all its repetitions. -/
theorem count_of_parseList {v : Vocabulary α} {s : String} {as : List α}
    (h : v.parseList s = .ok as) (a : α) : as.count a = v.mentions s a := by
  unfold parseList at h
  unfold mentions
  split at h
  · next hall =>
    obtain rfl := Except.ok.inj h
    rw [if_pos hall]
  · next hall =>
    rw [if_neg hall]
    -- by induction on the pieces, each of which stands for one value of the list
    have hpieces := mapM_eq_ok_iff.1 h
    generalize listPieces s = pieces at hpieces
    clear h
    induction hpieces with
    | nil => rfl
    | @cons piece b pieces bs hparse _ ih =>
      rw [List.count_cons, List.countP_cons, ih, hparse]
      simp [beq_iff_eq]

end Vocabulary

/-- The cases of a selection, kind by kind. -/
def Selection.cases (s : Selection) : List Case := s.groups.flatMap Prod.snd

namespace Session

section found

variable {w : World} {settings : Settings}

/-- Whether the entries of the corpus directories have names that entries can have. -/
def WellListed (w : World) (settings : Settings) : Prop :=
  ∀ kind names, w.list (Discovery.corpusPath settings kind) = .ok names →
    ∀ name ∈ names, IsName name

theorem nodup_caseList (h : WellListed w settings) (kind : Kind) :
    (caseList w settings kind).Nodup := by
  unfold caseList
  cases hcases : Discovery.cases w (Discovery.corpusPath settings kind) kind with
  | error e => exact List.nodup_nil
  | ok cs =>
    obtain ⟨names, hlist, rfl⟩ := Discovery.exists_list_of_cases hcases
    have hnames : names.Nodup := FileTree.nodup_of_list hlist
    have hpaths : (names.map fun name =>
        (Discovery.corpusPath settings kind).join ⟨name⟩).Nodup := by
      refine hnames.map_on fun name hname name' hname' hjoin => ?_
      exact Path.join_injective _ (h kind names hlist name hname).1
        (h kind names hlist name' hname').1 hjoin
    -- the choice of sources and their sorting repeat nothing
    have hsources : (Discovery.sources w (Discovery.corpusPath settings kind) kind names).Nodup :=
      (List.mergeSort_perm _ _).nodup_iff.2 (hpaths.filter _)
    exact hsources.map fun p q hpq => congrArg Case.source hpq

theorem count_flatMap_caseList (hwell : WellListed w settings) (kinds : List Kind) {c : Case}
    (hc : c ∈ caseList w settings c.kind) :
    (kinds.flatMap (caseList w settings)).count c = kinds.count c.kind := by
  induction kinds with
  | nil => rfl
  | cons kind kinds ih =>
    rw [List.flatMap_cons, List.count_append, ih, List.count_cons, Nat.add_comm]
    by_cases hkind : kind = c.kind
    · have hone : (caseList w settings kind).count c = 1 := by
        rw [hkind]
        exact List.count_eq_one_of_mem (nodup_caseList hwell c.kind) hc
      rw [hone, if_pos (beq_iff_eq.2 hkind)]
    · have hnone : (caseList w settings kind).count c = 0 :=
        List.count_eq_zero.2 fun hmem => hkind (kind_of_mem_caseList hmem).symm
      rw [hnone, if_neg (mt beq_iff_eq.1 hkind)]

/-- A case that is found comes once for each mention of its kind. -/
theorem count_cases_corpora {kinds : List Kind} {groups : List (Kind × List Case)}
    (hwell : WellListed w settings) (hgroups : List.Forall₂ (Lists w settings) kinds groups)
    (c : Case) : (Selection.corpora groups).cases.count c =
      if c ∈ (Selection.corpora groups).cases then kinds.count c.kind else 0 := by
  have hcases : (Selection.corpora groups).cases = kinds.flatMap (caseList w settings) := by
    rw [Selection.cases, Selection.groups, groups_eq hgroups, List.flatMap_map]
  rw [hcases]
  split
  · next hmem =>
    obtain ⟨kind, -, hc⟩ := List.mem_flatMap.1 hmem
    obtain rfl := kind_of_mem_caseList hc
    exact count_flatMap_caseList hwell kinds hc
  · next hmem => exact List.count_eq_zero.2 hmem

end found

section executed

/-- A case is paired with a target once for each time it comes and each mention of the target. -/
theorem count_pairs (s : Selection) (targets : List Target) (c : Case) (target : Target) :
    (pairs (s.suites targets)).count (c, target) = s.cases.count c * targets.count target := by
  have hcase (cases : List Case) (t : Target) :
      (cases.map fun c => (c, t)).count (c, target) = if t = target then cases.count c else 0 := by
    induction cases with
    | nil => simp
    | cons c' cases ih =>
      rw [List.map_cons, List.count_cons, List.count_cons, ih]
      by_cases ht : t = target
      · simp [ht]
      · simp [ht]
  have hgroup (cases : List Case) :
      (targets.flatMap fun t => cases.map fun c => (c, t)).count (c, target) =
        cases.count c * targets.count target := by
    induction targets with
    | nil => simp
    | cons t targets ih =>
      rw [List.flatMap_cons, List.count_append, ih, hcase, List.count_cons]
      by_cases ht : t = target
      · rw [if_pos ht, if_pos (beq_iff_eq.2 ht), Nat.mul_add, Nat.mul_one, Nat.add_comm]
      · rw [if_neg ht, if_neg (mt beq_iff_eq.1 ht), Nat.zero_add, Nat.add_zero]
  have hpairs : pairs (s.suites targets) = s.groups.flatMap fun group =>
      targets.flatMap fun t => group.2.map fun c => (c, t) := by
    rw [pairs, Selection.suites, List.flatMap_assoc]
    refine List.flatMap_congr fun group _ => ?_
    rw [List.flatMap_map]
  rw [hpairs, Selection.cases]
  induction s.groups with
  | nil => simp
  | cons group groups ih =>
    rw [List.flatMap_cons, List.flatMap_cons, List.count_append, List.count_append, ih, hgroup,
      Nat.add_mul]

variable {programs : Behaviour} {turns : ℕ → List Turn} {o : Options} {w : World}
  {selection : Selection} {targets : List Target} {p : Progress}

/-- How often the options ask for the cases of a kind. A file is asked for once. -/
def kindMentions (o : Options) (kind : Kind) : ℕ :=
  match o.file with
  | none => Kind.vocabulary.mentions o.kind kind
  | some _ => 1

theorem count_cases {settings : Settings} (hselects : Selects o w settings selection targets)
    (hwell : WellListed w settings) (c : Case) : selection.cases.count c =
      if c ∈ selection.cases then kindMentions o c.kind else 0 := by
  cases hselects with
  | corpora htargets hfile hkinds hequipped hgroups =>
    rw [count_cases_corpora hwell hgroups, kindMentions, hfile,
      Vocabulary.count_of_parseList hkinds]
  | single htargets hfile hkind hequipped =>
    rw [kindMentions, hfile]
    exact (List.nodup_singleton _).count

theorem count_targets {settings : Settings} (hselects : Selects o w settings selection targets)
    (target : Target) : targets.count target = Target.vocabulary.mentions o.target target := by
  cases hselects with
  | corpora htargets hfile hkinds hequipped hgroups => exact Vocabulary.count_of_parseList htargets _
  | single htargets hfile hkind hequipped => exact Vocabulary.count_of_parseList htargets _

/-- How often the options ask for a case on a target. -/
def pairMentions (o : Options) (selection : Selection) (c : Case) (target : Target) : ℕ :=
  if c ∈ selection.cases then kindMentions o c.kind * Target.vocabulary.mentions o.target target
  else 0

theorem Ends.count_ended (h : Ends programs turns o w selection targets p)
    (hwell : WellListed w (o.settings (.detect w))) (c : Case) (target : Target) :
    (p.ended.map fun r => (r.test, r.target)).count (c, target) =
      pairMentions o selection c target := by
  rw [h.balanced.executed.count_eq, count_pairs, count_cases h.selects hwell,
    count_targets h.selects, pairMentions]
  split
  · rfl
  · rw [Nat.zero_mul]

theorem pairMentions_eq_one {settings : Settings}
    (hselects : Selects o w settings selection targets) (hwell : WellListed w settings)
    (hkinds : ∀ kind, kindMentions o kind ≤ 1)
    (htargets : ∀ target, Target.vocabulary.mentions o.target target ≤ 1) {c : Case}
    (hc : c ∈ selection.cases) {target : Target} (htarget : target ∈ targets) :
    pairMentions o selection c target = 1 := by
  have hcase : kindMentions o c.kind = 1 := by
    have hcount := count_cases hselects hwell c
    rw [if_pos hc] at hcount
    have hpos : 0 < selection.cases.count c := List.count_pos_iff.2 hc
    have hle := hkinds c.kind
    omega
  have hone : Target.vocabulary.mentions o.target target = 1 := by
    have hcount := count_targets hselects target
    have hpos : 0 < targets.count target := List.count_pos_iff.2 htarget
    have hle := htargets target
    omega
  rw [pairMentions, if_pos hc, hcase, hone]

/-- The failures of a run are recorded one by one, for results that are those of the executed
cases. -/
theorem Ends.exists_results (h : Ends programs turns o w selection targets p) :
    ∃ results : List Trial.Result, results.Perm p.ended ∧
      p.ledger.failures = recordsOf results ∧
      total Tally.passed p.tallies = results.countP (fun r => r.outcome.isPass) ∧
      total Tally.skipped p.tallies = results.countP (fun r => r.outcome.isSkip) ∧
      total Tally.failedCount p.tallies = results.countP fun r => r.outcome.isFailure := by
  obtain ⟨legs, -, hpasses⟩ := h.completes.exists_legs
  have htotal {count : Tally → ℕ} {keep : Trial.Result → Bool}
      (hcount : ∀ leg : Leg, count leg.tally = leg.results.countP keep) :
      total count p.tallies = (legs.flatMap Leg.results).countP keep := by
    rw [hpasses.tallies, List.nil_append, total_eq_sum, List.map_map, List.countP_flatMap]
    exact congrArg List.sum (List.map_congr_left fun leg _ => hcount leg)
  refine ⟨legs.flatMap Leg.results, ?_, ?_, htotal fun leg => ?_, htotal fun leg => ?_,
    htotal fun leg => ?_⟩
  · rw [hpasses.ended, List.nil_append]
    exact List.Perm.flatMap_left _ fun leg _ => leg.once.symm
  · rw [hpasses.ledger, recordsOf, List.filterMap_flatMap]
    rfl
  · exact (List.countP_eq_length_filter ..).symm
  · exact (List.countP_eq_length_filter ..).symm
  · rw [Tally.failedCount, List.countP_eq_length_filter]
    exact List.length_map ..

theorem length_recordsOf_le (results : List Trial.Result) (c : Case) (target : Target) :
    (recordsOf (results.filter fun r => (r.test, r.target) = (c, target))).length ≤
      (results.map fun r => (r.test, r.target)).count (c, target) := by
  have hkept : (results.map fun r => (r.test, r.target)).count (c, target) =
      (results.filter fun r => (r.test, r.target) = (c, target)).length := by
    rw [List.count, List.countP_map, List.countP_eq_length_filter]
    refine congrArg List.length (List.filter_congr fun r _ => ?_)
    rw [Function.comp_apply, beq_eq_decide]
  rw [hkept]
  exact List.length_filterMap_le ..

/-- A session that is not ended early executes a case on a target exactly as often as its options
name the two together. Each execution is counted once and recorded at most once, and each mention of
a target that the host cannot run is warned of. Where nothing is named twice, every case is executed
on every target once. -/
theorem executed_as_named (h : Ends programs turns o w selection targets p)
    (hwell : WellListed w (o.settings (.detect w))) :
    ∃ results : List Trial.Result, results.Perm p.ended ∧
      p.ledger.failures = recordsOf results ∧
      total Tally.passed p.tallies = results.countP (fun r => r.outcome.isPass) ∧
      total Tally.skipped p.tallies = results.countP (fun r => r.outcome.isSkip) ∧
      total Tally.failedCount p.tallies = results.countP (fun r => r.outcome.isFailure) ∧
      (∀ c target,
        (results.map fun r => (r.test, r.target)).count (c, target) =
          pairMentions o selection c target ∧
        (recordsOf (results.filter fun r => (r.test, r.target) = (c, target))).length ≤
          pairMentions o selection c target) ∧
      (runOptions programs turns o w).1.stderr =
        String.join (List.replicate (Target.vocabulary.mentions o.target .aarch64)
          (warning .aarch64)) ++ (conclude selection p).stderr ∧
      ((∀ kind, kindMentions o kind ≤ 1) →
        (∀ target, Target.vocabulary.mentions o.target target ≤ 1) →
          ∀ c ∈ selection.cases, ∀ target ∈ targets, pairMentions o selection c target = 1) := by
  obtain ⟨results, hperm, hledger, hpassed, hskipped, hfailed⟩ := h.exists_results
  have hcount (c : Case) (target : Target) :
      (results.map fun r => (r.test, r.target)).count (c, target) =
        pairMentions o selection c target := by
    rw [(hperm.map _).count_eq, h.count_ended hwell]
  refine ⟨results, hperm, hledger, hpassed, hskipped, hfailed, fun c target => ⟨hcount c target, ?_⟩,
    ?_, fun hkinds htargets c hc target htarget =>
      pairMentions_eq_one h.selects hwell hkinds htargets hc htarget⟩
  · rw [← hcount]
    exact length_recordsOf_le results c target
  · rw [h.runOptions_eq, warnings_eq_replicate, count_targets h.selects]

theorem executed_as_named_stocked :
    let o : Options := { Options.standard with target := "RV64, aarch64", kind := "c" }
    ∃ selection targets p, Ends scribe (fun _ => []) o stockedWorld selection targets p ∧
      WellListed stockedWorld (o.settings (.detect stockedWorld)) ∧
      ∃ results : List Trial.Result, results.Perm p.ended ∧
        ∀ c ∈ selection.cases, ∀ target ∈ targets,
          (results.map fun r => (r.test, r.target)).count (c, target) = 1 := by
  intro o
  have hexit : (runOptions scribe (fun _ => []) o stockedWorld).1.exit = 0 := by decide +kernel
  obtain ⟨selection, targets, p, h⟩ := exists_ends_of_exit hexit
  have hwell : WellListed stockedWorld (o.settings (.detect stockedWorld)) := by
    have hnames : ∀ kind ∈ Kind.all, ∀ names ∈ (stockedWorld.list (Discovery.corpusPath
        (o.settings (.detect stockedWorld)) kind)).toOption, ∀ name ∈ names,
          slash ∉ name ∧ name ≠ [] ∧ name ≠ [dot] ∧ name ≠ [dot, dot] := by decide +kernel
    intro kind names hlist
    exact hnames kind (Kind.mem_all kind) names (by rw [hlist]; rfl)
  obtain ⟨results, hperm, -, -, -, -, hcount, -, hone⟩ := executed_as_named h hwell
  have hkinds : ∀ kind, kindMentions o kind ≤ 1 := by
    intro kind
    cases kind <;> decide +kernel
  have htargets : ∀ target, Target.vocabulary.mentions o.target target ≤ 1 := by
    intro target
    cases target <;> decide +kernel
  refine ⟨selection, targets, p, h, hwell, results, hperm, fun c hc target htarget => ?_⟩
  rw [(hcount c target).1, hone hkinds htargets c hc target htarget]

/-- A target that is named by both of its spellings has the case executed twice. -/
theorem executed_twice :
    let o : Options :=
      { Options.standard with target := "aarch64,arm64", file := some (.ofText "a.c") }
    let c : Case := .ofPath (.ofText "a.c") .c
    ∃ selection targets p, Ends scribe (fun _ => []) o equippedWorld selection targets p ∧
      c ∈ selection.cases ∧ .aarch64 ∈ targets ∧
      (p.ended.map fun r => (r.test, r.target)).count (c, .aarch64) = 2 ∧
      total Tally.passed p.tallies + total Tally.failedCount p.tallies +
        total Tally.skipped p.tallies = 2 ∧
      ∃ more, (runOptions scribe (fun _ => []) o equippedWorld).1.stderr =
        warning .aarch64 ++ warning .aarch64 ++ more := by
  intro o c
  have hselect : select o equippedWorld (o.settings (.detect equippedWorld)) =
      .ok (.single c, [.aarch64, .aarch64]) := by decide +kernel
  have hexit : (runOptions scribe (fun _ => []) o equippedWorld).1.exit = 0 := by decide +kernel
  obtain ⟨selection, targets, p, h⟩ := exists_ends_of_exit hexit
  obtain ⟨rfl, rfl⟩ : selection = .single c ∧ targets = [.aarch64, .aarch64] :=
    Prod.ext_iff.1 (Except.ok.inj ((select_eq_ok_iff.2 h.selects).symm.trans hselect))
  have hexecuted : (p.ended.map fun r => (r.test, r.target)).count (c, .aarch64) = 2 := by
    rw [h.balanced.executed.count_eq, count_pairs]
    rfl
  refine ⟨_, _, p, h, List.mem_cons_self, List.mem_cons_self, hexecuted, h.balanced.counted,
    (conclude (.single c) p).stderr, ?_⟩
  have htwo : warnings [.aarch64, .aarch64] = warning .aarch64 ++ warning .aarch64 := by
    rw [warnings_eq_replicate]
    simp [List.replicate]
  rw [h.runOptions_eq, htwo]

end executed

end Session

end Crosscheck
