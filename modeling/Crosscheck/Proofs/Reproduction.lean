import Crosscheck.Proofs.Divergence
import Crosscheck.Proofs.Inventory
import Crosscheck.Proofs.Parallel
import Crosscheck.Proofs.Requirements

/-!
# A case run alone

A case of a corpus can be run alone, by the name of its file. The file that is found under that name
is the case, down to the path of its source, so the run has a trial of its own that is the trial of
the corpus run: it makes the same requests until the world gives another answer. If the cases are
separate, the other cases of the corpus make no such difference.
-/

namespace Crosscheck

/-- In what circumstances a suite is run. -/
structure Circumstances where
  programs : Behaviour
  turns : List Turn
  ledger : Ledger
  world : World

/-- Alone, one of several separate trials has the same conversation and comes to the same wherever
there is the same at the places of its artifacts. -/
theorem Trial.timed_of_midway {programs : Behaviour} {trials : List Trial} {t : Trial}
    {start w w' : World} (hsep : Separable programs trials start) (ht : t ∈ trials)
    (hw : Midway trials start w) (hw' : Midway trials start w')
    (hview : ∀ l, t.Owns start l → w.files.get? l = w'.files.get? l) :
    List.Forall₂ Exchange.Same (t.timed.exchanges (World.answer programs) w)
        (t.timed.exchanges (World.answer programs) w') ∧
      told Result.timeless (t.timed.run programs w).1 =
        told Result.timeless (t.timed.run programs w').1 := by
  have hsane (r : Request) (v : World) (hr : t.Asks r) (hv : Midway trials start v) :
      Midway trials start (v.answer programs r).2 := hv.answer hsep ht hr
  have hanswer (r : Request) (v v' : World) (hr : t.Asks r) (hv : Midway trials start v)
      (hv' : Midway trials start v')
      (hview : ∀ l, t.Owns start l → v.files.get? l = v'.files.get? l) :=
    answer_own hsep ht hv hv' hview hr
  exact ⟨alike_timed.exchanges hsane hanswer hw hw' hview,
    (alike_timed.run hsane hanswer hw hw' hview).1⟩

namespace Suite

variable {settings : Settings} {workDir : Path} {kind : Kind} {target : Target}
  {cases cases' : List Case} {c : Case} {x x' : Circumstances} {es es' : List Exchange}
  {o o' : Outcome} {tally : Tally}

def runUnder (x : Circumstances) (settings : Settings) (workDir : Path) (kind : Kind)
    (target : Target) (cases : List Case) : SuiteRun × World :=
  runIn x.programs x.turns settings workDir kind target cases x.ledger x.world

/-- In a suite that came to its end, a case had the conversation `es` and came to the outcome
`o`. -/
def Performed (x : Circumstances) (settings : Settings) (workDir : Path) (kind : Kind)
    (target : Target) (cases : List Case) (c : Case) (es : List Exchange) (o : Outcome) : Prop :=
  ∃ (results : List Trial.Result) (h : History) (i : ℕ) (r : Trial.Result),
    CarriedOut x.programs ((trials settings workDir target cases).map Trial.timed) x.world h results
      (runUnder x settings workDir kind target cases).2 ∧
    (runUnder x settings workDir kind target cases).1.ended.Perm results ∧
    cases[i]? = some c ∧ results[i]? = some r ∧ r.outcome = o ∧ h.part i = es

theorem Performed.exists_result (h : Performed x settings workDir kind target cases c es o) :
    ∃ (results : List Trial.Result) (h : History) (i : ℕ) (r : Trial.Result),
      CarriedOut x.programs ((trials settings workDir target cases).map Trial.timed) x.world h
        results (runUnder x settings workDir kind target cases).2 ∧
      ((trials settings workDir target cases).map Trial.timed)[i]? =
        some (⟨settings, workDir, c, target⟩ : Trial).timed ∧
      results[i]? = some r ∧ h.part i = es ∧ r.timeless = (c, target, o) := by
  obtain ⟨results, history, i, r, hcarried, -, hc, hr, rfl, rfl⟩ := h
  have ht : (trials settings workDir target cases)[i]? = some ⟨settings, workDir, c, target⟩ :=
    getElem_trials_of_getElem hc
  have hexecuted := executed_of_carriedOut hcarried ht hr
  refine ⟨results, history, i, r, hcarried, timed_getElem ht, hr, rfl, ?_⟩
  rw [Trial.Result.timeless, hexecuted.test, hexecuted.target]

/-- Wherever a case is performed, it makes the same requests and comes to the same outcome, unless
it is answered otherwise. -/
theorem Performed.same_or_parted (h : Performed x settings workDir kind target cases c es o)
    (h' : Performed x' settings workDir kind target cases' c es' o') :
    List.Forall₂ Exchange.Same es es' ∧ o = o' ∨ Parted es es' := by
  obtain ⟨_, _, i, r, hcarried, hjob, hr, rfl, htimeless⟩ := h.exists_result
  obtain ⟨_, _, i', r', hcarried', hjob', hr', rfl, htimeless'⟩ := h'.exists_result
  refine (Trial.alike_timed.same_or_parted (hcarried.once i _ r hjob hr)
    (hcarried'.once i' _ r' hjob' hr')).imp_left fun ⟨hsame, hrelated⟩ => ⟨hsame, ?_⟩
  have heq : r.timeless = r'.timeless := Option.some.inj hrelated
  rw [htimeless, htimeless'] at heq
  exact congrArg (fun r => r.2.2) heq

/-- Among cases that are separate from it, a case is performed as it would be alone. -/
theorem Performed.of_separation (h : Performed x settings workDir kind target cases c es o)
    (sep : Separation x.programs
      ((trials settings workDir target cases).map Trial.timed).length) (hsane : sep.sane x.world)
    (hasks : ∀ i t, (trials settings workDir target cases)[i]? = some t →
      ∀ r, t.Asks r → sep.asks i r) :
    let t : Trial := ⟨settings, workDir, c, target⟩
    List.Forall₂ Exchange.Same (t.timed.exchanges (World.answer x.programs) x.world) es ∧
      told Trial.Result.timeless (t.timed.run x.programs x.world).1 = some (c, target, o) := by
  obtain ⟨_, _, i, r, hcarried, hjob, hr, rfl, htimeless⟩ := h.exists_result
  have hjobs (i : ℕ) (job : Plan (Except Fatal Trial.Result))
      (hjob : ((trials settings workDir target cases).map Trial.timed)[i]? = some job) :
      job.Alike (sep.asks i)
        (fun x y => told Trial.Result.timeless x = told Trial.Result.timeless y) job := by
    rw [List.getElem?_map, Option.map_eq_some_iff] at hjob
    obtain ⟨t, ht, rfl⟩ := hjob
    exact Trial.alike_timed.mono (hasks i t ht)
  rw [← htimeless]
  exact Separation.exchanges_of_carriedOut hsane hjobs hcarried hjob hr

theorem exists_performed
    (hverdict : (runUnder x settings workDir kind target cases).1.verdict = .ok tally)
    (hc : c ∈ cases) : ∃ es o, Performed x settings workDir kind target cases c es o := by
  obtain ⟨results, h, hcarried, hended, -⟩ := carriedOut_of_ok hverdict
  obtain ⟨i, hi⟩ := List.getElem?_of_mem hc
  have hlength : i < results.length := by
    rw [hcarried.length, trials, List.length_map, List.length_map]
    exact (List.getElem?_eq_some_iff.1 hi).1
  exact ⟨h.part i, _, results, h, i, results[i], hcarried, hended, hi,
    List.getElem?_eq_getElem hlength, rfl, rfl⟩

/-- A suite of one case comes to its end if the trial does. -/
theorem exists_tally_of_run {r : Trial.Result}
    (h : ((⟨settings, workDir, c, target⟩ : Trial).timed.run x.programs x.world).1 = .ok r) :
    ∃ tally, (runUnder x settings workDir kind target [c]).1.verdict = .ok tally := by
  -- a single trial is worked off in order, however many workers there are
  rw [runUnder, runIn_eq, work_of_sequential (.inr (by simp))]
  generalize hrun : (⟨settings, workDir, c, target⟩ : Trial).timed.run x.programs x.world = ran at h
  obtain ⟨result, w'⟩ := ran
  obtain rfl : result = .ok r := h
  simp only [trials, List.map_cons, List.map_nil, workInOrder, hrun]
  exact ⟨_, rfl⟩

/-- A suite of one case performs it as it goes alone. -/
theorem exists_performed_single
    (h : told Trial.Result.timeless
      ((⟨settings, workDir, c, target⟩ : Trial).timed.run x.programs x.world).1 =
        some (c, target, o)) :
    ∃ tally es, (runUnder x settings workDir kind target [c]).1.verdict = .ok tally ∧
      Performed x settings workDir kind target [c] c es o ∧ List.Forall₂ Exchange.Same
        ((⟨settings, workDir, c, target⟩ : Trial).timed.exchanges (World.answer x.programs) x.world)
        es := by
  obtain ⟨r, hr⟩ := exists_ok_of_told h
  obtain ⟨tally, hverdict⟩ : ∃ tally,
      (runUnder x settings workDir kind target [c]).1.verdict = .ok tally := exists_tally_of_run hr
  obtain ⟨es, o', hperformed⟩ := exists_performed hverdict List.mem_cons_self
  obtain ⟨hes, htold⟩ := hperformed.of_separation (Separation.lone x.programs) trivial
    fun _ _ _ _ _ => trivial
  obtain rfl : o' = o := congrArg (fun r => r.2.2) (Option.some.inj (htold.symm.trans h))
  exact ⟨tally, es, hverdict, hperformed, hes⟩

/-- A case comes to the same in the suite of its corpus and in a suite of its own: if the trials of
the corpus are separate and both suites start with the same at the places of its artifacts. -/
theorem performed_alone (hprograms : x'.programs = x.programs)
    (hnames : (cases.map Case.name).Nodup) (hwell : ∀ c ∈ cases, c.WellNamed) {start : World}
    (hsep : Trial.Separable x.programs (trials settings workDir target cases) start)
    (hw : Trial.Midway (trials settings workDir target cases) start x.world)
    (hw' : Trial.Midway (trials settings workDir target cases) start x'.world)
    (hview : ∀ l, (⟨settings, workDir, c, target⟩ : Trial).Owns start l →
      x.world.files.get? l = x'.world.files.get? l) (hc : c ∈ cases)
    (hverdict : (runUnder x settings workDir kind target cases).1.verdict = .ok tally) :
    ∃ tally' es es' o,
      (runUnder x' settings workDir kind target [c]).1.verdict = .ok tally' ∧
      Performed x settings workDir kind target cases c es o ∧
      Performed x' settings workDir kind target [c] c es' o ∧
      es.filterMap Exchange.launched? = es'.filterMap Exchange.launched? := by
  have hapart : Trial.Apart (trials settings workDir target cases) start :=
    apart_trials hnames hwell
  obtain ⟨es, o, hperformed⟩ := exists_performed hverdict hc
  -- in the corpus, the case goes as it would alone in that world
  obtain ⟨hes, htold⟩ := hperformed.of_separation (Trial.separation hsep hapart _) hw
    fun i t ht r hr => ⟨t, ht, hr⟩
  obtain ⟨hsame, hrun⟩ := Trial.timed_of_midway hsep (List.mem_map_of_mem hc) hw hw' hview
  rw [← hprograms] at hes htold hsame hrun
  obtain ⟨tally', es', hverdict', hperformed', hes'⟩ :=
    exists_performed_single (hrun.symm.trans htold)
  refine ⟨tally', es, es', o, hverdict', hperformed, hperformed', ?_⟩
  rw [← launched_eq_of_same hes, launched_eq_of_same hsame, launched_eq_of_same hes']

end Suite

theorem IsName.components_eq {name : Bytes} (h : IsName name) :
    (⟨name⟩ : Path).components = [.normal name] := by
  have hjoin : (⟨[]⟩ : Path).join ⟨name⟩ = ⟨name⟩ := by
    simp [Path.join, Path.isAbsolute_of_not_mem h.1]
  have hnone : (⟨[]⟩ : Path).components = [] := by decide
  rw [← hjoin, Path.components_name h.1 h.2.1 h.2.2.1 h.2.2.2, hnone, List.nil_append]

namespace Discovery

variable {w : World} {settings : Settings} {kind : Kind} {cs : List Case} {c : Case}
  {file : Path} {name : Bytes}

theorem isPresent_of_isFile {p : Path} (h : w.isFile p = true) : w.isPresent p = true := by
  unfold World.isFile FileTree.isFile at h
  unfold World.isPresent FileTree.isPresent
  split at h
  · next hentry => rw [hentry]
  · cases h

/-- Where the source of a single file is. -/
theorem singleSource_eq : singleSource w settings kind file =
    if file.components.length = 1 ∧ w.isPresent file = false ∧
      w.isPresent ((corpusPath settings kind).join file) = true
    then (corpusPath settings kind).join file else file := by
  unfold singleSource
  simp only [Bool.and_eq_true, Bool.not_eq_true', beq_iff_eq, and_comm, and_assoc]

theorem single_of_mem_cases (hcases : cases w (corpusPath settings kind) kind = .ok cs)
    (hnames : ∀ names, w.list (corpusPath settings kind) = .ok names → ∀ name ∈ names, IsName name)
    (hc : c ∈ cs) (hname : c.source.fileName? = some name)
    (habsent : w.isPresent ⟨name⟩ = false) : single w settings ⟨name⟩ = .ok c := by
  obtain ⟨names, hlist, rfl⟩ := exists_list_of_cases hcases
  obtain ⟨p, hp, rfl⟩ := List.mem_map.1 hc
  obtain ⟨⟨name', hname', rfl⟩, hfile, hkind⟩ := mem_sources_iff.1 hp
  have hisName := hnames names hlist name' hname'
  have hjoined := hisName.fileName_join (corpusPath settings kind)
  obtain rfl : name' = name := Option.some.inj (hjoined.symm.trans hname)
  have hone : (⟨name'⟩ : Path).components.length = 1 := by rw [hisName.components_eq]; rfl
  have hbare : (⟨name'⟩ : Path).fileName? = some name' := by
    rw [Path.fileName?, hisName.components_eq]
    rfl
  have hsource : singleSource w settings kind ⟨name'⟩ =
      (corpusPath settings kind).join ⟨name'⟩ := by
    rw [singleSource_eq, if_pos ⟨hone, habsent, isPresent_of_isFile hfile⟩]
  rw [single, Kind.ofPath_congr (hbare.trans hjoined.symm), hkind]
  exact congrArg (fun p => Except.ok (Case.ofPath p kind)) hsource

theorem single_eq_ok_iff : single w settings file = .ok c ↔
    ∃ kind, Kind.ofPath? file = some kind ∧
      c = .ofPath (singleSource w settings kind file) kind := by
  unfold single
  cases Kind.ofPath? file with
  | none => simp
  | some kind => simp [eq_comm]

theorem fileName_singleSource (h : file.fileName? = some name) :
    (singleSource w settings kind file).fileName? = some name := by
  rw [singleSource_eq]
  split
  -- a single component that is joined to a path is still the last one
  · next hchosen => exact Path.fileName_join hchosen.1 h
  · exact h

theorem exists_extended_of_single (h : single w settings file = .ok c) :
    ∃ name stem ext, file.fileName? = some name ∧ Path.Extended name stem ext ∧
      c.kind.Spelled ext ∧ c.name = Text.lossy stem := by
  obtain ⟨kind, hkind, rfl⟩ := single_eq_ok_iff.1 h
  obtain ⟨name, hname, stem, ext, hextended, hspelled⟩ := Kind.ofPath_eq_some_iff.1 hkind
  refine ⟨name, stem, ext, hname, hextended, hspelled, ?_⟩
  rw [Case.ofPath, Path.fileStem?, fileName_singleSource hname, Option.map_some, hextended.stem]

theorem exists_error_iff : (∃ e, single w settings file = .error e) ↔
    ∀ kind name, file.fileName? = some name → ¬Kind.Owns kind name := by
  cases hkind : Kind.ofPath? file with
  | none =>
    refine ⟨fun _ kind name hname howns => ?_, fun _ => ?_⟩
    · rw [Kind.ofPath_eq_some_iff.2 ⟨name, hname, howns⟩] at hkind
      cases hkind
    · unfold single
      rw [hkind]
      exact ⟨_, rfl⟩
  | some kind =>
    obtain ⟨name, hname, howns⟩ := Kind.ofPath_eq_some_iff.1 hkind
    refine ⟨?_, fun h => absurd howns (h kind name hname)⟩
    rintro ⟨e, he⟩
    rw [single_eq_ok_iff.2 ⟨kind, hkind, rfl⟩] at he
    cases he

theorem source_of_single (h : single w settings file = .ok c) : c.source =
    if file.components.length = 1 ∧ w.isPresent file = false ∧
      w.isPresent ((corpusPath settings c.kind).join file) = true
    then (corpusPath settings c.kind).join file else file := by
  obtain ⟨kind, -, rfl⟩ := single_eq_ok_iff.1 h
  exact singleSource_eq

/-- What a file is called and of what kind it is does not depend on where it is found. -/
theorem same_of_single {w' : World} {settings' : Settings} {c' : Case}
    (h : single w settings file = .ok c) (h' : single w' settings' file = .ok c') :
    c'.kind = c.kind ∧ c'.name = c.name := by
  obtain ⟨name, stem, ext, hname, hextended, hspelled, hc⟩ := exists_extended_of_single h
  obtain ⟨name', stem', ext', hname', hextended', hspelled', hc'⟩ := exists_extended_of_single h'
  obtain rfl : name' = name := Option.some.inj (hname'.symm.trans hname)
  obtain rfl : stem' = stem := hextended'.stem.symm.trans hextended.stem
  have hkind : Kind.ofPath? file = some c.kind :=
    Kind.ofPath_eq_some_iff.2 ⟨name', hname, stem', ext, hextended, hspelled⟩
  have hkind' : Kind.ofPath? file = some c'.kind :=
    Kind.ofPath_eq_some_iff.2 ⟨name', hname, stem', ext', hextended', hspelled'⟩
  exact ⟨Option.some.inj (hkind'.symm.trans hkind), hc'.trans hc.symm⟩

/-- What the file of a command line is taken for. -/
structure Resolves (w : World) (settings : Settings) (file : Path) : Prop where
  /-- It is refused exactly if its extension is that of no kind. -/
  refused : (∃ e, single w settings file = .error e) ↔
    ∀ kind name, file.fileName? = some name → ¬Kind.Owns kind name
  source : ∀ c, single w settings file = .ok c → c.source =
    if file.components.length = 1 ∧ w.isPresent file = false ∧
      w.isPresent ((corpusPath settings c.kind).join file) = true
    then (corpusPath settings c.kind).join file else file
  /-- Kind and name are those of the file as it was given. -/
  named : ∀ c, single w settings file = .ok c → ∃ name stem ext, file.fileName? = some name ∧
    Path.Extended name stem ext ∧ c.kind.Spelled ext ∧ c.name = Text.lossy stem
  /-- They are the same wherever the file lies. -/
  anywhere : ∀ w' settings' c c', single w settings file = .ok c →
    single w' settings' file = .ok c' → c'.kind = c.kind ∧ c'.name = c.name

theorem resolves (w : World) (settings : Settings) (file : Path) : Resolves w settings file where
  refused := exists_error_iff
  source _ := source_of_single
  named _ := exists_extended_of_single
  anywhere _ _ _ _ := same_of_single

end Discovery

namespace Session

variable {w : World} {settings : Settings} {kind : Kind} {cs : List Case} {c : Case} {file : Path}
  {o : Options} {groups : List (Kind × List Case)} {targets : List Target}

theorem Equipped.of_mem {kinds : List Kind} (h : Equipped w settings kinds targets)
    (hkind : kind ∈ kinds) : Equipped w settings [kind] targets where
  runtimes := by
    rintro kind' hkind'
    rw [List.mem_singleton.1 hkind']
    exact h.runtimes kind hkind
  tools := by
    intro program hprogram
    refine h.tools program (Tools.mem_required_iff.2 ?_)
    refine (Tools.mem_required_iff.1 hprogram).imp_right
      (.imp_left fun ⟨⟨k, hk, hanswers⟩, hp⟩ => ?_)
    rw [List.mem_singleton.1 hk] at hanswers
    exact ⟨⟨kind, hkind, hanswers⟩, hp⟩

theorem lists_of_mem {kinds : List Kind} (h : List.Forall₂ (Lists w settings) kinds groups)
    (hgroup : (kind, cs) ∈ groups) :
    kind ∈ kinds ∧ Discovery.cases w (Discovery.corpusPath settings kind) kind = .ok cs := by
  induction h with
  | nil => cases hgroup
  | cons hlists _ ih =>
    rcases List.mem_cons.1 hgroup with rfl | hgroup
    · obtain ⟨rfl, hcases⟩ := hlists
      exact ⟨List.mem_cons_self, hcases⟩
    · obtain ⟨hkind, hcases⟩ := ih hgroup
      exact ⟨List.mem_cons_of_mem _ hkind, hcases⟩

/-- Where options select the corpus of a case, they select the case alone if they name its file. -/
theorem select_single (hselect : select o w settings = .ok (.corpora groups, targets))
    (hgroup : (kind, cs) ∈ groups) (hsingle : Discovery.single w settings file = .ok c)
    (hkind : c.kind = kind) :
    select { o with file := some file } w settings = .ok (.single c, targets) := by
  obtain ⟨kind', hfile, rfl⟩ := Discovery.single_eq_ok_iff.1 hsingle
  obtain rfl : kind' = kind := hkind
  rw [select_eq_ok_iff] at hselect ⊢
  cases hselect with
  | corpora htargets _ _ hequipped hgroups =>
    obtain ⟨hkinds, -⟩ := lists_of_mem hgroups hgroup
    exact .single htargets rfl hfile (hequipped.of_mem hkinds)

/-- What it comes to if a case of a corpus is run alone, from a file of its own. -/
structure Reproduced (w : World) (settings : Settings) (kind : Kind) (cs : List Case) (c : Case)
    (file : Path) : Prop where
  /-- The file is taken for the case. -/
  found : Discovery.single w settings file = .ok c
  /-- Options that select the corpus select the case alone if they name the file, and then there is
  a suite of the case wherever there is one of the corpus. -/
  selected : ∀ o groups targets, select o w settings = .ok (.corpora groups, targets) →
    (kind, cs) ∈ groups →
      select { o with file := some file } w settings = .ok (.single c, targets) ∧
      (Selection.single c).suites targets = targets.map (fun target => (kind, target, [c])) ∧
      ∀ target ∈ targets, (kind, target, cs) ∈ (Selection.corpora groups).suites targets
  /-- Both suites perform the case, in whatever circumstances they come to their end: the commands
  and the outcome are the same, or some request was answered otherwise. -/
  performed : ∀ x x' workDir target tally tally',
    (Suite.runUnder x settings workDir kind target cs).1.verdict = .ok tally →
    (Suite.runUnder x' settings workDir kind target [c]).1.verdict = .ok tally' →
      (∃ es o, Suite.Performed x settings workDir kind target cs c es o) ∧
      (∃ es o, Suite.Performed x' settings workDir kind target [c] c es o) ∧
      ∀ es o es' o', Suite.Performed x settings workDir kind target cs c es o →
        Suite.Performed x' settings workDir kind target [c] c es' o' →
          es.filterMap Exchange.launched? = es'.filterMap Exchange.launched? ∧ o = o' ∨
            Parted es es'
  /-- If the trials of the corpus are separate, the commands and the outcome are the same. -/
  agreed : ∀ x x' workDir target start tally, x'.programs = x.programs →
    (cs.map Case.name).Nodup →
    Trial.Separable x.programs (Suite.trials settings workDir target cs) start →
    Trial.Midway (Suite.trials settings workDir target cs) start x.world →
    Trial.Midway (Suite.trials settings workDir target cs) start x'.world →
    (∀ l, (⟨settings, workDir, c, target⟩ : Trial).Owns start l →
      x.world.files.get? l = x'.world.files.get? l) →
    (Suite.runUnder x settings workDir kind target cs).1.verdict = .ok tally →
      ∃ tally' es es' o,
        (Suite.runUnder x' settings workDir kind target [c]).1.verdict = .ok tally' ∧
        Suite.Performed x settings workDir kind target cs c es o ∧
        Suite.Performed x' settings workDir kind target [c] c es' o ∧
        es.filterMap Exchange.launched? = es'.filterMap Exchange.launched?

theorem reproduced_of_single
    (hcases : Discovery.cases w (Discovery.corpusPath settings kind) kind = .ok cs) (hc : c ∈ cs)
    (hsingle : Discovery.single w settings file = .ok c) :
    Reproduced w settings kind cs c file where
  found := hsingle
  selected := by
    intro o groups targets hselect hgroup
    have hkind := Discovery.kind_of_mem_cases hcases hc
    refine ⟨select_single hselect hgroup hsingle hkind, ?_, fun target htarget => ?_⟩
    · simp [Selection.suites, Selection.groups, hkind]
    · exact List.mem_flatMap.2 ⟨_, hgroup, List.mem_map_of_mem htarget⟩
  performed := by
    intro x x' workDir target tally tally' hverdict hverdict'
    refine ⟨Suite.exists_performed hverdict hc,
      Suite.exists_performed hverdict' List.mem_cons_self, fun es o es' o' h h' => ?_⟩
    exact (h.same_or_parted h').imp_left fun hsame => ⟨launched_eq_of_same hsame.1, hsame.2⟩
  agreed := by
    intro x x' workDir target start tally hprograms hnames hsep hstart hstart' hview hverdict
    exact Suite.performed_alone hprograms hnames
      (fun _ hd => Discovery.wellNamed_of_mem_cases hcases hd) hsep hstart hstart' hview hc hverdict

/-- A case of a corpus is run alone by the name of its file, where there is no file of that name;
and what any file is taken for is settled by its name and by where it is. -/
theorem single_agrees (w : World) (settings : Settings) :
    (WellListed w settings → ∀ kind cs c name,
      Discovery.cases w (Discovery.corpusPath settings kind) kind = .ok cs → c ∈ cs →
      c.source.fileName? = some name → w.isPresent ⟨name⟩ = false →
        Reproduced w settings kind cs c ⟨name⟩) ∧
    ∀ file, Discovery.Resolves w settings file := by
  refine ⟨fun hwell kind cs c name hcases hc hname habsent => ?_, Discovery.resolves w settings⟩
  exact reproduced_of_single hcases hc
    (Discovery.single_of_mem_cases hcases (hwell kind) hc hname habsent)

/-- A second case next to the first one. -/
def pairedWorld : World :=
  { stockedWorld with
    files := stockedWorld.files.insert (pieces slash (Text.utf8 "real_tests/C/b.c"))
      (.file [] false) }

/-- The cases of the two files. -/
def pairedCases : List Case :=
  [.ofPath (.ofText "./real_tests/C/a.c") .c, .ofPath (.ofText "./real_tests/C/b.c") .c]

theorem cases_paired : Discovery.cases pairedWorld
    (Discovery.corpusPath Settings.standard .c) .c = .ok pairedCases := by
  have hlist : pairedWorld.list (Discovery.corpusPath Settings.standard .c) =
      .ok [Text.utf8 "a.c", Text.utf8 "b.c"] := by decide +kernel
  have hfound : ([Text.utf8 "a.c", Text.utf8 "b.c"].map fun name =>
      (Discovery.corpusPath Settings.standard .c).join ⟨name⟩).filter (fun p =>
        pairedWorld.isFile p && Kind.ofPath? p == some .c) = pairedCases.map Case.source := by
    decide +kernel
  rw [Discovery.cases_of_list (by decide +kernel) hlist, Discovery.sources, hfound,
    List.mergeSort_of_pairwise (by decide +kernel)]
  rfl

theorem separable_paired : Trial.Separable scribe
    (Suite.trials Settings.standard (.ofText "/") .riscv64 pairedCases) pairedWorld := by
  refine Suite.separable_scribe ?_ ?_ ?_
  · intro t ht ph
    simp only [Suite.trials, pairedCases, List.map_cons, List.map_nil, List.mem_cons,
      List.not_mem_nil, or_false] at ht
    rcases ht with rfl | rfl <;> cases ph <;> decide +kernel
  · have hgoals : ∀ t ∈ Suite.trials Settings.standard (.ofText "/") .riscv64 pairedCases,
        ∀ p ∈ t.inputs, ∀ l ∈ pairedWorld.files.goal? pairedWorld.here p,
        ∀ t' ∈ Suite.trials Settings.standard (.ofText "/") .riscv64 pairedCases,
          ¬t'.Owns pairedWorld l := by decide +kernel
    exact hgoals
  · have hfree : ∀ t ∈ Suite.trials Settings.standard (.ofText "/") .riscv64 pairedCases,
        ∀ q ∈ t.products.toList, ∀ l ∈ pairedWorld.files.spot? pairedWorld.here q,
          pairedWorld.files.get? l = none := by decide +kernel
    rintro t ht l ⟨q, hq, hspot⟩
    exact hfree t ht q hq l hspot

theorem wellListed_paired : WellListed pairedWorld Settings.standard := by
  intro kind names hlist
  have hnames : ∀ names ∈ (pairedWorld.list (Discovery.corpusPath Settings.standard kind)).toOption,
      ∀ name ∈ names, slash ∉ name ∧ name ≠ [] ∧ name ≠ [dot] ∧ name ≠ [dot, dot] := by
    cases kind <;> decide +kernel
  exact hnames names (by rw [hlist]; rfl)

def pairedCircumstances : Circumstances := ⟨scribe, [], .empty, pairedWorld⟩

theorem verdict_paired : (Suite.runUnder pairedCircumstances Settings.standard (.ofText "/") .c
    .riscv64 pairedCases).1.verdict = .ok ⟨.c, .riscv64, 2, 0, []⟩ := by
  decide +kernel

theorem single_agrees_paired :
    let b : Case := .ofPath (.ofText "./real_tests/C/b.c") .c
    Reproduced pairedWorld Settings.standard .c pairedCases b (.ofText "b.c") ∧
      ∃ es es' o,
        Suite.Performed pairedCircumstances Settings.standard (.ofText "/") .c .riscv64 pairedCases
          b es o ∧
        Suite.Performed pairedCircumstances Settings.standard (.ofText "/") .c .riscv64 [b]
          b es' o ∧
        es.filterMap Exchange.launched? = es'.filterMap Exchange.launched? := by
  intro b
  have hreproduced : Reproduced pairedWorld Settings.standard .c pairedCases b (.ofText "b.c") :=
    (single_agrees pairedWorld Settings.standard).1 wellListed_paired .c pairedCases b
      (Text.utf8 "b.c") cases_paired (by decide) (by decide) (by decide +kernel)
  obtain ⟨-, es, es', o, -, hcorpus, halone, hlaunched⟩ :=
    hreproduced.agreed pairedCircumstances pairedCircumstances (.ofText "/") .riscv64 pairedWorld
      _ rfl (by decide) separable_paired Trial.midway_start Trial.midway_start
      (fun _ _ => rfl) verdict_paired
  exact ⟨hreproduced, es, es', o, hcorpus, halone, hlaunched⟩

end Session

end Crosscheck
