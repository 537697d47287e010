import Crosscheck.Lookup
import Crosscheck.Machine.Image
import Crosscheck.Proofs.Arrivals
import Crosscheck.Proofs.Collisions

/-!
# What belongs to a trial

An artifact lies in the directory for artifacts under a name that tells its case, its target and
what it is for. That directory is absolute, so a binary in it is launched from where it is and never
searched for. No source and no answer has the name of an artifact, so none is removed with the
artifacts, even where all lie in one directory.
-/

namespace Crosscheck

namespace Case

/-- What a name of a case is like. -/
def IsName (name : String) : Prop := name ≠ "" ∧ '/' ∉ name.toList

theorem slash_not_mem_of_isName {name : String} (h : IsName name) : slash ∉ Text.utf8 name :=
  fun hmem => h.2 (Text.slash_mem_of_mem_utf8 hmem)

theorem isName_ofPath (source : Path) (kind : Kind) : IsName (Case.ofPath source kind).name := by
  constructor
  · unfold ofPath Path.fileStem?
    cases hname : source.fileName? with
    | none =>
      have hunnamed : Case.unnamed ≠ "" := by decide
      exact hunnamed
    | some name =>
      exact Text.lossy_ne_empty (Path.stem_ne_nil (Path.piece_of_fileName hname).2)
  · intro hmem
    exact wellNamed_ofPath source kind (List.mem_flatMap.2 ⟨'/', hmem, by decide⟩)

/-- Whether a case comes from a corpus directory or from a single file. -/
def Found (w : World) (settings : Settings) (c : Case) : Prop :=
  (∃ dir kind cs, Discovery.cases w dir kind = .ok cs ∧ c ∈ cs) ∨
    ∃ file, Discovery.single w settings file = .ok c

end Case

theorem Kind.ofPath_congr {p q : Path} (h : p.fileName? = q.fileName?) : ofPath? p = ofPath? q := by
  rw [ofPath?, ofPath?, Path.extension?, Path.extension?, h]

namespace Discovery

variable {w : World} {settings : Settings} {kind : Kind} {file : Path}

theorem kind_of_singleSource (h : Kind.ofPath? file = some kind) :
    Kind.ofPath? (singleSource w settings kind file) = some kind := by
  unfold singleSource
  dsimp only
  split
  · next hchosen =>
    have hone : file.components.length = 1 := by
      simp only [Bool.and_eq_true, beq_iff_eq] at hchosen
      exact hchosen.1.2
    obtain ⟨ext, hext⟩ := Kind.exists_extension_of_ofPath h
    obtain ⟨name, hname, -⟩ := Option.bind_eq_some_iff.1 hext
    rw [Kind.ofPath_congr ((Path.fileName_join hone hname).trans hname.symm), h]
  · exact h

end Discovery

/-- A case that is found is made of a path of its kind. -/
theorem Case.Found.exists_kind {w : World} {settings : Settings} {c : Case}
    (h : c.Found w settings) :
    ∃ source kind, c = .ofPath source kind ∧ Kind.ofPath? source = some kind := by
  rcases h with ⟨dir, kind, cs, hcases, hc⟩ | ⟨file, hsingle⟩
  · obtain ⟨-, -, name, -, rfl, hkind⟩ := Discovery.exists_name_of_cases hcases hc
    exact ⟨_, kind, rfl, hkind⟩
  · unfold Discovery.single at hsingle
    cases hkind : Kind.ofPath? file with
    | none =>
      rw [hkind] at hsingle
      cases hsingle
    | some kind =>
      rw [hkind] at hsingle
      exact ⟨_, kind, (Except.ok.inj hsingle).symm, Discovery.kind_of_singleSource hkind⟩

namespace World

theorem isAbsolute_herePath (w : World) : w.herePath.isAbsolute = true := by
  unfold herePath Location.path Path.isAbsolute
  cases w.here with
  | nil => rfl
  | cons name l => simp

theorem isAbsolute_of_prepareWorkDir {w w' : World} {settings : Settings} {dir : Path}
    (h : w.prepareWorkDir settings = (.ok dir, w')) : dir.isAbsolute = true := by
  unfold prepareWorkDir at h
  split at h
  · cases h
  · next dir' hdir =>
    dsimp only at h
    split at h
    · cases h
      exact Path.isAbsolute_absolute w.isAbsolute_herePath hdir
    · cases h

end World

namespace Products

/-- What an artifact is for. -/
inductive Part where
  | assembly
  | underTest
  | reference
  deriving DecidableEq, Repr

def Part.suffix : Part → String
  | assembly => "s"
  | underTest => "moon"
  | reference => "std"

theorem Part.suffix_mem (part : Part) : part.suffix ∈ suffixes := by cases part <;> decide

theorem Part.suffix_injective {part part' : Part} (h : part.suffix = part'.suffix) :
    part = part' := by
  revert h
  cases part <;> cases part' <;> decide

def part (p : Products) : Part → Path
  | .assembly => p.assembly
  | .underTest => p.underTest
  | .reference => p.reference

theorem part_ofCase (workDir : Path) (name : String) (target : Target) (part : Part) :
    (ofCase workDir name target).part part = place workDir name target part.suffix := by
  cases part <;> rfl

/-- The name of an artifact. -/
def label (name : String) (target : Target) (part : Part) : String :=
  name ++ "." ++ target.token ++ "." ++ part.suffix

theorem utf8_label (name : String) (target : Target) (part : Part) :
    Text.utf8 (label name target part) = Text.utf8 name ++ tail target part.suffix := by
  simp only [label, tail, Text.utf8_append, List.append_assoc]

theorem eq_of_label {name name' : String} {target target' : Target} {part part' : Part}
    (h : Text.utf8 (label name target part) = Text.utf8 (label name' target' part')) :
    name = name' ∧ target = target' ∧ part = part' := by
  rw [utf8_label, utf8_label] at h
  obtain ⟨hname, htarget, hpart⟩ := eq_of_append_tail part.suffix_mem part'.suffix_mem h
  exact ⟨hname, htarget, Part.suffix_injective hpart⟩

/-- An artifact lies in the directory for artifacts under its name. -/
theorem components_part {name : String} (hname : Case.IsName name) (workDir : Path)
    (target : Target) (part : Part) : ((ofCase workDir name target).part part).components =
      workDir.components ++ [.normal (Text.utf8 (label name target part))] := by
  obtain ⟨hne, hdot, hdots⟩ := last_ne target (Text.utf8 name) part.suffix_mem
  have hslash : slash ∉ Text.utf8 name ++ tail target part.suffix := fun hmem =>
    (List.mem_append.1 hmem).elim (Case.slash_not_mem_of_isName hname)
      (slash_not_mem_tail target part.suffix_mem)
  rw [← utf8_label] at hne hdot hdots hslash
  rw [part_ofCase]
  exact Path.components_name hslash hne hdot hdots workDir

theorem exists_fileName {workDir : Path} {name : String} {target : Target} {p : Path}
    (h : p ∈ (ofCase workDir name target).toList) :
    ∃ stem, ∃ suffix ∈ suffixes, p.fileName? = some (stem ++ tail target suffix) := by
  obtain ⟨suffix, hsuffix, rfl⟩ := mem_toList_iff.1 h
  obtain ⟨front, stem, hpieces⟩ := exists_pieces (workDir.join (.ofText name)).bytes
  exact ⟨stem, suffix, hsuffix, fileName_place workDir name target hsuffix hpieces⟩

theorem part_mem (p : Products) (part : Part) : p.part part ∈ p.toList := by
  cases part <;> simp [Products.part, toList]

end Products

/-- The name of a file of a kind ends like the extension of the kind, up to capitals. -/
theorem Kind.getLast_of_ofPath {p : Path} {kind : Kind} (h : ofPath? p = some kind) :
    ∃ name, p.fileName? = some name ∧
      name.getLast?.map lowerByte = (Text.utf8 kind.extension).getLast? := by
  obtain ⟨ext, hext⟩ := exists_extension_of_ofPath h
  obtain ⟨name, hname, hsuffix⟩ := Option.bind_eq_some_iff.1 hext
  have hlower : ext.map lowerByte = Text.utf8 kind.extension := by
    rw [ofPath?, hext] at h
    simpa using List.find?_some h
  have hne : ext ≠ [] := by
    rintro rfl
    cases kind <;> cases hlower
  refine ⟨name, hname, ?_⟩
  rw [Path.eq_stem_append hsuffix, ← List.singleton_append, ← List.append_assoc,
    List.getLast?_append, List.getLast?_eq_some_getLast hne, Option.some_or, ← hlower,
    List.getLast?_map, List.getLast?_eq_some_getLast hne]

namespace Products

variable {workDir : Path} {name : String} {target : Target} {p q : Path}

theorem getLast_tail_ne (target : Target) {suffix : String} (h : suffix ∈ suffixes) (kind : Kind) :
    (tail target suffix).getLast?.map Kind.lowerByte ≠ (Text.utf8 kind.extension).getLast? := by
  revert suffix
  cases target <;> cases kind <;> decide

/-- No artifact has the name of a source. -/
theorem fileName_ne_source (h : p ∈ (ofCase workDir name target).toList) {kind : Kind}
    (hq : Kind.ofPath? q = some kind) : p.fileName? ≠ q.fileName? := by
  obtain ⟨stem, suffix, hsuffix, hname⟩ := exists_fileName h
  obtain ⟨name', hname', hlast⟩ := Kind.getLast_of_ofPath hq
  rw [hname, hname', ne_eq, Option.some_inj]
  rintro rfl
  rw [getLast_append_tail target stem hsuffix] at hlast
  exact getLast_tail_ne target hsuffix kind hlast

/-- How the names of files with recorded answers end. -/
def answerTail : Bytes := Text.utf8 ".ans"

theorem answerTail_not_suffix (target : Target) {suffix : String} (h : suffix ∈ suffixes) :
    ¬answerTail <:+ tail target suffix ∧ ¬tail target suffix <:+ answerTail := by
  revert suffix
  cases target <;> decide

theorem exists_fileName_answer (dir : Path) (text : String) : ∃ stem,
    (dir.join (.ofText (text ++ ".ans"))).fileName? = some (stem ++ answerTail) := by
  have habsolute : (⟨Text.utf8 text ++ answerTail⟩ : Path).isAbsolute =
      (⟨Text.utf8 text⟩ : Path).isAbsolute := by
    cases Text.utf8 text with
    | nil => decide
    | cons b bs => rfl
  obtain ⟨front, stem, hpieces⟩ := exists_pieces (dir.join ⟨Text.utf8 text⟩).bytes
  have hslash : slash ∉ answerTail := by decide
  have hall := pieces_append hpieces hslash
  rw [← bytes_join_append dir habsolute, answerTail, ← Text.utf8_append] at hall
  refine ⟨stem, Path.fileName_of_pieces hall (Path.ne_of_length ?_)⟩
  rw [List.length_append, show answerTail.length = 4 from rfl]
  omega

/-- No artifact has the name of a file with a recorded answer. -/
theorem fileName_ne_answer (h : p ∈ (ofCase workDir name target).toList) (dir : Path)
    (text : String) : p.fileName? ≠ (dir.join (.ofText (text ++ ".ans"))).fileName? := by
  obtain ⟨stem, suffix, hsuffix, hname⟩ := exists_fileName h
  obtain ⟨stem', hname'⟩ := exists_fileName_answer dir text
  rw [hname, hname', ne_eq, Option.some_inj]
  intro heq
  have hends : tail target suffix <:+ stem' ++ answerTail := heq ▸ List.suffix_append _ _
  obtain ⟨hanswer, htail⟩ := answerTail_not_suffix target hsuffix
  exact (List.suffix_or_suffix_of_suffix hends (List.suffix_append _ _)).elim htail hanswer

end Products

/-- Whether a program is where its path says, and is looked for nowhere else. -/
structure Path.Fixed (p : Path) : Prop where
  found : ∀ w, Lookup.candidates w p = [p]
  launched : ∀ files here searchPath arguments, Image.ofProgram files here searchPath p arguments =
    Image.ofProgram files here none p arguments

theorem Path.fixed_of_isAbsolute {p : Path} (habsolute : p.isAbsolute = true)
    (hlength : 1 < p.components.length) : p.Fixed := by
  constructor
  · intro w
    rw [Lookup.candidates, if_pos hlength]
  · intro files here searchPath arguments
    have hslash : slash ∈ p.bytes := List.mem_of_head? (by simpa [isAbsolute] using habsolute)
    rw [Image.ofProgram, Image.ofProgram, if_pos hslash, if_pos hslash]

namespace Artifacts

/-- Whether the file that a path names is still there once a set is released. -/
def Spares (a : Artifacts) (q : Path) : Prop :=
  ∀ (programs : Behaviour) (w : World) (l : Location) (e : Entry),
    w.files.entry w.here false q = .ok (l, e) → e ≠ .directory →
      (a.release.run programs w).2.files.get? l = some e

theorem spares_of_ne {a : Artifacts} {q : Path} (h : ∀ p ∈ a.paths, p.fileName? ≠ q.fileName?) :
    a.Spares q := by
  intro programs w l e hentry he
  have hkeep := get?_removeAll_of_ne programs (l := l)
    (fun p hp => (FileTree.getLast_of_entry he hentry).symm ▸ h p hp) w
  exact hkeep.trans (FileTree.arrives_of_entry he hentry).entry

end Artifacts

namespace Products

/-- An artifact of a case, as one that cannot be taken for anything else. -/
structure Identified (workDir : Path) (name : String) (target : Target) (part : Part) : Prop where
  unique : ∀ name' target' part', Case.IsName name' →
    ((ofCase workDir name target).part part).Same ((ofCase workDir name' target').part part') →
      name = name' ∧ target = target' ∧ part = part'
  child : ((ofCase workDir name target).part part).components =
    workDir.components ++ [.normal (Text.utf8 (label name target part))]
  fixed : ∀ (w w' : World) (settings : Settings),
    w.prepareWorkDir settings = (.ok workDir, w') →
      ((ofCase workDir name target).part part).isAbsolute = true ∧
        ((ofCase workDir name target).part part).Fixed
  not_source : ∀ (w : World) (settings : Settings) (c : Case), c.Found w settings →
    ¬((ofCase workDir name target).part part).Same c.source
  not_answer : ∀ (dir : Path) (text : String),
    ¬((ofCase workDir name target).part part).Same (dir.join (.ofText (text ++ ".ans")))

theorem identified {name : String} (hname : Case.IsName name) (workDir : Path) (target : Target)
    (part : Part) : Identified workDir name target part := by
  have hchild := components_part hname workDir target part
  have hmem := (ofCase workDir name target).part_mem part
  refine ⟨?_, hchild, ?_, ?_, ?_⟩
  · intro name' target' part' hname' hsame
    rw [Path.Same, hchild, components_part hname' workDir target' part'] at hsame
    have hlast := Component.normal.inj (List.singleton_inj.1 (List.append_inj' hsame rfl).2)
    exact eq_of_label hlast
  · intro w w' settings hprepared
    have hdir := World.isAbsolute_of_prepareWorkDir hprepared
    have habsolute : ((ofCase workDir name target).part part).isAbsolute = true := by
      rw [part_ofCase, place, Path.isAbsolute_join, hdir, Bool.true_or]
    refine ⟨habsolute, Path.fixed_of_isAbsolute habsolute ?_⟩
    rw [hchild, Path.components_eq, Path.origin, if_pos hdir]
    simp
  · intro w settings c hfound hsame
    obtain ⟨source, kind, rfl, hkind⟩ := hfound.exists_kind
    exact fileName_ne_source hmem hkind (Path.fileName_congr hsame)
  · intro dir text hsame
    exact fileName_ne_answer hmem dir text (Path.fileName_congr hsame)

/-- An artifact tells its case, its target and what it is for, lies in the directory for artifacts
and is launched from there, and is neither a source nor an answer. What removes artifacts removes
neither. Every case has such a name. -/
theorem artifacts_identified {name : String} (hname : Case.IsName name) (workDir : Path)
    (target : Target) :
    (∀ part, Identified workDir name target part) ∧
    (∀ a : Artifacts, a.paths ⊆ (ofCase workDir name target).toList →
      (∀ (w : World) (settings : Settings) (c : Case), c.Found w settings → a.Spares c.source) ∧
      ∀ (dir : Path) (text : String), a.Spares (dir.join (.ofText (text ++ ".ans")))) ∧
    ∀ (source : Path) (kind : Kind), Case.IsName (Case.ofPath source kind).name := by
  refine ⟨identified hname workDir target, ?_, Case.isName_ofPath⟩
  intro a hsubset
  refine ⟨fun w settings c hfound => ?_, fun dir text => ?_⟩
  · obtain ⟨source, kind, rfl, hkind⟩ := hfound.exists_kind
    exact Artifacts.spares_of_ne fun p hp => fileName_ne_source (hsubset hp) hkind
  · exact Artifacts.spares_of_ne fun p hp => fileName_ne_answer (hsubset hp) dir text

/-- A source, an answer and an artifact in one directory, which is where artifacts are put. -/
theorem artifacts_identified_together :
    let settings : Settings := { Settings.standard with root := .ofText "/" }
    let w := Discovery.rootWorld ["a.c", "a.ans", "a.riscv64.s"]
    let c : Case := .ofPath (.ofText "/a.c") .c
    let products := ofCase (.ofText "/") "a" .riscv64
    let a := Artifacts.empty.track products.assembly
    Case.IsName "a" ∧ Case.IsName "a.riscv64.s" ∧
    w.prepareWorkDir settings = (.ok (.ofText "/"), w) ∧ c.Found w settings ∧
    a.paths ⊆ products.toList ∧ (a.release.run scribe w).1 = 1 ∧
    ¬products.assembly.Same (ofCase (.ofText "/") "a.riscv64.s" .riscv64).assembly ∧
    products.assembly.Fixed ∧ ¬products.assembly.Same c.source ∧ a.Spares c.source ∧
    a.Spares (.ofText "/a.ans") := by
  intro settings w c products a
  have hname : Case.IsName "a" := by
    unfold Case.IsName
    decide
  have hname' : Case.IsName "a.riscv64.s" := by
    unfold Case.IsName
    decide
  have hprepared : w.prepareWorkDir settings = (.ok (.ofText "/"), w) := by rfl
  have hfound : c.Found w settings := .inr ⟨.ofText "/a.c", by rfl⟩
  have hsubset : a.paths ⊆ products.toList := by decide
  obtain ⟨hpart, hspares, -⟩ := artifacts_identified hname (.ofText "/") .riscv64
  obtain ⟨hsource, hanswer⟩ := hspares a hsubset
  refine ⟨hname, hname', hprepared, hfound, hsubset, by decide +kernel, ?_, ?_, ?_, ?_, ?_⟩
  · intro hsame
    have heq := ((hpart .assembly).unique "a.riscv64.s" .riscv64 .assembly hname' hsame).1
    exact absurd heq (by decide)
  · exact ((hpart .assembly).fixed w w settings hprepared).2
  · exact (hpart .assembly).not_source w settings c hfound
  · exact hsource w settings c hfound
  · exact hanswer (.ofText "/") "a"

end Products

end Crosscheck
