import Crosscheck.Discovery
import Crosscheck.Proofs.Names
import Mathlib.Data.List.TakeWhile

/-!
# Cases that share artifacts

The artifacts of a case are told apart by its name alone, and its name is that of its file without
the extension, read as text. So the cases of one directory share artifacts exactly if they have the
same name. Files have one name for all that if their extensions differ in capitals only, or if the
bytes of their names are no text; other files of a directory do not.
-/

namespace Crosscheck

open FileTree

namespace Products

/-- No path of the one is a path of the other in some spelling, and no two of them lead to one
spot. -/
def Disjoint (a b : Products) : Prop :=
  ∀ p ∈ a.toList, ∀ q ∈ b.toList, ¬p.Same q ∧
    ∀ (t : FileTree) (here l : Location), t.spot? here p = some l → t.spot? here q ≠ some l

variable {workDir : Path} {name name' : String} {target : Target}

theorem name_eq_of_same (hname : slash ∉ Text.utf8 name) (hname' : slash ∉ Text.utf8 name')
    {p q : Path} (hp : p ∈ (ofCase workDir name target).toList)
    (hq : q ∈ (ofCase workDir name' target).toList) (h : p.Same q) : name = name' := by
  obtain ⟨suffix, hsuffix, rfl⟩ := mem_toList_iff.1 hp
  obtain ⟨suffix', hsuffix', rfl⟩ := mem_toList_iff.1 hq
  obtain ⟨front, hpieces⟩ := pieces_join workDir hname
  obtain ⟨front', hpieces'⟩ := pieces_join workDir hname'
  have hfiles : (place workDir name target suffix).fileName? =
      (place workDir name' target suffix').fileName? := by
    rw [Path.fileName?, Path.fileName?, show _ = _ from h]
  rw [fileName_place workDir name target hsuffix hpieces,
    fileName_place workDir name' target hsuffix' hpieces', Option.some.injEq] at hfiles
  exact (eq_of_append_tail hsuffix hsuffix' hfiles).1

/-- Artifacts are apart exactly if the names of their cases differ. -/
theorem disjoint_iff (hname : slash ∉ Text.utf8 name) (hname' : slash ∉ Text.utf8 name')
    (workDir : Path) (target : Target) :
    (ofCase workDir name target).Disjoint (ofCase workDir name' target) ↔ name ≠ name' := by
  constructor
  · rintro hdisjoint rfl
    have hmem : (ofCase workDir name target).assembly ∈ (ofCase workDir name target).toList :=
      List.mem_cons_self
    exact (hdisjoint _ hmem _ hmem).1 (Path.Same.refl _)
  · intro hne p hp q hq
    refine ⟨fun hsame => hne (name_eq_of_same hname hname' hp hq hsame), ?_⟩
    intro t here l hpl hql
    exact hne (eq_of_spot_eq hname hname' hp hq hpl hql)

end Products

namespace Path

theorem eq_append_of_splitLastDot {name front rest : Bytes}
    (h : splitLastDot? name = some (front, rest)) : name = front ++ dot :: rest := by
  unfold splitLastDot? at h
  split at h
  · next hdot =>
    simp only [Option.some.injEq, Prod.mk.injEq] at h
    obtain ⟨rfl, rfl⟩ := h
    -- Read from its end, a name is what follows its last dot, that dot, and the rest.
    have hparts := List.takeWhile_append_dropWhile (p := (· ≠ dot)) (l := name.reverse)
    have hhead := List.head?_dropWhile_not (· ≠ dot) name.reverse
    cases hdrop : name.reverse.dropWhile (· ≠ dot) with
    | nil =>
      have hnone := List.dropWhile_eq_nil_iff.1 hdrop dot (List.mem_reverse.2 hdot)
      simp at hnone
    | cons b more =>
      rw [hdrop] at hparts hhead
      obtain rfl : b = dot := by simpa using hhead
      have hname := congrArg List.reverse hparts
      simpa using hname.symm
  · cases h

/-- A name with an extension is its stem, a dot and the extension. -/
theorem eq_stem_append {name ext : Bytes} (h : suffix? name = some ext) :
    name = stem name ++ dot :: ext := by
  unfold suffix? at h
  split at h
  · next b front rest hsplit =>
    obtain rfl := Option.some.inj h
    rw [stem, hsplit]
    exact eq_append_of_splitLastDot hsplit
  · cases h

/-- Whether the name of a file, without its extension, is well-formed text. -/
def Readable (p : Path) : Prop := ∀ stem, p.fileStem? = some stem → Text.strict? stem ≠ none

end Path

/-- What can be the name of an entry of a directory. -/
def IsName (name : Bytes) : Prop :=
  slash ∉ name ∧ name ≠ [] ∧ name ≠ [dot] ∧ name ≠ [dot, dot]

theorem IsName.fileName_join {name : Bytes} (h : IsName name) (dir : Path) :
    (dir.join ⟨name⟩).fileName? = some name := by
  obtain ⟨front, hpieces⟩ := Products.pieces_join dir h.1
  exact Path.fileName_of_pieces hpieces h.2

theorem Kind.exists_extension_of_ofPath {p : Path} {kind : Kind} (h : ofPath? p = some kind) :
    ∃ ext, p.extension? = some ext := by
  unfold ofPath? at h
  split at h
  · cases h
  · next ext hext => exact ⟨ext, hext⟩

/-- A case of a file whose name can be read is written as the stem of that file. -/
theorem Case.utf8_name_ofPath {p : Path} {name : Bytes} (kind : Kind)
    (hfile : p.fileName? = some name) (h : p.Readable) :
    Text.utf8 (ofPath p kind).name = Path.stem name := by
  have hstem : p.fileStem? = some (Path.stem name) := by rw [Path.fileStem?, hfile, Option.map_some]
  have hname : (ofPath p kind).name = Text.lossy (Path.stem name) := by rw [ofPath, hstem]
  by_contra hne
  rw [hname] at hne
  exact h _ hstem (if_neg hne)

namespace Discovery

variable {w : World} {dir : Path} {kind : Kind} {names : List Bytes} {cs : List Case} {c c' : Case}

theorem mem_sources_iff {p : Path} : p ∈ sources w dir kind names ↔
    (∃ name ∈ names, dir.join ⟨name⟩ = p) ∧ w.isFile p = true ∧ Kind.ofPath? p = some kind := by
  unfold sources
  rw [List.mem_mergeSort, List.mem_filter, List.mem_map]
  simp

theorem cases_of_list (hdir : w.isDirectory dir = true) (hlist : w.list dir = .ok names) :
    cases w dir kind = .ok ((sources w dir kind names).map fun p => .ofPath p kind) := by
  rw [cases, if_pos hdir, hlist]

theorem exists_list_of_cases (hcases : cases w dir kind = .ok cs) : ∃ names,
    w.list dir = .ok names ∧ cs = (sources w dir kind names).map fun p => .ofPath p kind := by
  unfold cases at hcases
  split at hcases
  · cases hlist : w.list dir with
    | error cause =>
      rw [hlist] at hcases
      cases hcases
    | ok names =>
      rw [hlist] at hcases
      exact ⟨names, rfl, (Except.ok.inj hcases).symm⟩
  · cases hcases

theorem mem_cases_of_list (hcases : cases w dir kind = .ok cs) (hlist : w.list dir = .ok names)
    {name : Bytes} (hname : name ∈ names) (hfile : w.isFile (dir.join ⟨name⟩) = true)
    (hkind : Kind.ofPath? (dir.join ⟨name⟩) = some kind) :
    .ofPath (dir.join ⟨name⟩) kind ∈ cs := by
  obtain ⟨names', hlist', rfl⟩ := exists_list_of_cases hcases
  obtain rfl : names = names' := Except.ok.inj (hlist.symm.trans hlist')
  exact List.mem_map_of_mem (mem_sources_iff.2 ⟨⟨name, hname, rfl⟩, hfile, hkind⟩)

/-- A case is found as a file of the kind under one of the names in the directory. -/
theorem exists_name_of_cases (hcases : cases w dir kind = .ok cs) (hc : c ∈ cs) :
    ∃ names, w.list dir = .ok names ∧ ∃ name ∈ names, c = .ofPath (dir.join ⟨name⟩) kind ∧
      Kind.ofPath? (dir.join ⟨name⟩) = some kind := by
  obtain ⟨names, hlist, rfl⟩ := exists_list_of_cases hcases
  obtain ⟨p, hp, rfl⟩ := List.mem_map.1 hc
  obtain ⟨⟨name, hname, rfl⟩, -, hkind⟩ := mem_sources_iff.1 hp
  exact ⟨names, hlist, name, hname, rfl, hkind⟩

theorem kind_of_mem_cases (hcases : cases w dir kind = .ok cs) (hc : c ∈ cs) : c.kind = kind := by
  obtain ⟨-, -, name, -, rfl, -⟩ := exists_name_of_cases hcases hc
  rfl

theorem wellNamed_of_mem_cases (hcases : cases w dir kind = .ok cs) (hc : c ∈ cs) :
    c.WellNamed := by
  obtain ⟨-, -, name, -, rfl, -⟩ := exists_name_of_cases hcases hc
  exact Case.wellNamed_ofPath _ kind

/-- Files in one directory that can be read and have one extension to the letter are one file if
they are one case by name. -/
theorem source_eq_of_name_eq (hcases : cases w dir kind = .ok cs)
    (hnames : ∀ names, w.list dir = .ok names → ∀ name ∈ names, IsName name) (hc : c ∈ cs)
    (hc' : c' ∈ cs) (hext : c.source.extension? = c'.source.extension?) (hread : c.source.Readable)
    (hread' : c'.source.Readable) (h : c.name = c'.name) : c.source = c'.source := by
  obtain ⟨names, hlist, name, hname, rfl, hkind⟩ := exists_name_of_cases hcases hc
  obtain ⟨names', hlist', name', hname', rfl, -⟩ := exists_name_of_cases hcases hc'
  have hfile := (hnames names hlist name hname).fileName_join dir
  have hfile' := (hnames names' hlist' name' hname').fileName_join dir
  have hstems : Path.stem name = Path.stem name' := by
    rw [← Case.utf8_name_ofPath kind hfile hread, h, Case.utf8_name_ofPath kind hfile' hread']
  obtain ⟨ext, hsome⟩ := Kind.exists_extension_of_ofPath hkind
  have hsome' : (dir.join ⟨name'⟩).extension? = some ext := hext.symm.trans hsome
  rw [Path.extension?, hfile, Option.bind_some] at hsome
  rw [Path.extension?, hfile', Option.bind_some] at hsome'
  have heq : name = name' := by
    rw [Path.eq_stem_append hsome, Path.eq_stem_append hsome', hstems]
  exact congrArg (fun name => dir.join ⟨name⟩) heq

/-- Cases found in a directory share no artifact exactly if they have different names, whatever is
at the artifacts' places. Different files whose names are text have different names as cases, but
for a difference in the letters of their extensions alone. -/
theorem disjoint_of_discovered (hcases : cases w dir kind = .ok cs)
    (hnames : ∀ names, w.list dir = .ok names → ∀ name ∈ names, IsName name) (hc : c ∈ cs)
    (hc' : c' ∈ cs) (workDir : Path) (target : Target) :
    ((Products.ofCase workDir c.name target).Disjoint (.ofCase workDir c'.name target) ↔
      c.name ≠ c'.name) ∧
    (c.source ≠ c'.source → c.source.extension? = c'.source.extension? → c.source.Readable →
      c'.source.Readable →
        (Products.ofCase workDir c.name target).Disjoint (.ofCase workDir c'.name target)) := by
  have hwell : ∀ d ∈ cs, d.WellNamed := by
    intro d hd
    obtain ⟨-, -, name, -, rfl, -⟩ := exists_name_of_cases hcases hd
    exact Case.wellNamed_ofPath _ kind
  have hiff := Products.disjoint_iff (hwell c hc) (hwell c' hc') workDir target
  refine ⟨hiff, fun hsources hext hread hread' => hiff.2 fun hname => hsources ?_⟩
  exact source_eq_of_name_eq hcases hnames hc hc' hext hread hread' hname

/-- A world with empty files of some names at the root, where it is. -/
def rootWorld (names : List String) : World where
  files := names.foldr (fun name t => t.insert [Text.utf8 name] (.file [] false)) .empty
  here := []
  searchPath := none
  clock := 0
  processors := 1
  launched := []

theorem disjoint_of_discovered_sample :
    let w := rootWorld ["a.c", "b.c"]
    let c : Case := .ofPath (.ofText "./a.c") .c
    let c' : Case := .ofPath (.ofText "./b.c") .c
    ∃ cs, cases w (.ofText ".") .c = .ok cs ∧ c ∈ cs ∧ c' ∈ cs ∧
      (Products.ofCase (.ofText "work") c.name .riscv64).Disjoint
        (.ofCase (.ofText "work") c'.name .riscv64) := by
  intro w c c'
  have hlist : w.list (.ofText ".") = .ok [Text.utf8 "a.c", Text.utf8 "b.c"] := by decide
  have hcases : cases w (.ofText ".") .c = .ok _ := cases_of_list (by decide) hlist
  have hc : c ∈ _ := mem_cases_of_list hcases hlist
    (show Text.utf8 "a.c" ∈ _ by decide) (by decide) (by decide)
  have hc' : c' ∈ _ := mem_cases_of_list hcases hlist
    (show Text.utf8 "b.c" ∈ _ by decide) (by decide) (by decide)
  have hnames : ∀ names, w.list (.ofText ".") = .ok names → ∀ name ∈ names, IsName name := by
    intro names hnames
    obtain rfl := Except.ok.inj (hlist.symm.trans hnames)
    unfold IsName
    decide
  have hread : c.source.Readable := by
    rintro stem hstem
    obtain rfl := Option.some.inj (hstem.symm.trans (show _ = some (Text.utf8 "a") by decide))
    decide
  have hread' : c'.source.Readable := by
    rintro stem hstem
    obtain rfl := Option.some.inj (hstem.symm.trans (show _ = some (Text.utf8 "b") by decide))
    decide
  refine ⟨_, hcases, hc, hc', ?_⟩
  exact (disjoint_of_discovered hcases hnames hc hc' (.ofText "work") .riscv64).2 (by decide)
    (by decide) hread hread'

/-- The files `a.c` and `a.C` are both found, and all their artifacts are the same. -/
theorem discovered_share_artifacts :
    let w := rootWorld ["a.c", "a.C"]
    let c : Case := .ofPath (.ofText "./a.c") .c
    let c' : Case := .ofPath (.ofText "./a.C") .c
    ∃ cs, cases w (.ofText ".") .c = .ok cs ∧ c ∈ cs ∧ c' ∈ cs ∧ c.source ≠ c'.source ∧
      ∀ workDir target,
        Products.ofCase workDir c.name target = .ofCase workDir c'.name target ∧
        ¬(Products.ofCase workDir c.name target).Disjoint (.ofCase workDir c'.name target) := by
  intro w c c'
  have hlist : w.list (.ofText ".") = .ok [Text.utf8 "a.C", Text.utf8 "a.c"] := by decide
  have hcases : cases w (.ofText ".") .c = .ok _ := cases_of_list (by decide) hlist
  have hc : c ∈ _ := mem_cases_of_list hcases hlist
    (show Text.utf8 "a.c" ∈ _ by decide) (by decide) (by decide)
  have hc' : c' ∈ _ := mem_cases_of_list hcases hlist
    (show Text.utf8 "a.C" ∈ _ by decide) (by decide) (by decide)
  refine ⟨_, hcases, hc, hc', by decide, fun workDir target => ?_⟩
  have hname : c.name = c'.name := by decide
  refine ⟨by rw [hname], fun hdisjoint => ?_⟩
  have hiff := Products.disjoint_iff (Case.wellNamed_ofPath (.ofText "./a.c") .c)
    (Case.wellNamed_ofPath (.ofText "./a.C") .c) workDir target
  exact hiff.1 hdisjoint hname

end Discovery

end Crosscheck
