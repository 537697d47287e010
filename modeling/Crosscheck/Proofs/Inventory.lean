import Crosscheck.Proofs.Belongings
import Crosscheck.Proofs.Repetitions

/-!
# The cases of a directory

A directory is listed in any order, with files of every sort. The cases of a kind in it are those
regular files whose names have the extension of the kind, one case for each of them, in the order of
the bytes of their names. So the order of the listing cannot be told from the cases, and no file is
a case of two kinds.
-/

namespace Crosscheck

namespace Path

/-- A name with an extension: what follows its last dot, where something comes before that dot. -/
structure Extended (name stem ext : Bytes) : Prop where
  parts : name = stem ++ dot :: ext
  last : dot ∉ ext
  front : stem ≠ []

theorem splitLastDot_append {front rest : Bytes} (h : dot ∉ rest) :
    splitLastDot? (front ++ dot :: rest) = some (front, rest) := by
  have hrest : ∀ b ∈ rest.reverse, decide (b ≠ dot) = true := by
    intro b hb
    exact decide_eq_true fun hdot => h (hdot ▸ List.mem_reverse.1 hb)
  have hreverse : (front ++ dot :: rest).reverse = rest.reverse ++ dot :: front.reverse := by simp
  rw [splitLastDot?, if_pos (by simp), hreverse]
  dsimp only
  rw [List.takeWhile_append_of_pos hrest, List.dropWhile_append_of_pos hrest]
  simp

theorem dot_notMem_of_splitLastDot {name front rest : Bytes}
    (h : splitLastDot? name = some (front, rest)) : dot ∉ rest := by
  unfold splitLastDot? at h
  split at h
  · simp only [Option.some.injEq, Prod.mk.injEq] at h
    obtain ⟨-, rfl⟩ := h
    intro hdot
    simpa using List.mem_takeWhile_imp (List.mem_reverse.1 hdot)
  · cases h

variable {name front ext : Bytes}

theorem Extended.suffix (h : Extended name front ext) : suffix? name = some ext := by
  obtain ⟨b, bs, rfl⟩ := List.exists_cons_of_ne_nil h.front
  rw [suffix?, h.parts, splitLastDot_append h.last]

theorem Extended.stem (h : Extended name front ext) : stem name = front := by
  obtain ⟨b, bs, rfl⟩ := List.exists_cons_of_ne_nil h.front
  rw [Path.stem, h.parts, splitLastDot_append h.last]

theorem extended_of_suffix (h : suffix? name = some ext) : Extended name (stem name) ext := by
  unfold suffix? at h
  split at h
  · next b bs rest hsplit =>
    obtain rfl := Option.some.inj h
    have hstem : stem name = b :: bs := by rw [stem, hsplit]
    rw [hstem]
    exact ⟨eq_append_of_splitLastDot hsplit, dot_notMem_of_splitLastDot hsplit, by simp⟩
  · cases h

end Path

theorem Kind.lowerByte_of_le {b : UInt8} (h : 128 ≤ b.toNat) : lowerByte b = b := by
  refine if_neg fun hcapital => ?_
  have hle : b.toNat ≤ 90 := by
    simpa [UInt8.le_iff_toNat_le] using (Bool.and_eq_true_iff.1 hcapital).2
  omega

namespace Text

/-- Every byte of a character beyond ASCII has its highest bit set. -/
theorem le_of_mem_encode {c : Char} (hc : 128 ≤ c.val.toNat) {b : UInt8}
    (hb : b ∈ String.utf8EncodeChar c) : 128 ≤ b.toNat := by
  unfold String.utf8EncodeChar at hb
  simp only at hb
  split at hb
  · omega
  · split at hb
    · simp only [List.mem_cons, List.not_mem_nil, or_false] at hb
      rcases hb with rfl | rfl <;> rw [UInt8.toNat_ofNat'] <;> omega
    · split at hb
      · simp only [List.mem_cons, List.not_mem_nil, or_false] at hb
        rcases hb with rfl | rfl | rfl <;> rw [UInt8.toNat_ofNat'] <;> omega
      · simp only [List.mem_cons, List.not_mem_nil, or_false] at hb
        rcases hb with rfl | rfl | rfl | rfl <;> rw [UInt8.toNat_ofNat'] <;> omega

theorem toLower_of_le {c : Char} (h : 128 ≤ c.val.toNat) : c.toLower = c := by
  refine dif_neg fun hcapital => ?_
  have hle : c.val.toNat ≤ 90 := UInt32.le_iff_toNat_le.1 hcapital.2
  omega

theorem map_lowerByte_encode (c : Char) :
    (String.utf8EncodeChar c).map Kind.lowerByte = String.utf8EncodeChar c.toLower := by
  by_cases hascii : c.val.toNat < 128
  · have hall : ∀ n < 128, (String.utf8EncodeChar (Char.ofNat n)).map Kind.lowerByte =
        String.utf8EncodeChar (Char.ofNat n).toLower := by decide
    have hc := hall c.toNat hascii
    rwa [Char.ofNat_toNat] at hc
  -- the bytes of a wider character are no capitals, as it is none
  · have hwide := Nat.le_of_not_lt hascii
    rw [toLower_of_le hwide]
    calc (String.utf8EncodeChar c).map Kind.lowerByte
      _ = (String.utf8EncodeChar c).map id :=
        List.map_congr_left fun b hb => Kind.lowerByte_of_le (le_of_mem_encode hwide hb)
      _ = String.utf8EncodeChar c := List.map_id _

theorem map_lowerByte_utf8 (s : String) : (utf8 s).map Kind.lowerByte = utf8 (lower s) := by
  rw [lower, utf8, utf8, String.toList_ofList, utf8Chars, utf8Chars, List.map_flatMap,
    List.flatMap_map]
  exact congrArg s.toList.flatMap (funext map_lowerByte_encode)

/-- Bytes below 128 are the text of the characters with their numbers. -/
theorem utf8_of_ascii {bs : Bytes} (h : ∀ b ∈ bs, b.toNat < 128) :
    utf8 (String.ofList (bs.map fun b => Char.ofNat b.toNat)) = bs := by
  have hone : ∀ n < 128, String.utf8EncodeChar (Char.ofNat n) = [UInt8.ofNat n] := by decide
  rw [utf8, String.toList_ofList]
  induction bs with
  | nil => rfl
  | cons b bs ih =>
    obtain ⟨hb, hbs⟩ := List.forall_mem_cons.1 h
    rw [List.map_cons, utf8Chars_cons, hone _ hb, ih hbs, UInt8.ofNat_toNat, List.singleton_append]

end Text

namespace Kind

/-- The extensions of a kind: the texts that are equal to its own up to the case of letters. -/
def Spelled (kind : Kind) (ext : Bytes) : Prop :=
  ∃ s, ext = Text.utf8 s ∧ Text.sameLetters s kind.extension = true

theorem spelled_iff {kind : Kind} {ext : Bytes} :
    kind.Spelled ext ↔ ext.map lowerByte = Text.utf8 kind.extension := by
  have hsmall : Text.lower kind.extension = kind.extension := by cases kind <;> decide
  constructor
  · rintro ⟨s, rfl, hsame⟩
    rw [Text.map_lowerByte_utf8, beq_iff_eq.1 hsame, hsmall]
  · intro h
    have hascii : ∀ b ∈ ext, b.toNat < 128 := by
      intro b hb
      have hlower : ((Text.utf8 kind.extension).all fun b' => b'.toNat < 128) = true := by
        cases kind <;> decide
      by_contra hwide
      -- a byte beyond ASCII is its own small letter, and no extension has one
      have hb' := List.all_eq_true.1 hlower _ (h ▸ List.mem_map_of_mem hb)
      rw [lowerByte_of_le (Nat.le_of_not_lt hwide)] at hb'
      exact hwide (of_decide_eq_true hb')
    have htext := Text.utf8_of_ascii hascii
    refine ⟨_, htext.symm, beq_iff_eq.2 ?_⟩
    rw [hsmall]
    apply Text.utf8_injective
    rw [← Text.map_lowerByte_utf8, htext, h]

/-- Whether a file of this name is of the kind. -/
def Owns (kind : Kind) (name : Bytes) : Prop :=
  ∃ stem ext, Path.Extended name stem ext ∧ kind.Spelled ext

theorem ofPath_eq_some_iff {p : Path} {kind : Kind} :
    ofPath? p = some kind ↔ ∃ name, p.fileName? = some name ∧ kind.Owns name := by
  have hfind (ext : Bytes) :
      (all.find? fun k => ext.map lowerByte == Text.utf8 k.extension) = some kind ↔
        kind.Spelled ext := by
    rw [spelled_iff]
    constructor
    · intro h
      simpa using List.find?_some h
    · intro h
      rw [h]
      cases kind <;> decide
  unfold ofPath? Path.extension?
  cases p.fileName? with
  | none => simp
  | some name =>
    rw [Option.bind_some]
    constructor
    · intro h
      cases hext : Path.suffix? name with
      | none =>
        rw [hext] at h
        cases h
      | some ext =>
        rw [hext] at h
        exact ⟨name, rfl, _, ext, Path.extended_of_suffix hext, (hfind ext).1 h⟩
    · rintro ⟨name', hname, stem, ext, hextended, hspelled⟩
      obtain rfl := Option.some.inj hname
      rw [hextended.suffix]
      exact (hfind ext).2 hspelled

end Kind

namespace Path

variable (dir : Path) {name name' : Bytes}

theorem keys_join (h : IsName name) : (dir.join ⟨name⟩).components.map Component.key =
    dir.components.map Component.key ++ [3 :: name.map UInt8.toNat] := by
  rw [components_name h.1 h.2.1 h.2.2.1 h.2.2.2, List.map_append]
  rfl

theorem keys_join_lt (h : IsName name) (h' : IsName name') (hlt : name < name') :
    (dir.join ⟨name⟩).components.map Component.key <
      (dir.join ⟨name'⟩).components.map Component.key := by
  rw [keys_join dir h, keys_join dir h']
  have hnumbers : name.map UInt8.toNat < name'.map UInt8.toNat :=
    List.map_lt (fun _ _ => UInt8.lt_iff_toNat_lt.1) hlt
  apply List.append_left_lt
  exact List.cons_lt_cons_iff.2 (.inl (List.cons_lt_cons_iff.2 (.inr ⟨rfl, hnumbers⟩)))

/-- Files of one directory are in the order of their names. -/
theorem le_join_iff (h : IsName name) (h' : IsName name') :
    (dir.join ⟨name⟩).le (dir.join ⟨name'⟩) = decide (name ≤ name') := by
  rw [le, ← decide_not, decide_eq_decide, ← List.not_lt, not_iff_not]
  constructor
  · intro hkeys
    rcases Std.lt_trichotomy name name' with hlt | rfl | hlt
    · exact absurd hkeys (List.lt_asymm (keys_join_lt dir h h' hlt))
    · exact absurd hkeys (List.lt_irrefl _)
    · exact hlt
  · exact keys_join_lt dir h' h

end Path

namespace Discovery

variable {w : World} {dir : Path} {kind : Kind} {names names' : List Bytes}

/-- The names of the sources of a kind among those in a directory, in order. -/
def sourceNames (w : World) (dir : Path) (kind : Kind) (names : List Bytes) : List Bytes :=
  (names.filter fun name => w.isFile (dir.join ⟨name⟩) &&
    Kind.ofPath? (dir.join ⟨name⟩) == some kind).mergeSort fun a b => decide (a ≤ b)

theorem sources_eq (hnames : ∀ name ∈ names, IsName name) :
    sources w dir kind names = (sourceNames w dir kind names).map fun name => dir.join ⟨name⟩ := by
  rw [sources, List.filter_map, sourceNames]
  refine (List.map_mergeSort fun a ha b hb => ?_).symm
  exact (Path.le_join_iff dir (hnames a (List.mem_of_mem_filter ha))
    (hnames b (List.mem_of_mem_filter hb))).symm

theorem mem_sourceNames (hnames : ∀ name ∈ names, IsName name) {name : Bytes} :
    name ∈ sourceNames w dir kind names ↔
      name ∈ names ∧ w.isFile (dir.join ⟨name⟩) = true ∧ kind.Owns name := by
  rw [sourceNames, List.mem_mergeSort, List.mem_filter, Bool.and_eq_true, beq_iff_eq,
    Kind.ofPath_eq_some_iff]
  refine and_congr_right fun hname => and_congr_right fun _ => ?_
  rw [(hnames name hname).fileName_join dir]
  simp

theorem pairwise_sourceNames (hnodup : names.Nodup) :
    (sourceNames w dir kind names).Pairwise (· < ·) := by
  have hsorted : (sourceNames w dir kind names).Pairwise fun a b => decide (a ≤ b) = true :=
    List.pairwise_mergeSort (fun a b c hab hbc => by
      simp only [decide_eq_true_eq] at hab hbc ⊢
      exact List.le_trans hab hbc) (fun a b => by
      simpa using List.le_total a b) _
  have hne : (sourceNames w dir kind names).Nodup :=
    (List.mergeSort_perm _ _).nodup_iff.2 (hnodup.filter _)
  refine (hsorted.and hne).imp fun {a b} h => ?_
  obtain ⟨hle, hne⟩ := h
  rcases Std.lt_trichotomy a b with hlt | heq | hlt
  · exact hlt
  · exact absurd heq hne
  · exact absurd hlt (List.not_lt.2 (of_decide_eq_true hle))

theorem sourceNames_perm (hnodup : names.Nodup) (hperm : names'.Perm names) :
    sourceNames w dir kind names' = sourceNames w dir kind names := by
  refine List.Perm.eq_of_pairwise (fun a b _ _ hab hba => ?_)
    (pairwise_sourceNames (hperm.nodup_iff.2 hnodup)) (pairwise_sourceNames hnodup) ?_
  · exact absurd hba (List.lt_asymm hab)
  · exact (List.mergeSort_perm _ _).trans
      ((hperm.filter _).trans (List.mergeSort_perm _ _).symm)

theorem exists_list_of_isDirectory (h : w.isDirectory dir = true) :
    ∃ names, w.list dir = .ok names := by
  unfold World.isDirectory FileTree.isDirectory at h
  unfold World.list FileTree.list
  split at h
  · next l hentry =>
    rw [hentry]
    exact ⟨_, rfl⟩
  · cases h

/-- The case of a file in a directory: its name is that of the file without the extension. -/
def Stands (dir : Path) (kind : Kind) (name : Bytes) (c : Case) : Prop :=
  ∃ stem ext, Path.Extended name stem ext ∧ c = ⟨Text.lossy stem, dir.join ⟨name⟩, kind⟩

/-- What the cases of a kind in a directory are, where `names` are the names in it. -/
structure Inventory (w : World) (dir : Path) (kind : Kind) (names : List Bytes)
    (cs : List Case) : Prop where
  /-- There is one case for each regular file with the extension of the kind, by name. -/
  exact : ∃ found : List Bytes, found.Pairwise (· < ·) ∧
    (∀ name, name ∈ found ↔
      name ∈ names ∧ w.isFile (dir.join ⟨name⟩) = true ∧ kind.Owns name) ∧
    List.Forall₂ (Stands dir kind) found cs
  /-- The names may come in any order. -/
  unordered : ∀ names', names'.Perm names →
    ((sources w dir kind names').map fun p => .ofPath p kind) = cs
  /-- No file is a case of another kind, in this directory or as seen from another one. -/
  exclusive : ∀ dir' other cs', other ≠ kind → cases w dir' other = .ok cs' →
    ∀ c ∈ cs, ∀ c' ∈ cs', ¬c.source.Same c'.source

theorem cases_of_sourceNames (hnames : ∀ name ∈ names, IsName name) :
    List.Forall₂ (Stands dir kind) (sourceNames w dir kind names)
      ((sources w dir kind names).map fun p => .ofPath p kind) := by
  rw [sources_eq hnames, List.map_map, List.forall₂_map_right_iff, List.forall₂_same]
  intro name hname
  obtain ⟨hmem, -, stem, ext, hextended, -⟩ := (mem_sourceNames hnames).1 hname
  refine ⟨stem, ext, hextended, ?_⟩
  rw [Function.comp_apply, Case.ofPath, Path.fileStem?, (hnames name hmem).fileName_join dir,
    Option.map_some, hextended.stem]

theorem not_same_of_cases {dir' : Path} {other : Kind} {cs cs' : List Case}
    (hne : other ≠ kind) (hcases : cases w dir kind = .ok cs)
    (hcases' : cases w dir' other = .ok cs') {c c' : Case} (hc : c ∈ cs) (hc' : c' ∈ cs') :
    ¬c.source.Same c'.source := by
  intro hsame
  obtain ⟨-, -, name, -, rfl, hkind⟩ := exists_name_of_cases hcases hc
  obtain ⟨-, -, name', -, rfl, hkind'⟩ := exists_name_of_cases hcases' hc'
  -- spellings of one path have one file name, and the kind goes by that name
  have hone := Kind.ofPath_congr (Path.fileName_congr hsame)
  exact hne (Option.some.inj (hkind'.symm.trans (hone.symm.trans hkind)))

/-- The cases of a kind are found in every directory, and they are exactly its files. -/
theorem inventory_of_directory (hdir : w.isDirectory dir = true)
    (hnames : ∀ names, w.list dir = .ok names → ∀ name ∈ names, IsName name) (kind : Kind) :
    ∃ names cs, w.list dir = .ok names ∧ cases w dir kind = .ok cs ∧
      Inventory w dir kind names cs := by
  obtain ⟨names, hlist⟩ := exists_list_of_isDirectory hdir
  have hcases : cases w dir kind = .ok ((sources w dir kind names).map fun p => .ofPath p kind) :=
    cases_of_list hdir hlist
  have hnames := hnames names hlist
  have hnodup : names.Nodup := FileTree.nodup_of_list hlist
  refine ⟨names, _, hlist, hcases, ?_, ?_, ?_⟩
  · exact ⟨sourceNames w dir kind names, pairwise_sourceNames hnodup,
      fun _ => mem_sourceNames hnames, cases_of_sourceNames hnames⟩
  · intro names' hperm
    have hnames' : ∀ name ∈ names', IsName name := fun name h => hnames name (hperm.mem_iff.1 h)
    rw [sources_eq hnames', sources_eq hnames, sourceNames_perm hnodup hperm]
  · exact fun dir' other cs' hne hcases' c hc c' hc' => not_same_of_cases hne hcases hcases' hc hc'

/-- A directory with a source in capitals, a dot file, a link to a text and another directory. -/
def mixedWorld : World :=
  let w := rootWorld ["queue.c", "Heap.C", "a.b.c", ".c", "notes.txt", "arr.mbt"]
  { w with
    files := (w.files.insert [Text.utf8 "nested.c"] .directory).insert [Text.utf8 "link.mbt"]
      (.symlink (.ofText "notes.txt")) }

theorem inventory_of_mixed : mixedWorld.isDirectory (.ofText ".") = true ∧
    ∃ names cs, mixedWorld.list (.ofText ".") = .ok names ∧
      cases mixedWorld (.ofText ".") .c = .ok cs ∧
      Inventory mixedWorld (.ofText ".") .c names cs := by
  have hdir : mixedWorld.isDirectory (.ofText ".") = true := by decide
  have hlist : mixedWorld.list (.ofText ".") = .ok ([".c", "Heap.C", "a.b.c", "arr.mbt",
      "link.mbt", "nested.c", "notes.txt", "queue.c"].map Text.utf8) := by decide
  refine ⟨hdir, inventory_of_directory hdir ?_ .c⟩
  intro names hnames
  obtain rfl := Except.ok.inj (hlist.symm.trans hnames)
  unfold IsName
  decide

end Discovery

end Crosscheck
