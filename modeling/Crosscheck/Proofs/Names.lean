import Crosscheck.Case
import Crosscheck.Proofs.Products

/-!
# Names of cases

A case is named after a file, so its name holds no slash, whatever the bytes of the file name are
read as. Artifacts of cases with different names lie at different spots.
-/

namespace Crosscheck

namespace Text

theorem utf8_injective {a b : String} (h : utf8 a = utf8 b) : a = b := by
  have hbytes : a.toList.utf8Encode = b.toList.utf8Encode := congrArg List.toByteArray h
  rwa [String.utf8Encode_toList, String.utf8Encode_toList, String.toByteArray_inj] at hbytes

theorem ne_slash_of_le {n : Nat} (h : 128 ≤ n % 256) : slash ≠ UInt8.ofNat n := by
  intro heq
  have hn : (47 : Nat) = n % 256 := by simpa [slash] using congrArg UInt8.toNat heq
  omega

/-- Only a slash is written with the byte of a slash. -/
theorem eq_slash_of_mem_encode {c : Char} (h : slash ∈ String.utf8EncodeChar c) : c = '/' := by
  unfold String.utf8EncodeChar at h
  simp only at h
  split at h
  · next hascii =>
    have hbyte : (47 : Nat) = c.val.toNat % 256 := by
      simpa [slash] using congrArg UInt8.toNat (List.mem_singleton.1 h)
    refine Char.ext (UInt32.toNat_inj.1 ?_)
    rw [show ('/' : Char).val.toNat = 47 from rfl]
    omega
  -- Every byte of a longer sequence has its highest bit set.
  · exfalso
    split at h
    · simp only [List.mem_cons, List.not_mem_nil, or_false] at h
      rcases h with h | h <;> exact ne_slash_of_le (by omega) h
    · split at h
      · simp only [List.mem_cons, List.not_mem_nil, or_false] at h
        rcases h with h | h | h <;> exact ne_slash_of_le (by omega) h
      · simp only [List.mem_cons, List.not_mem_nil, or_false] at h
        rcases h with h | h | h | h <;> exact ne_slash_of_le (by omega) h

theorem slash_mem_of_mem_utf8 {s : String} (h : slash ∈ utf8 s) : '/' ∈ s.toList := by
  obtain ⟨c, hc, hmem⟩ := List.mem_flatMap.1 h
  exact eq_slash_of_mem_encode hmem ▸ hc

/-- What is pending comes out above the ASCII characters: its bits say so already, or the next byte
will. -/
def Reading.Wide : Reading → Prop
  | .fresh => True
  | .pending bits next later =>
    0x80 ≤ next.low.toNat ∧ next.high.toNat ≤ 0xBF ∧ (∀ r ∈ later, r = .tail) ∧
      (2 ≤ bits ∨ later ≠ [] ∧ (1 ≤ bits ∨ 0x90 ≤ next.low.toNat))

theorem eq_of_ofNat_eq_slash {n : Nat} (h : Char.ofNat n = '/') : n = 47 := by
  by_cases hvalid : n.isValidChar
  · rw [← toNat_ofNat hvalid, h]
    rfl
  · rw [Char.ofNat, dif_neg hvalid] at h
    cases h

theorem lead_wide {b : UInt8} {bits : Nat} {next : ByteRange} {later : List ByteRange}
    (h : lead? b = some (bits, next :: later)) : (Reading.pending bits next later).Wide := by
  unfold lead? at h
  simp only [Bool.and_eq_true, decide_eq_true_eq, UInt8.le_iff_toNat_le, UInt8.reduceToNat] at h
  repeat' split at h
  all_goals simp only [Option.some.injEq, Prod.mk.injEq, List.cons.injEq, reduceCtorEq] at h
  all_goals obtain ⟨rfl, rfl, rfl⟩ := h
  all_goals refine ⟨by decide, by decide, by simp, ?_⟩
  · exact .inl (by omega)
  · exact .inr ⟨by simp, .inr (by decide)⟩
  · exact .inl (by decide)
  · exact .inr ⟨by simp, .inl (by omega)⟩
  · exact .inr ⟨by simp, .inr (by decide)⟩
  · exact .inr ⟨by simp, .inl (by omega)⟩
  · exact .inl (by decide)

theorem readFresh_wide (b : UInt8) :
    (readFresh b).2.Wide ∧ ('/' ∈ (readFresh b).1 → b = slash) := by
  unfold readFresh
  split
  · refine ⟨trivial, fun h => ?_⟩
    have hb := eq_of_ofNat_eq_slash (List.mem_singleton.1 h).symm
    exact UInt8.toNat_inj.1 hb
  · split
    · next hlead => exact ⟨lead_wide hlead, by simp⟩
    · exact ⟨trivial, by simp [replacement]⟩

theorem step_wide {r : Reading} (hr : r.Wide) (b : UInt8) :
    (r.step b).2.Wide ∧ ('/' ∈ (r.step b).1 → b = slash) := by
  cases r with
  | fresh => exact readFresh_wide b
  | pending bits next later =>
    obtain ⟨hlow, hhigh, hlater, hbits⟩ := hr
    simp only [Reading.step]
    split
    · next hholds =>
      simp only [ByteRange.holds, Bool.and_eq_true, decide_eq_true_eq, UInt8.le_iff_toNat_le]
        at hholds
      have hbyte : b.toNat % 64 = b.toNat - 0x80 := by omega
      cases later with
      | nil =>
        refine ⟨trivial, fun h => ?_⟩
        have hslash := eq_of_ofNat_eq_slash (List.mem_singleton.1 h).symm
        obtain hbits | ⟨hnil, -⟩ := hbits
        · omega
        · exact absurd rfl hnil
      | cons next' later =>
        obtain rfl : next' = .tail := hlater next' List.mem_cons_self
        have hlater' : ∀ r ∈ later, r = .tail := fun r hr => hlater r (List.mem_cons_of_mem _ hr)
        refine ⟨⟨by decide, by decide, hlater', .inl ?_⟩, by simp⟩
        omega
    · obtain ⟨hwide, hslash⟩ := readFresh_wide b
      refine ⟨hwide, fun h => ?_⟩
      rcases List.mem_cons.1 h with h | h
      · cases h
      · exact hslash h

theorem slash_mem_of_mem_readFrom {r : Reading} (hr : r.Wide) {bs : Bytes}
    (h : '/' ∈ readFrom r bs) : slash ∈ bs := by
  induction bs generalizing r with
  | nil => cases r <;> simp [readFrom, Reading.finish, replacement] at h
  | cons b bs ih =>
    obtain ⟨hwide, hslash⟩ := step_wide hr b
    rcases List.mem_append.1 h with h | h
    · exact hslash h ▸ List.mem_cons_self
    · exact List.mem_cons_of_mem b (ih hwide h)

/-- Reading makes up no slashes. -/
theorem slash_not_mem_lossy {bs : Bytes} (h : slash ∉ bs) : slash ∉ utf8 (lossy bs) := by
  intro hmem
  have hread := slash_mem_of_mem_utf8 hmem
  rw [toList_lossy] at hread
  exact h (slash_mem_of_mem_readFrom (r := .fresh) trivial hread)

theorem readFrom_pending_ne_nil (bits : Nat) (next : ByteRange) (later : List ByteRange)
    (bs : Bytes) : readFrom (.pending bits next later) bs ≠ [] := by
  induction bs generalizing bits next later with
  | nil => exact List.cons_ne_nil _ _
  | cons b bs ih =>
    simp only [readFrom, Reading.step]
    split
    · cases later with
      | nil => exact List.cons_ne_nil _ _
      | cons next' later => exact ih _ _ _
    · exact List.cons_ne_nil _ _

/-- Reading loses no bytes without a trace. -/
theorem lossy_ne_empty {bs : Bytes} (h : bs ≠ []) : lossy bs ≠ "" := by
  intro hempty
  have hchars := congrArg String.toList hempty
  rw [toList_lossy] at hchars
  obtain ⟨b, bs, rfl⟩ := List.exists_cons_of_ne_nil h
  simp only [lossyChars, readFrom, Reading.step, readFresh] at hchars
  split at hchars
  · cases hchars
  · split at hchars
    · exact readFrom_pending_ne_nil _ _ _ bs hchars
    · cases hchars

end Text

namespace Path

theorem slash_not_mem_fileName {p : Path} {name : Bytes} (h : p.fileName? = some name) :
    slash ∉ name :=
  not_mem_of_mem_pieces (piece_of_fileName h).1

theorem stem_subset (name : Bytes) : stem name ⊆ name := by
  intro b hb
  unfold stem at hb
  split at hb
  · next front rest suffix hsplit =>
    unfold splitLastDot? at hsplit
    split at hsplit
    · simp only [Option.some.injEq, Prod.mk.injEq] at hsplit
      rw [← hsplit.1, List.mem_reverse] at hb
      exact List.mem_reverse.1 ((List.dropWhile_sublist _).subset (List.mem_of_mem_tail hb))
    · cases hsplit
  · exact hb

end Path

theorem Path.stem_ne_nil {name : Bytes} (h : name ≠ []) : stem name ≠ [] := by
  unfold stem
  split
  · exact List.cons_ne_nil _ _
  · exact h

/-- The name of a case holds no slash. -/
def Case.WellNamed (c : Case) : Prop := slash ∉ Text.utf8 c.name

/-- Every case that is made of a path is well named. -/
theorem Case.wellNamed_ofPath (source : Path) (kind : Kind) :
    (Case.ofPath source kind).WellNamed := by
  unfold WellNamed ofPath Path.fileStem?
  cases hname : source.fileName? with
  | none =>
    have hunnamed : slash ∉ Text.utf8 Case.unnamed := by decide
    exact hunnamed
  | some name =>
    refine Text.slash_not_mem_lossy fun hmem => ?_
    exact Path.slash_not_mem_fileName hname (Path.stem_subset name hmem)

namespace Products

open FileTree

theorem pieces_join (workDir : Path) {bs : Bytes} (h : slash ∉ bs) :
    ∃ front, pieces slash (workDir.join ⟨bs⟩).bytes = front ++ [bs] := by
  have hrelative := Path.isAbsolute_of_not_mem h
  by_cases hdir : workDir.bytes = []
  · exact ⟨[], by simp [Path.join, hrelative, hdir, pieces_of_not_mem h]⟩
  · obtain ⟨front, hjoin, -⟩ := Path.exists_join hrelative hdir
    exact ⟨_, by rw [hjoin, pieces_append_sep, pieces_of_not_mem h]⟩

theorem named_of_not_mem (workDir : Path) {name : String} (target : Target) {suffix : String}
    (hname : slash ∉ Text.utf8 name) (h : suffix ∈ suffixes) : ∃ names,
    Named (place workDir name target suffix) names (Text.utf8 name ++ tail target suffix) := by
  obtain ⟨front, hpieces⟩ := pieces_join workDir hname
  exact ⟨_, named_place workDir name target h hpieces⟩

/-- The last name of an artifact tells its case, its target and what it is for. -/
theorem eq_of_append_tail {name name' : String} {target target' : Target} {suffix suffix' : String}
    (h : suffix ∈ suffixes) (h' : suffix' ∈ suffixes)
    (hlast : Text.utf8 name ++ tail target suffix = Text.utf8 name' ++ tail target' suffix') :
    name = name' ∧ target = target' ∧ suffix = suffix' := by
  have hends : tail target suffix <:+ Text.utf8 name' ++ tail target' suffix' :=
    hlast ▸ List.suffix_append _ _
  obtain ⟨rfl, rfl⟩ : target = target' ∧ suffix = suffix' := by
    rcases List.suffix_or_suffix_of_suffix hends (List.suffix_append _ _) with hle | hle
    · exact eq_of_tail_suffix h h' hle
    · exact (eq_of_tail_suffix h' h hle).imp Eq.symm Eq.symm
  exact ⟨Text.utf8_injective (List.append_cancel_right hlast), rfl, rfl⟩

/-- Only artifacts of one case lie at one spot. -/
theorem eq_of_spot_eq {t : FileTree} {here l : Location} {workDir : Path} {name name' : String}
    {target : Target} (hname : slash ∉ Text.utf8 name) (hname' : slash ∉ Text.utf8 name')
    {p q : Path} (hp : p ∈ (ofCase workDir name target).toList)
    (hq : q ∈ (ofCase workDir name' target).toList) (hpl : t.spot? here p = some l)
    (hql : t.spot? here q = some l) : name = name' := by
  obtain ⟨suffix, hsuffix, rfl⟩ := mem_toList_iff.1 hp
  obtain ⟨suffix', hsuffix', rfl⟩ := mem_toList_iff.1 hq
  obtain ⟨names, hnamed⟩ := named_of_not_mem workDir target hname hsuffix
  obtain ⟨names', hnamed'⟩ := named_of_not_mem workDir target hname' hsuffix'
  obtain ⟨-, -, d, -, rfl⟩ := (spot_eq_some_iff hnamed).1 hpl
  obtain ⟨-, -, d', -, hl⟩ := (spot_eq_some_iff hnamed').1 hql
  have hlast : Text.utf8 name ++ tail target suffix = Text.utf8 name' ++ tail target suffix' :=
    (List.append_inj' hl rfl).2 |> List.singleton_inj.1
  exact (eq_of_append_tail hsuffix hsuffix' hlast).1

end Products

end Crosscheck
