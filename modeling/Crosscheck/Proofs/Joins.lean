import Crosscheck.Path

/-!
# Joined paths

The components of a path are those that its pieces stand for, after the root of an absolute path or
the dot that a relative one begins with. A path that begins with neither adds its components to
those of the path that it is joined to. What is joined to an absolute path is absolute.
-/

namespace Crosscheck

namespace Path

variable {p q : Path}

/-- What the pieces of a path stand for. -/
def names (p : Path) : List Component := (pieces slash p.bytes).filterMap Component.ofPiece?

/-- What comes before the names. -/
def origin (p : Path) : List Component :=
  if p.isAbsolute then [.root]
  else if (pieces slash p.bytes).head? = some [dot] then [.current]
  else []

theorem components_eq (p : Path) : p.components = p.origin ++ p.names := by
  unfold components origin
  dsimp only
  split
  · rfl
  · split <;> rfl

theorem fileName_congr (h : p.Same q) : p.fileName? = q.fileName? := by
  rw [fileName?, fileName?, show p.components = q.components from h]

theorem eq_of_mem_names {c : Component} (h : c ∈ p.names) : c ≠ .root ∧ c ≠ .current := by
  obtain ⟨piece, -, hpiece⟩ := List.mem_filterMap.1 h
  unfold Component.ofPiece? at hpiece
  split at hpiece
  · cases hpiece
  · split at hpiece <;> cases hpiece <;> simp

/-- Two spellings of one path start in one place and have the same names. -/
theorem congr_of_same (h : p.Same q) : p.isAbsolute = q.isAbsolute ∧ p.names = q.names := by
  have hfilter (r : Path) :
      r.components.filter (fun c => c ≠ .root ∧ c ≠ .current) = r.names := by
    have horigin : r.origin.filter (fun c => c ≠ .root ∧ c ≠ .current) = [] := by
      unfold origin
      split
      · simp
      · split <;> simp
    rw [components_eq, List.filter_append, horigin, List.nil_append, List.filter_eq_self]
    intro c hc
    exact decide_eq_true (eq_of_mem_names hc)
  have hroot (r : Path) : r.isAbsolute = true ↔ .root ∈ r.components := by
    rw [components_eq, List.mem_append]
    have hnames : .root ∉ r.names := fun hmem => (eq_of_mem_names hmem).1 rfl
    simp only [hnames, or_false]
    unfold origin
    split
    · next habsolute => simp [habsolute]
    · next habsolute => split <;> simp [habsolute]
  have hcomponents : p.components = q.components := h
  refine ⟨Bool.eq_iff_iff.2 ?_, ?_⟩
  · rw [hroot, hroot, hcomponents]
  · rw [← hfilter p, ← hfilter q, hcomponents]

theorem fileName_of_names {front : List Component} {last : Bytes}
    (h : p.names = front ++ [.normal last]) : p.fileName? = some last := by
  rw [fileName?, components_eq, h, ← List.append_assoc, List.getLast?_concat]

theorem ofPiece_of_ne {name : Bytes} (hne : name ≠ []) (hdot : name ≠ [dot])
    (hdots : name ≠ [dot, dot]) : Component.ofPiece? name = some (.normal name) := by
  simp only [Component.ofPiece?, hne, hdot, hdots, if_false, decide_false, Bool.or_self,
    Bool.false_eq_true]

theorem eq_of_ofPiece {piece name : Bytes} (h : Component.ofPiece? piece = some (.normal name)) :
    piece = name ∧ name ≠ [] := by
  unfold Component.ofPiece? at h
  split at h
  · cases h
  · next hpiece =>
    split at h
    · cases h
    · cases h
      refine ⟨rfl, ?_⟩
      rintro rfl
      exact hpiece rfl

/-- The name of a file is a piece of its path. -/
theorem piece_of_fileName {name : Bytes} (h : p.fileName? = some name) :
    name ∈ pieces slash p.bytes ∧ name ≠ [] := by
  have hmem : .normal name ∈ p.origin ++ p.names := by
    unfold fileName? at h
    split at h
    · next hlast =>
      cases h
      rw [← components_eq]
      exact List.mem_of_getLast? hlast
    · cases h
  have horigin : .normal name ∉ p.origin := by
    unfold origin
    split
    · simp
    · split <;> simp
  obtain ⟨piece, hpiece, hname⟩ :=
    List.mem_filterMap.1 ((List.mem_append.1 hmem).resolve_left horigin)
  obtain ⟨rfl, hne⟩ := eq_of_ofPiece hname
  exact ⟨hpiece, hne⟩

theorem isAbsolute_of_not_mem {name : Bytes} (h : slash ∉ name) :
    (⟨name⟩ : Path).isAbsolute = false := by
  cases name with
  | nil => simp [isAbsolute]
  | cons b bs => simpa [isAbsolute] using fun hb : b = slash => h (hb ▸ List.mem_cons_self)

theorem isAbsolute_of_origin (h : q.origin = []) : q.isAbsolute = false := by
  unfold origin at h
  split at h
  · cases h
  · next habsolute => simpa using habsolute

theorem isAbsolute_join (p q : Path) :
    (p.join q).isAbsolute = (p.isAbsolute || q.isAbsolute) := by
  unfold join
  by_cases hq : q.isAbsolute = true
  · rw [if_pos hq, hq, Bool.or_true]
  rw [if_neg hq, Bool.eq_false_iff.2 hq, Bool.or_false]
  cases hbytes : p.bytes with
  | nil => simpa [isAbsolute, hbytes] using hq
  | cons b bs => split <;> simp [isAbsolute, hbytes]

/-- A relative path stands behind a slash of the path that it is joined to, or behind one that is
put in between. -/
theorem exists_join (hq : q.isAbsolute = false) (hp : p.bytes ≠ []) :
    ∃ front, (p.join q).bytes = front ++ slash :: q.bytes ∧
      (p.bytes = front ∨ p.bytes = front ++ [slash]) := by
  unfold join
  rw [if_neg (by simp [hq])]
  by_cases hend : p.endsInSlash = true
  · obtain ⟨front, b, hbytes⟩ := (p.bytes.eq_nil_or_concat).resolve_left hp
    have hb : b = slash := by simpa [endsInSlash, hbytes] using hend
    rw [List.concat_eq_append, hb] at hbytes
    refine ⟨front, ?_, .inr hbytes⟩
    rw [if_pos (by simp [hend]), hbytes, List.append_assoc, List.singleton_append]
  · refine ⟨p.bytes, ?_, .inl rfl⟩
    rw [if_neg (by simp [hp, hend])]

theorem names_of_front {front : Bytes} (h : p.bytes = front ∨ p.bytes = front ++ [slash]) :
    p.names = (pieces slash front).filterMap Component.ofPiece? := by
  rcases h with h | h
  · rw [names, h]
  · rw [names, h, pieces_append_sep, List.filterMap_append]
    simp [pieces, Component.ofPiece?]

theorem origin_of_front {front : Bytes} (hp : p.bytes ≠ [])
    (h : p.bytes = front ∨ p.bytes = front ++ [slash]) (bs : Bytes) :
    (⟨front ++ slash :: bs⟩ : Path).origin = p.origin := by
  obtain ⟨piece, more, hpieces⟩ := List.exists_cons_of_ne_nil (pieces_ne_nil slash front)
  have habsolute : (⟨front ++ slash :: bs⟩ : Path).isAbsolute = p.isAbsolute := by
    cases front with
    | nil =>
      rcases h with h | h
      · exact absurd h hp
      · simp [isAbsolute, h]
    | cons b front => rcases h with h | h <;> simp [isAbsolute, h]
  have hhead : (pieces slash (front ++ slash :: bs)).head? = (pieces slash p.bytes).head? := by
    rw [pieces_append_sep, hpieces]
    rcases h with h | h
    · rw [h, hpieces]
      rfl
    · rw [h, pieces_append_sep, hpieces]
      rfl
  rw [origin, origin, habsolute, hhead]

theorem components_join (hq : q.origin = []) :
    (p.join q).components = p.components ++ q.components := by
  have hrelative := isAbsolute_of_origin hq
  by_cases hp : p.bytes = []
  · have hjoin : p.join q = q := by simp [join, hrelative, hp]
    have hnone : p.components = [] := by
      simp [components, isAbsolute, hp, pieces, Component.ofPiece?]
    rw [hjoin, hnone, List.nil_append]
  · obtain ⟨front, hjoin, hfront⟩ := exists_join hrelative hp
    have horigin := origin_of_front hp hfront q.bytes
    rw [← hjoin] at horigin
    have hnames : (p.join q).names = p.names ++ q.names := by
      rw [names, hjoin, pieces_append_sep, List.filterMap_append, names_of_front hfront, names]
    rw [components_eq, horigin, hnames, components_eq p, components_eq q, hq, List.nil_append,
      List.append_assoc]

/-- A single name adds itself. -/
theorem components_name {name : Bytes} (hslash : slash ∉ name) (hne : name ≠ [])
    (hdot : name ≠ [dot]) (hdots : name ≠ [dot, dot]) (p : Path) :
    (p.join ⟨name⟩).components = p.components ++ [.normal name] := by
  have hpieces : pieces slash name = [name] := pieces_of_not_mem hslash
  have horigin : (⟨name⟩ : Path).origin = [] := by
    rw [origin, isAbsolute_of_not_mem hslash, hpieces]
    simp [hdot]
  have hnames : (⟨name⟩ : Path).names = [.normal name] := by
    rw [names, hpieces, List.filterMap_cons_some (ofPiece_of_ne hne hdot hdots), List.filterMap_nil]
  rw [components_join horigin, components_eq ⟨name⟩, horigin, hnames, List.nil_append]

/-- A file given by its name alone has that name wherever it lies. -/
theorem fileName_join (hone : q.components.length = 1) {name : Bytes}
    (hname : q.fileName? = some name) : (p.join q).fileName? = some name := by
  obtain ⟨c, hc⟩ := List.length_eq_one_iff.1 hone
  have hnormal : c = .normal name := by
    rw [fileName?, hc] at hname
    cases c <;> cases hname
    rfl
  -- the one component is a name, so neither the root nor a dot comes before it
  have horigin : q.origin = [] := by
    have hparts := components_eq q
    rw [hc, hnormal] at hparts
    unfold origin at hparts ⊢
    split
    · next habsolute =>
      rw [if_pos habsolute] at hparts
      cases hparts
    · next habsolute =>
      rw [if_neg habsolute] at hparts
      split
      · next hdot =>
        rw [if_pos hdot] at hparts
        cases hparts
      · rfl
  rw [fileName?, components_join horigin, hc, List.getLast?_concat, hnormal]

theorem isAbsolute_ofComponents {start : Path} (h : start.isAbsolute = true)
    (cs : List Component) : (ofComponents start cs).isAbsolute = true := by
  induction cs generalizing start with
  | nil => exact h
  | cons c cs ih => exact ih (by rw [isAbsolute_join, h, Bool.true_or])

/-- A path seen from an absolute directory is absolute. -/
theorem isAbsolute_absolute {cwd dir : Path} (hcwd : cwd.isAbsolute = true)
    (h : absolute? cwd p = some dir) : dir.isAbsolute = true := by
  unfold absolute? at h
  split at h
  · cases h
  · dsimp only at h
    obtain rfl := Option.some.inj h
    have hfull : (if p.startsInTwoSlashes then
          ofComponents ⟨[slash, slash]⟩ ((p.components.filter (· ≠ .current)).drop 1)
        else if p.isAbsolute then ofComponents ⟨[]⟩ (p.components.filter (· ≠ .current))
        else ofComponents cwd (p.components.filter (· ≠ .current))).isAbsolute = true := by
      split
      · exact isAbsolute_ofComponents (by decide) _
      · split
        · next habsolute =>
          rw [components_eq, origin, if_pos habsolute]
          have hroot : ((⟨[]⟩ : Path).join ⟨[slash]⟩).isAbsolute = true := by decide
          exact isAbsolute_ofComponents hroot _
        · exact isAbsolute_ofComponents hcwd _
    split
    · rw [isAbsolute_join, hfull, Bool.true_or]
    · exact hfull

end Path

end Crosscheck
