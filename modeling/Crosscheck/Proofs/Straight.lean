import Crosscheck.Proofs.Joins
import Crosscheck.Proofs.Spot
import Crosscheck.Proofs.Strides

/-!
# Paths through no link

A path is straight if none of the names before its last is that of a link. Where straight paths lead
is not changed by the removal of an entry that is no directory, but for the paths that lead to that
entry. Two spellings of one path lead to one entry if neither asks for a directory at its end.
-/

namespace Crosscheck

namespace FileTree

/-- How names are followed where no link is followed at all. -/
def trace (t : FileTree) (here : Location) (names : List Bytes) : Except OsError Place :=
  t.walk false 0 here names

/-- Whether names lead through no link. -/
def Clear (t : FileTree) (here : Location) (names : List Bytes) : Prop :=
  t.trace here names ≠ .error .tooManyLinks

instance (t : FileTree) (here : Location) (names : List Bytes) : Decidable (t.Clear here names) :=
  match h : t.trace here names with
  | .ok _ => .isTrue fun heq => nomatch h.symm.trans heq
  | .error cause =>
    if hcause : cause = .tooManyLinks then .isFalse fun hne => hne (hcause ▸ h)
    else .isTrue fun heq => hcause (Except.error.inj (h.symm.trans heq))

def Straight (t : FileTree) (here : Location) (p : Path) : Prop :=
  t.Clear (startOf here p) (steps p)

instance (t : FileTree) (here : Location) (p : Path) : Decidable (t.Straight here p) :=
  inferInstanceAs (Decidable (t.Clear _ _))

variable {t : FileTree} {here l : Location} {names : List Bytes} {e : Entry}

theorem trace_cons (t : FileTree) (here : Location) (step : Bytes) (rest : List Bytes) :
    t.trace here (step :: rest) =
      match t.stride false here step rest.isEmpty with
      | .on l => t.trace l rest
      | .via _ => .error .tooManyLinks
      | .stop r => r :=
  walkWith_cons _ rest

theorem walkWith_of_clear (h : t.Clear here names)
    (onLink : Location → List Bytes → Except OsError Place) :
    t.walkWith false onLink here names = t.trace here names := by
  induction names generalizing here with
  | nil => rfl
  | cons step rest ih =>
    rw [Clear, trace_cons] at h
    rw [walkWith_cons, trace_cons]
    cases hstride : t.stride false here step rest.isEmpty with
    | on l =>
      rw [hstride] at h
      exact ih h
    | via target =>
      rw [hstride] at h
      exact absurd rfl h
    | stop r => rfl

theorem walk_of_clear (h : t.Clear here names) (links : Nat) :
    t.walk false links here names = t.trace here names := by
  cases links with
  | zero => rfl
  | succ links => exact walkWith_of_clear h _

theorem entry_of_straight {p : Path} (h : t.Straight here p) :
    t.entry here false p = .ok (l, e) ↔
      Usable p ∧ t.trace (startOf here p) (steps p) = .ok (.found l e) := by
  have hlocate : t.locate here false p = .ok (.found l e) ↔
      Usable p ∧ t.trace (startOf here p) (steps p) = .ok (.found l e) := by
    unfold locate Usable
    by_cases hzero : 0 ∈ p.bytes
    · simp [hzero]
    by_cases hempty : p.bytes = []
    · simp [hempty]
    by_cases hlimit : pathLimit ≤ p.bytes.length
    · simp [hzero, hempty, hlimit, Nat.not_lt.2 hlimit]
    rw [if_neg hzero, if_neg hempty, if_neg hlimit, walk_of_clear h maxLinks]
    simp only [hzero, hempty, Nat.not_le.1 hlimit, ne_eq, not_false_eq_true, and_self, true_and]
  rw [← hlocate, entry]
  split
  · next l' e' hplace => simp [hplace]
  · next hplace => simp [hplace]
  · next hplace => simp [hplace]

section erase

variable {k : Location} {e₀ : Entry}

/-- The removal of an entry makes a difference to a name only where the name is that of the
entry. -/
theorem stride_erase (hk : t.get? k = some e₀) (he₀ : e₀ ≠ .directory) (here : Location)
    (step : Bytes) (last : Bool) :
    (t.erase k).stride false here step last = t.stride false here step last ∨
      (∃ r, (t.erase k).stride false here step last = .stop r ∧ r ≠ .error .tooManyLinks ∧
        ∀ l e, r ≠ .ok (.found l e)) ∧
      (∀ l, t.stride false here step last ≠ .on l) ∧
      ∀ l e, t.stride false here step last = .stop (.ok (.found l e)) → l = k := by
  by_cases hhere : here ++ [step] = k
  · by_cases hdot : step = [dot]
    · simp [stride, hdot]
    by_cases hdots : step = [dot, dot]
    · simp [stride, hdots]
    by_cases hlong : maxName < step.length
    · simp [stride, hdot, hdots, hlong]
    refine .inr ⟨⟨if last then .ok (.vacant here step) else .error .notFound, ?_, ?_, ?_⟩, ?_, ?_⟩
    · simp [stride, hdot, hdots, hlong, hhere]
    · cases last <;> simp [OsError.notFound, OsError.tooManyLinks]
    · cases last <;> simp
    · intro l
      cases e₀ with
      | directory => exact absurd rfl he₀
      | symlink target => cases last <;> simp [stride, hdot, hdots, hlong, hhere, hk]
      | file data mode => simp [stride, hdot, hdots, hlong, hhere, hk]
      | device d => simp [stride, hdot, hdots, hlong, hhere, hk]
    · intro l e hstop
      exact (of_stride_found hstop).2.1.trans hhere
  · left
    unfold stride
    rw [get?_erase, if_neg hhere]

/-- What names lead to through no link, they still lead to once another entry is removed. -/
theorem trace_erase (hk : t.get? k = some e₀) (he₀ : e₀ ≠ .directory) (h : t.Clear here names) :
    (t.erase k).Clear here names ∧ ∀ l e, e ≠ .directory →
      ((t.erase k).trace here names = .ok (.found l e) ↔
        t.trace here names = .ok (.found l e) ∧ l ≠ k) := by
  induction names generalizing here with
  | nil =>
    refine ⟨h, fun l e he => ?_⟩
    have hdirectory (s : FileTree) : s.trace here [] ≠ .ok (.found l e) := by
      intro heq
      cases heq
      exact he rfl
    simp [hdirectory]
  | cons step rest ih =>
    simp only [Clear, trace_cons] at h ⊢
    rcases stride_erase hk he₀ here step rest.isEmpty with
      hequal | ⟨⟨r, hr, hlinks, hfound⟩, hon, hk'⟩
    · rw [hequal]
      cases hstride : t.stride false here step rest.isEmpty with
      | on l =>
        rw [hstride] at h
        exact ih h
      | via target =>
        rw [hstride] at h
        exact absurd rfl h
      | stop r =>
        rw [hstride] at h
        refine ⟨h, fun l e he => ⟨fun hr => ⟨hr, ?_⟩, And.left⟩⟩
        -- what is found in the smaller tree is not the entry that is missing there
        have hget := (of_stride_found (hequal.trans (hstride.trans (congrArg Stride.stop hr)))).1
        rintro rfl
        simp at hget
    · rw [hr]
      refine ⟨hlinks, fun l e he => ⟨fun heq => absurd heq (hfound l e), ?_⟩⟩
      rintro ⟨heq, hne⟩
      cases hstride : t.stride false here step rest.isEmpty with
      | on l => exact absurd hstride (hon l)
      | via target =>
        rw [hstride] at heq
        cases heq
      | stop r' =>
        rw [hstride] at heq
        exact absurd (hk' l e (hstride.trans (congrArg Stride.stop heq))) hne

theorem Straight.erase {p : Path} (h : t.Straight here p) (hk : t.get? k = some e₀)
    (he₀ : e₀ ≠ .directory) : (t.erase k).Straight here p :=
  (trace_erase hk he₀ h).1

theorem entry_erase {p : Path} (h : t.Straight here p) (hk : t.get? k = some e₀)
    (he₀ : e₀ ≠ .directory) (he : e ≠ .directory) :
    (t.erase k).entry here false p = .ok (l, e) ↔ t.entry here false p = .ok (l, e) ∧ l ≠ k := by
  rw [entry_of_straight (h.erase hk he₀), entry_of_straight h, (trace_erase hk he₀ h).2 l e he,
    and_assoc]

end erase

/-- Whether the system takes a path, and what it leads to need not be a directory. -/
def Direct (p : Path) : Prop := Usable p ∧ (steps p).getLast? ≠ some [dot]

instance (p : Path) : Decidable (Direct p) :=
  inferInstanceAs (Decidable (_ ∧ _))

theorem trace_filter (h : t.Clear here names) (hlast : names.getLast? ≠ some [dot]) :
    t.trace here (names.filter (· ≠ [dot])) = t.trace here names := by
  induction names generalizing here with
  | nil => rfl
  | cons step rest ih =>
    have hrest : rest.getLast? ≠ some [dot] := by
      intro heq
      refine hlast ?_
      cases rest with
      | nil => cases heq
      | cons name rest => rwa [List.getLast?_cons_cons]
    rw [Clear, trace_cons] at h
    by_cases hdot : step = [dot]
    · have hstride : t.stride false here step rest.isEmpty = .on here := if_pos hdot
      rw [hstride] at h
      rw [List.filter_cons_of_neg (by simpa using hdot), trace_cons, hstride]
      exact ih h hrest
    · have hempty : (rest.filter (· ≠ [dot])).isEmpty = rest.isEmpty := by
        cases hend : rest.getLast? with
        | none => rw [List.getLast?_eq_none_iff.1 hend, List.filter_nil]
        | some last =>
          have hmem : last ∈ rest.filter (· ≠ [dot]) :=
            List.mem_filter.2 ⟨List.mem_of_getLast? hend, by simpa [hend] using hrest⟩
          rw [List.isEmpty_eq_false_iff.2 (List.ne_nil_of_mem hmem),
            List.isEmpty_eq_false_iff.2 (List.ne_nil_of_mem (List.mem_of_getLast? hend))]
      rw [List.filter_cons_of_pos (by simpa using hdot), trace_cons, trace_cons, hempty]
      cases hstride : t.stride false here step rest.isEmpty with
      | on l =>
        rw [hstride] at h
        exact ih h hrest
      | via target => rfl
      | stop r => rfl

theorem filter_steps (p : Path) :
    (steps p).filter (· ≠ [dot]) = p.names.map Component.bytes := by
  have hend : (if p.endsInSlash then [[dot]] else []).filter (· ≠ [dot]) = [] := by
    split <;> simp
  have hpieces (parts : List Bytes) : (parts.filter (· ≠ [])).filter (· ≠ [dot]) =
      (parts.filterMap Component.ofPiece?).map Component.bytes := by
    induction parts with
    | nil => rfl
    | cons piece parts ih =>
      by_cases hpiece : piece = []
      · simpa [hpiece, Component.ofPiece?] using ih
      by_cases hdot : piece = [dot]
      · simpa [hdot, Component.ofPiece?] using ih
      by_cases hdots : piece = [dot, dot]
      · simpa [hdots, Component.ofPiece?, Component.bytes] using ih
      · simpa [hpiece, hdot, hdots, Component.ofPiece?, Component.bytes] using ih
  rw [steps, List.filter_append, hend, List.append_nil, hpieces, Path.names]

/-- Two spellings of one path lead to the same. -/
theorem entry_of_same {p q : Path} (hsame : p.Same q) (hp : Direct p) (hq : Direct q)
    (hp' : t.Straight here p) (hq' : t.Straight here q) :
    t.entry here false p = .ok (l, e) ↔ t.entry here false q = .ok (l, e) := by
  obtain ⟨habsolute, hnames⟩ := Path.congr_of_same hsame
  have hstart : startOf here p = startOf here q := by rw [startOf, startOf, habsolute]
  rw [entry_of_straight hp', entry_of_straight hq', ← trace_filter hp' hp.2,
    ← trace_filter hq' hq.2, filter_steps, filter_steps, hnames, hstart]
  simp only [hp.1, hq.1, true_and]

end FileTree

end Crosscheck
