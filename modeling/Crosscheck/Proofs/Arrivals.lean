import Crosscheck.Proofs.Joins
import Crosscheck.Proofs.Strides
import Crosscheck.Proofs.Tracking

/-!
# Where a path arrives

A path that leads to something else than a directory arrives at its last name: no dot follows it,
and what lies there is what the path leads to. So a removal leaves alone whatever lies under another
name than the last one of the path that is removed.
-/

namespace Crosscheck

namespace FileTree

variable {t : FileTree}

/-- A location and its entry as names that lead there end: at the last of them. -/
structure Arrives (t : FileTree) (names : List Bytes) (l : Location) (e : Entry) : Prop where
  entry : t.get? l = some e
  last : ∃ last, names.getLast? = some last ∧ last ≠ [dot] ∧ last ≠ [dot, dot] ∧
    l.getLast? = some last

theorem Arrives.cons {step : Bytes} {names : List Bytes} {l : Location} {e : Entry}
    (h : t.Arrives names l e) : t.Arrives (step :: names) l e := by
  obtain ⟨hentry, last, hlast, hrest⟩ := h
  refine ⟨hentry, last, ?_, hrest⟩
  cases names with
  | nil => cases hlast
  | cons name names => rwa [List.getLast?_cons_cons]

theorem Arrives.of_append {front names : List Bytes} {l : Location} {e : Entry} (hne : names ≠ [])
    (h : t.Arrives (front ++ names) l e) : t.Arrives names l e := by
  obtain ⟨hentry, last, hlast, hrest⟩ := h
  refine ⟨hentry, last, ?_, hrest⟩
  rw [List.getLast?_append, List.getLast?_eq_some_getLast hne, Option.some_or] at hlast
  rwa [List.getLast?_eq_some_getLast hne]

theorem arrives_of_walkWith {onLink : Location → List Bytes → Except OsError Place} {l : Location}
    {e : Entry} (he : e ≠ .directory)
    (hlink : ∀ here names, onLink here names = .ok (.found l e) → t.Arrives names l e)
    {here : Location} {names : List Bytes}
    (h : t.walkWith false onLink here names = .ok (.found l e)) : t.Arrives names l e := by
  induction names generalizing here with
  | nil =>
    cases h
    exact absurd rfl he
  | cons step rest ih =>
    rw [walkWith_cons] at h
    cases hstride : t.stride false here step rest.isEmpty with
    | on l' =>
      rw [hstride] at h
      exact (ih h).cons
    | via target =>
      rw [hstride] at h
      have hrest : rest ≠ [] := by
        have hlast := (of_stride_via hstride).resolve_right Bool.false_ne_true
        simpa using hlast
      exact ((hlink _ _ h).of_append hrest).cons
    | stop r =>
      rw [hstride] at h
      obtain rfl : r = .ok (.found l e) := h
      obtain ⟨hget, hl, hlast, hdot, hdots⟩ := of_stride_found hstride
      obtain rfl : rest = [] := List.isEmpty_iff.1 hlast
      exact ⟨hget, step, rfl, hdot, hdots, hl ▸ List.getLast?_concat⟩

theorem arrives_of_walk {links : Nat} {here l : Location} {names : List Bytes} {e : Entry}
    (he : e ≠ .directory) (h : t.walk false links here names = .ok (.found l e)) :
    t.Arrives names l e := by
  induction links generalizing here names with
  | zero =>
    refine arrives_of_walkWith he ?_ h
    intro here names hlink
    cases hlink
  | succ links ih => exact arrives_of_walkWith he (fun _ _ => ih) h

theorem arrives_of_entry {here l : Location} {p : Path} {e : Entry} (he : e ≠ .directory)
    (h : t.entry here false p = .ok (l, e)) : t.Arrives (steps p) l e := by
  unfold entry at h
  cases hlocate : t.locate here false p with
  | error cause =>
    rw [hlocate] at h
    cases h
  | ok place =>
    rw [hlocate] at h
    cases place with
    | vacant parent name => cases h
    | found l' e' =>
      cases h
      unfold locate at hlocate
      by_cases hzero : 0 ∈ p.bytes
      · rw [if_pos hzero] at hlocate
        cases hlocate
      by_cases hempty : p.bytes = []
      · rw [if_neg hzero, if_pos hempty] at hlocate
        cases hlocate
      by_cases hlimit : pathLimit ≤ p.bytes.length
      · rw [if_neg hzero, if_neg hempty, if_pos hlimit] at hlocate
        cases hlocate
      rw [if_neg hzero, if_neg hempty, if_neg hlimit] at hlocate
      exact arrives_of_walk he hlocate

/-- What a path leads to lies under the last name of the path. -/
theorem getLast_of_entry {here l : Location} {p : Path} {e : Entry} (he : e ≠ .directory)
    (h : t.entry here false p = .ok (l, e)) : l.getLast? = p.fileName? := by
  obtain ⟨-, last, hlast, hdot, hdots, hl⟩ := arrives_of_entry he h
  unfold steps at hlast
  by_cases hend : p.endsInSlash = true
  · rw [if_pos hend, List.getLast?_concat] at hlast
    exact absurd (Option.some.inj hlast).symm hdot
  · rw [if_neg hend, List.append_nil] at hlast
    obtain ⟨front, hfront⟩ := List.getLast?_eq_some_iff.1 hlast
    have hne : last ≠ [] := by
      have hmem : last ∈ (pieces slash p.bytes).filter (· ≠ []) :=
        hfront ▸ List.mem_append_right front (List.mem_singleton.2 rfl)
      simpa using (List.mem_filter.1 hmem).2
    -- empty pieces stand for no component
    have hnames : p.names =
        ((pieces slash p.bytes).filter (· ≠ [])).filterMap Component.ofPiece? := by
      rw [Path.names, List.filterMap_filter]
      congr
      funext piece
      by_cases hpiece : piece = [] <;> simp [hpiece, Component.ofPiece?]
    rw [hfront, List.filterMap_append,
      List.filterMap_cons_some (Path.ofPiece_of_ne hne hdot hdots), List.filterMap_nil] at hnames
    rw [hl, Path.fileName_of_names hnames]

theorem get?_without_of_ne {here l : Location} {p : Path} (h : p.fileName? ≠ l.getLast?) :
    (t.without here p).get? l = t.get? l := by
  unfold without
  cases hremove : t.removeFile here p with
  | error cause => rfl
  | ok t' =>
    obtain ⟨k, e, hentry, he, rfl⟩ := removeFile_eq_erase here hremove
    have hne : l ≠ k := by
      rintro rfl
      exact h (getLast_of_entry he hentry).symm
    simp [hne]

end FileTree

namespace Artifacts

/-- Removing paths leaves alone what lies under other names than theirs. -/
theorem get?_removeAll_of_ne (programs : Behaviour) {ps : List Path} {l : Location}
    (h : ∀ p ∈ ps, p.fileName? ≠ l.getLast?) (w : World) :
    ((removeAll ps).run programs w).2.files.get? l = w.files.get? l := by
  induction ps generalizing w with
  | nil => rfl
  | cons p ps ih =>
    obtain ⟨hp, hps⟩ := List.forall_mem_cons.1 h
    simp only [removeAll, Plan.run_bind, Plan.run_pure]
    refine (ih hps _).trans ?_
    rw [Plan.run_request]
    exact (congrArg (FileTree.get? · l) (w.files_remove p)).trans (FileTree.get?_without_of_ne hp)

end Artifacts

end Crosscheck
