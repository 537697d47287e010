import Mathlib.Data.List.Perm.Basic
import Mathlib.Order.Lattice

/-!
# Sorting by a key

A list sorted by a key has the elements with the smallest key first, and those with one key in the
order in which they were. So it is put together from the lists of the elements with each key, key by
key.
-/

namespace Crosscheck

variable {α κ : Type} [LinearOrder κ] (key : α → κ)

/-- Whether an element may stand before another one. -/
def keyLe (a b : α) : Bool := decide (key a ≤ key b)

theorem keyLe_iff {a b : α} : keyLe key a b = true ↔ key a ≤ key b := decide_eq_true_iff

theorem keyLe_trans (a b c : α) (hab : keyLe key a b = true) (hbc : keyLe key b c = true) :
    keyLe key a c = true :=
  (keyLe_iff key).2 (le_trans ((keyLe_iff key).1 hab) ((keyLe_iff key).1 hbc))

theorem keyLe_total (a b : α) : (keyLe key a b || keyLe key b a) = true := by
  simpa [keyLe] using le_total (key a) (key b)

/-- Sorted by a key; elements with the same key stay in order. -/
def sortBy (as : List α) : List α := as.mergeSort (keyLe key)

theorem sortBy_perm (as : List α) : (sortBy key as).Perm as := List.mergeSort_perm ..

theorem pairwise_sortBy (as : List α) : (sortBy key as).Pairwise fun a b => key a ≤ key b :=
  (List.pairwise_mergeSort (keyLe_trans key) (keyLe_total key) as).imp (keyLe_iff key).1

/-- Sorting keeps the order of the elements with one key. -/
theorem filter_sortBy (as : List α) (k : κ) :
    (sortBy key as).filter (fun a => key a = k) = as.filter fun a => key a = k := by
  induction as with
  | nil => simp [sortBy]
  | cons a as ih =>
    obtain ⟨front, back, hcons, hrest, hfront⟩ :=
      List.mergeSort_cons (keyLe_trans key) (keyLe_total key) a as
    rw [sortBy] at ih ⊢
    rw [hrest, List.filter_append] at ih
    rw [hcons, List.filter_append]
    by_cases hk : key a = k
    · -- What comes before the new element has smaller keys.
      have hnone : front.filter (fun b => key b = k) = [] := by
        refine List.filter_eq_nil_iff.2 fun b hb => ?_
        have hlt : key b < key a := by simpa [keyLe] using hfront b hb
        simpa using (hk ▸ hlt).ne
      rw [hnone, List.nil_append] at ih ⊢
      rw [List.filter_cons_of_pos (by simpa using hk), List.filter_cons_of_pos (by simpa using hk),
        ih]
    · rw [List.filter_cons_of_neg (by simpa using hk), List.filter_cons_of_neg (by simpa using hk),
        ih]

variable {key}

/-- Sorted lists that have the same elements with every key, in the same order, are equal. -/
theorem eq_of_filter_eq {as bs : List α} (has : as.Pairwise fun a b => key a ≤ key b)
    (hbs : bs.Pairwise fun a b => key a ≤ key b)
    (h : ∀ k, as.filter (fun a => key a = k) = bs.filter fun b => key b = k) : as = bs := by
  have hmem {cs ds : List α} (h : ∀ k, cs.filter (fun c => key c = k) =
      ds.filter fun d => key d = k) {a : α} (ha : a ∈ cs) : a ∈ ds :=
    List.mem_of_mem_filter (h (key a) ▸ List.mem_filter.2 ⟨ha, by simp⟩)
  induction as generalizing bs with
  | nil =>
    cases bs with
    | nil => rfl
    | cons b bs => exact nomatch hmem (fun k => (h k).symm) List.mem_cons_self
  | cons a as ih =>
    cases bs with
    | nil => exact nomatch hmem h List.mem_cons_self
    | cons b bs =>
      obtain ⟨ha, hasTail⟩ := List.pairwise_cons.1 has
      obtain ⟨hb, hbsTail⟩ := List.pairwise_cons.1 hbs
      have hle : key a ≤ key b := by
        rcases List.mem_cons.1 (hmem (fun k => (h k).symm) List.mem_cons_self) with heq | hb'
        · rw [heq]
        · exact ha b hb'
      have hge : key b ≤ key a := by
        rcases List.mem_cons.1 (hmem h List.mem_cons_self) with heq | ha'
        · rw [heq]
        · exact hb a ha'
      have hkey : key b = key a := le_antisymm hge hle
      have hheads := h (key a)
      rw [List.filter_cons_of_pos (by simp), List.filter_cons_of_pos (by simpa using hkey)]
        at hheads
      obtain ⟨rfl, -⟩ := List.cons.inj hheads
      refine congrArg (a :: ·) (ih hasTail hbsTail fun k => ?_)
      have hk := h k
      simp only [List.filter_cons] at hk
      split at hk
      · exact (List.cons.inj hk).2
      · exact hk

theorem flatMap_ite_eq {ks : List κ} (hks : ks.Nodup) (k : κ) (as : List α) :
    (ks.flatMap fun j => if j = k then as else []) = if k ∈ ks then as else [] := by
  induction ks with
  | nil => rfl
  | cons j ks ih =>
    obtain ⟨hj, hks⟩ := List.nodup_cons.1 hks
    rw [List.flatMap_cons, ih hks]
    by_cases hjk : j = k
    · subst hjk
      simp [hj]
    · simp [hjk, Ne.symm hjk]

variable (key)

/-- To sort is to take the elements with each key, key by key. -/
theorem sortBy_eq_flatMap {ks : List κ} (hks : ks.Pairwise (· < ·)) {as : List α}
    (hmem : ∀ a ∈ as, key a ∈ ks) :
    sortBy key as = ks.flatMap fun k => as.filter fun a => key a = k := by
  have hkey {k : κ} {a : α} (ha : a ∈ as.filter fun a => key a = k) : key a = k := by
    simpa using (List.mem_filter.1 ha).2
  refine eq_of_filter_eq (pairwise_sortBy key as) ?_ fun k => ?_
  · refine List.pairwise_flatMap.2 ⟨fun k _ => ?_, hks.imp fun hlt a ha b hb => ?_⟩
    · exact List.pairwise_of_forall_mem_list fun a ha b hb => (hkey ha).trans_le (hkey hb).ge
    · rw [hkey ha, hkey hb]
      exact hlt.le
  · have hbucket (j : κ) : ((as.filter fun a => key a = j).filter fun a => key a = k) =
        if j = k then as.filter fun a => key a = k else [] := by
      split
      · next hjk => rw [hjk, List.filter_filter]; simp
      · next hjk =>
        refine List.filter_eq_nil_iff.2 fun a ha => ?_
        rw [hkey ha]
        simpa using hjk
    rw [filter_sortBy, List.filter_flatMap]
    simp only [hbucket]
    rw [flatMap_ite_eq (hks.imp ne_of_lt)]
    split
    · rfl
    · next hk =>
      refine List.filter_eq_nil_iff.2 fun a ha heq => hk ?_
      rw [← of_decide_eq_true heq]
      exact hmem a ha

end Crosscheck
