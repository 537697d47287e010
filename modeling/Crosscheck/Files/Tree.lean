import Crosscheck.Path

/-!
# File trees

A file tree says what lies at each location; a location is the list of names that leads there from
the root, and the root itself is always a directory. The entries are kept in the order of their
locations, so a tree has one form only: trees with the same view `get?` are equal.
-/

namespace Crosscheck

abbrev Location := List Bytes

/-- Files that are no storage. -/
inductive Device where
  /-- Takes everything and gives nothing. -/
  | null
  /-- Takes everything and gives zero bytes without end. -/
  | zero
  deriving DecidableEq, Repr

/-- What lies at a location. -/
inductive Entry where
  | file (data : Bytes) (executable : Bool)
  | directory
  | symlink (target : Path)
  | device (d : Device)
  deriving DecidableEq, Repr

structure FileTree where
  entries : List (Location × Entry)
  sorted : entries.Pairwise fun a b => a.1 < b.1

namespace FileTree

/-- An entry put into its place, over the one that was there. -/
def insertInto (l : Location) (e : Entry) : List (Location × Entry) → List (Location × Entry)
  | [] => [(l, e)]
  | (k, x) :: rest =>
    if l < k then (l, e) :: (k, x) :: rest
    else if l = k then (l, e) :: rest
    else (k, x) :: insertInto l e rest

theorem mem_insertInto {l : Location} {e : Entry} {xs : List (Location × Entry)}
    {p : Location × Entry} (h : p ∈ insertInto l e xs) : p = (l, e) ∨ p ∈ xs := by
  induction xs with
  | nil => simpa [insertInto] using h
  | cons x xs ih =>
    unfold insertInto at h
    split at h
    · simpa using h
    · split at h
      · rcases List.mem_cons.1 h with h | h
        · exact .inl h
        · exact .inr (List.mem_cons_of_mem _ h)
      · rcases List.mem_cons.1 h with h | h
        · exact .inr (h ▸ List.mem_cons_self)
        · exact (ih h).imp_right (List.mem_cons_of_mem _)

theorem sorted_insertInto (l : Location) (e : Entry) {xs : List (Location × Entry)}
    (h : xs.Pairwise fun a b => a.1 < b.1) :
    (insertInto l e xs).Pairwise fun a b => a.1 < b.1 := by
  induction xs with
  | nil => simp [insertInto]
  | cons x xs ih =>
    obtain ⟨hx, hxs⟩ := List.pairwise_cons.1 h
    unfold insertInto
    split
    · next hlt =>
      refine List.pairwise_cons.2 ⟨fun p hp => ?_, h⟩
      rcases List.mem_cons.1 hp with rfl | hp
      · exact hlt
      · exact List.lt_trans hlt (hx p hp)
    · next hlt =>
      split
      · next heq => exact List.pairwise_cons.2 ⟨fun p hp => heq ▸ hx p hp, hxs⟩
      · next hne =>
        refine List.pairwise_cons.2 ⟨fun p hp => ?_, ih hxs⟩
        rcases mem_insertInto hp with rfl | hp
        · rcases Std.lt_trichotomy l x.1 with h | h | h
          · exact absurd h hlt
          · exact absurd h hne
          · exact h
        · exact hx p hp

def empty : FileTree := ⟨[], .nil⟩

/-- The entry under a location. -/
def lookup (l : Location) : List (Location × Entry) → Option Entry
  | [] => none
  | (k, e) :: rest => if l = k then some e else lookup l rest

theorem lookup_insertInto (l k : Location) (e : Entry) (xs : List (Location × Entry)) :
    lookup k (insertInto l e xs) = if k = l then some e else lookup k xs := by
  induction xs with
  | nil => rfl
  | cons x xs ih =>
    unfold insertInto
    split
    · rfl
    · split
      · next heq => subst heq; simp only [lookup]; split <;> rfl
      · next hne =>
        simp only [lookup, ih]
        by_cases h : k = l
        · subst h; simp [hne]
        · simp [h]

theorem lookup_filter_ne (l k : Location) (xs : List (Location × Entry)) :
    lookup k (xs.filter fun p => p.1 ≠ l) = if k = l then none else lookup k xs := by
  induction xs with
  | nil => simp [lookup]
  | cons x xs ih =>
    rw [List.filter_cons]
    by_cases hx : x.1 = l
    · subst hx
      simp only [ne_eq, not_true, decide_false, Bool.false_eq_true, if_false] at ih ⊢
      rw [ih, lookup]
      split <;> rfl
    · simp only [ne_eq, hx, not_false_eq_true, decide_true, if_true, lookup]
      simp only [ne_eq] at ih
      rw [ih]
      by_cases h : k = l
      · subst h; simp [Ne.symm hx]
      · simp [h]

theorem lookup_isSome_of_mem {p : Location × Entry} {xs : List (Location × Entry)} (h : p ∈ xs) :
    (lookup p.1 xs).isSome := by
  induction xs with
  | nil => cases h
  | cons x xs ih =>
    unfold lookup
    split
    · rfl
    · next hne =>
      rcases List.mem_cons.1 h with rfl | h
      · exact absurd rfl hne
      · exact ih h

theorem lookup_eq_none {l : Location} {xs : List (Location × Entry)}
    (h : ∀ p ∈ xs, l < p.1) : lookup l xs = none := by
  induction xs with
  | nil => rfl
  | cons x xs ih =>
    have hx := h x List.mem_cons_self
    have hne : l ≠ x.1 := fun he => List.lt_irrefl l (he ▸ hx)
    simpa [lookup, hne] using ih fun p hp => h p (List.mem_cons_of_mem _ hp)

theorem eq_of_lookup_eq {xs ys : List (Location × Entry)}
    (hx : xs.Pairwise fun a b => a.1 < b.1) (hy : ys.Pairwise fun a b => a.1 < b.1)
    (h : ∀ l, lookup l xs = lookup l ys) : xs = ys := by
  induction xs generalizing ys with
  | nil =>
    cases ys with
    | nil => rfl
    | cons y ys => simpa [lookup] using h y.1
  | cons x xs ih =>
    cases ys with
    | nil => simpa [lookup] using h x.1
    | cons y ys =>
      obtain ⟨hx1, hx2⟩ := List.pairwise_cons.1 hx
      obtain ⟨hy1, hy2⟩ := List.pairwise_cons.1 hy
      have hkey : x.1 = y.1 := by
        rcases Std.lt_trichotomy x.1 y.1 with hlt | heq | hlt
        · have hnone : lookup x.1 (y :: ys) = none := lookup_eq_none fun p hp => by
            rcases List.mem_cons.1 hp with rfl | hp
            · exact hlt
            · exact List.lt_trans hlt (hy1 p hp)
          have := h x.1
          rw [hnone] at this
          simp [lookup] at this
        · exact heq
        · have hnone : lookup y.1 (x :: xs) = none := lookup_eq_none fun p hp => by
            rcases List.mem_cons.1 hp with rfl | hp
            · exact hlt
            · exact List.lt_trans hlt (hx1 p hp)
          have := h y.1
          rw [hnone] at this
          simp [lookup] at this
      have hval : x.2 = y.2 := by simpa [lookup, hkey] using h y.1
      have htail : xs = ys := ih hx2 hy2 fun l => by
        by_cases hl : l = x.1
        · subst hl
          rw [lookup_eq_none hx1, lookup_eq_none (hkey ▸ hy1)]
        · have := h l
          have hl' : l ≠ y.1 := hkey ▸ hl
          simpa [lookup, hl, hl'] using this
      rw [htail, Prod.ext hkey hval]

variable (t : FileTree)

/-- What the tree holds at a location. -/
def get? (l : Location) : Option Entry := lookup l t.entries

/-- What lies at a location. The root is there without being held. -/
def at? (l : Location) : Option Entry :=
  if l = [] then some .directory else t.get? l

def insert (l : Location) (e : Entry) : FileTree :=
  ⟨insertInto l e t.entries, sorted_insertInto l e t.sorted⟩

def erase (l : Location) : FileTree :=
  ⟨t.entries.filter fun p => p.1 ≠ l, t.sorted.filter _⟩

/-- Without a location and everything below it. -/
def eraseBelow (l : Location) : FileTree :=
  ⟨t.entries.filter fun p => !l.isPrefixOf p.1, t.sorted.filter _⟩

@[simp] theorem get?_empty (l : Location) : empty.get? l = none := rfl

@[simp] theorem get?_insert (l k : Location) (e : Entry) :
    (t.insert l e).get? k = if k = l then some e else t.get? k :=
  lookup_insertInto l k e t.entries

@[simp] theorem get?_erase (l k : Location) :
    (t.erase l).get? k = if k = l then none else t.get? k :=
  lookup_filter_ne l k t.entries

/-- Trees that hold the same are equal. -/
theorem ext_get? {s t : FileTree} (h : ∀ l, s.get? l = t.get? l) : s = t := by
  have := eq_of_lookup_eq s.sorted t.sorted h
  cases s; cases t; simp_all

/-- The names in a directory, each with what it is. -/
def children (l : Location) : List (Bytes × Entry) :=
  t.entries.filterMap fun p =>
    match p.1.getLast? with
    | some name => if p.1.dropLast = l then some (name, p.2) else none
    | none => none

/-- What lies below a directory, each with the names that lead there from it. -/
def below (l : Location) : List (Location × Entry) :=
  t.entries.filterMap fun p =>
    if l.isPrefixOf p.1 && p.1.length > l.length then some (p.1.drop l.length, p.2) else none

end FileTree

end Crosscheck
