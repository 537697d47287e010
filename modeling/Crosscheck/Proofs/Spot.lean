import Crosscheck.Files.Changes

/-!
# Spots

The spot of a path is the location that it names, whether or not anything is there. A path that ends
in a name has its spot in the directory that the rest of it leads to. A tree that holds more than
another leads such paths to the same spots, and so does a tree that differs from another in nothing
but plain files.
-/

namespace Crosscheck

def Place.spot : Place → Location
  | found l _ => l
  | vacant parent name => parent ++ [name]

def Place.directory? : Place → Option Location
  | found l .directory => some l
  | _ => none

namespace FileTree

/-- Where a path leads if a link at its end is not followed. -/
def spot? (t : FileTree) (here : Location) (p : Path) : Option Location :=
  (t.locate here false p).toOption.map Place.spot

/-- Whether the system takes a path at all. -/
def Usable (p : Path) : Prop := 0 ∉ p.bytes ∧ p.bytes ≠ [] ∧ p.bytes.length < pathLimit

instance (p : Path) : Decidable (Usable p) :=
  inferInstanceAs (Decidable (_ ∧ _ ∧ _))

/-- A path that ends in a name, after some other names. -/
structure Named (p : Path) (names : List Bytes) (last : Bytes) : Prop where
  steps : steps p = names ++ [last]
  ne_dot : last ≠ [dot]
  ne_dots : last ≠ [dot, dot]

/-- Paths that end in names of one directory. -/
def Siblings (here : Location) (ps : List Path) : Prop :=
  ∃ start names, ∀ p ∈ ps, startOf here p = start ∧ ∃ last, Named p names last

variable (t : FileTree)

def leaf? (parent : Location) (name : Bytes) : Option Place :=
  if maxName < name.length then none
  else match t.get? (parent ++ [name]) with
    | none => some (.vacant parent name)
    | some e => some (.found (parent ++ [name]) e)

/-- The directory that names lead to from where a path starts. -/
def directory? (here : Location) (p : Path) (names : List Bytes) : Option Location :=
  (t.walk true maxLinks (startOf here p) names).toOption.bind Place.directory?

theorem walkWith_last {last : Bytes} (hdot : last ≠ [dot]) (hdots : last ≠ [dot, dot])
    (onLink : Location → List Bytes → Except OsError Place) (here : Location) :
    (t.walkWith false onLink here [last]).toOption = t.leaf? here last := by
  simp only [walkWith, hdot, hdots, if_false, leaf?]
  by_cases hlong : maxName < last.length
  · simp only [hlong, if_true]
    rfl
  · simp only [hlong, if_false]
    cases t.get? (here ++ [last]) with
    | none => rfl
    | some e => cases e <;> rfl

theorem walkWith_concat {last : Bytes} (hdot : last ≠ [dot]) (hdots : last ≠ [dot, dot])
    {onLast onNames : Location → List Bytes → Except OsError Place}
    (hlink : ∀ here names, (onLast here (names ++ [last])).toOption =
      ((onNames here names).toOption.bind Place.directory?).bind (t.leaf? · last))
    (here : Location) (names : List Bytes) :
    (t.walkWith false onLast here (names ++ [last])).toOption =
      ((t.walkWith true onNames here names).toOption.bind Place.directory?).bind
        (t.leaf? · last) := by
  induction names generalizing here with
  | nil => exact t.walkWith_last hdot hdots onLast here
  | cons step rest ih =>
    have hrest : (rest ++ [last]).isEmpty = false := by simp
    simp only [List.cons_append, walkWith, hrest, Bool.false_and, Bool.false_eq_true, if_false,
      Bool.not_true, Bool.and_false]
    by_cases hstep : step = [dot]
    · simp only [hstep, if_true]
      exact ih here
    by_cases hsteps : step = [dot, dot]
    · simp only [hsteps, reduceIte, List.cons.injEq, reduceCtorEq, and_false, if_false]
      exact ih _
    by_cases hlong : maxName < step.length
    · simp only [hstep, hsteps, hlong, if_true, if_false]
      rfl
    simp only [hstep, hsteps, hlong, if_false]
    cases t.get? (here ++ [step]) with
    | none => cases rest <;> rfl
    | some e =>
      cases e with
      | directory => exact ih _
      | symlink target =>
        simpa only [List.append_assoc] using hlink _ (FileTree.steps target ++ rest)
      | file data mode => cases rest <;> rfl
      | device d => cases rest <;> rfl

/-- Names with one more at their end lead to that name in the directory that they lead to. -/
theorem walk_concat {last : Bytes} (hdot : last ≠ [dot]) (hdots : last ≠ [dot, dot]) (links : Nat)
    (here : Location) (names : List Bytes) :
    (t.walk false links here (names ++ [last])).toOption =
      ((t.walk true links here names).toOption.bind Place.directory?).bind (t.leaf? · last) := by
  induction links generalizing here names with
  | zero => exact t.walkWith_concat hdot hdots (fun _ _ => rfl) here names
  | succ links ih => exact t.walkWith_concat hdot hdots ih here names

variable {t}

section named

variable {here : Location} {p : Path} {names : List Bytes} {last : Bytes}

theorem locate_named (hp : Named p names last) : (t.locate here false p).toOption =
    if Usable p then (t.directory? here p names).bind (t.leaf? · last) else none := by
  unfold locate Usable
  by_cases hzero : 0 ∈ p.bytes
  · simp only [hzero, if_true, not_true, false_and, if_false]
    rfl
  by_cases hempty : p.bytes = []
  · simp [hempty, Except.toOption]
  by_cases hlimit : pathLimit ≤ p.bytes.length
  · simp only [hzero, hempty, hlimit, if_true, if_false, Nat.not_lt.2 hlimit, and_false]
    rfl
  simp only [hzero, hempty, hlimit, if_false, Nat.not_le.1 hlimit, ne_eq, not_false_eq_true,
    and_self, if_true]
  rw [hp.steps, walk_concat t hp.ne_dot hp.ne_dots]
  rfl

theorem spot_leaf {d : Location} {name : Bytes} {l : Location} :
    (t.leaf? d name).map Place.spot = some l ↔ name.length ≤ maxName ∧ l = d ++ [name] := by
  unfold leaf?
  by_cases hlong : maxName < name.length
  · simp [hlong, Nat.not_le.2 hlong]
  · simp only [hlong, if_false, Nat.not_lt.1 hlong, true_and]
    cases t.get? (d ++ [name]) <;> simp [Place.spot, eq_comm]

theorem spot_eq_some_iff (hp : Named p names last) {l : Location} :
    t.spot? here p = some l ↔ Usable p ∧ last.length ≤ maxName ∧
      ∃ d, t.directory? here p names = some d ∧ l = d ++ [last] := by
  rw [spot?, locate_named hp]
  by_cases husable : Usable p
  · simp only [husable, if_true, true_and]
    cases t.directory? here p names with
    | none => simp
    | some d =>
      rw [Option.bind_some, spot_leaf]
      simp
  · simp [husable]

/-- What a path that ends in a name leads to is what lies at its spot. -/
theorem entry_named (hp : Named p names last) {l : Location} (hspot : t.spot? here p = some l)
    {e : Entry} : t.entry here false p = .ok (l, e) ↔ t.get? l = some e := by
  obtain ⟨husable, hlength, d, hd, rfl⟩ := (spot_eq_some_iff hp).1 hspot
  have hlocate : (t.locate here false p).toOption = t.leaf? d last := by
    rw [locate_named hp, if_pos husable, hd]
    rfl
  rw [leaf?, if_neg (Nat.not_lt.2 hlength)] at hlocate
  unfold entry
  cases hplace : t.locate here false p with
  | error cause =>
    rw [hplace] at hlocate
    cases hget : t.get? (d ++ [last]) <;> simp [Except.toOption, hget] at hlocate
  | ok place =>
    rw [hplace] at hlocate
    cases hget : t.get? (d ++ [last]) with
    | none =>
      rw [hget] at hlocate
      cases Option.some.inj hlocate
      simp
    | some e' =>
      rw [hget] at hlocate
      cases Option.some.inj hlocate
      simp

end named

theorem spot_of_entry {here : Location} {p : Path} {l : Location} {e : Entry}
    (h : t.entry here false p = .ok (l, e)) : t.spot? here p = some l := by
  unfold entry at h
  unfold spot?
  cases hplace : t.locate here false p with
  | error cause => rw [hplace] at h; cases h
  | ok place =>
    rw [hplace] at h
    cases place with
    | vacant parent name => cases h
    | found l' e' => cases h; rfl

/-- What is left after the removal of a path that may not be there. -/
def without (t : FileTree) (here : Location) (p : Path) : FileTree :=
  match t.removeFile here p with
  | .ok t' => t'
  | .error _ => t

/-- A removal takes away what lies at the spot of a path, and nothing if that is a directory. -/
theorem get?_without {here : Location} {p : Path} {names : List Bytes} {last : Bytes}
    (hp : Named p names last) (k : Location) : (t.without here p).get? k =
      if t.spot? here p = some k ∧ t.get? k ≠ some .directory then none else t.get? k := by
  unfold without
  cases hremove : t.removeFile here p with
  | ok t' =>
    obtain ⟨l, e, hentry, hne, rfl⟩ := removeFile_eq_erase here hremove
    have hspot := spot_of_entry hentry
    have hget := (entry_named hp hspot).1 hentry
    simp only [get?_erase, hspot, Option.some.injEq]
    by_cases hk : k = l
    · have hfile : t.get? k ≠ some .directory := by
        rw [hk, hget]
        exact fun heq => hne (Option.some.inj heq)
      rw [if_pos hk, if_pos ⟨hk.symm, hfile⟩]
    · rw [if_neg hk, if_neg fun h => hk h.1.symm]
  | error cause =>
    simp only
    split
    · next hremovable =>
      obtain ⟨hspot, hne⟩ := hremovable
      cases hget : t.get? k with
      | none => rfl
      | some e =>
        have hentry := (entry_named hp hspot).2 hget
        rw [removeFile, hentry] at hremove
        cases e with
        | directory => exact absurd hget hne
        | file data mode => cases hremove
        | symlink target => cases hremove
        | device d => cases hremove
    · rfl

/-- A tree that holds all that another one holds. -/
def Extends (s t : FileTree) : Prop := ∀ l e, s.get? l = some e → t.get? l = some e

section extend

variable {s t : FileTree}

theorem walkWith_of_extends (h : s.Extends t) {follow : Bool}
    {onS onT : Location → List Bytes → Except OsError Place} {l : Location} {e : Entry}
    (hlink : ∀ here names, onS here names = .ok (.found l e) → onT here names = .ok (.found l e))
    {here : Location} {names : List Bytes}
    (hwalk : s.walkWith follow onS here names = .ok (.found l e)) :
    t.walkWith follow onT here names = .ok (.found l e) := by
  induction names generalizing here with
  | nil => exact hwalk
  | cons step rest ih =>
    simp only [walkWith] at hwalk ⊢
    by_cases hstep : step = [dot]
    · simp only [hstep, if_true] at hwalk ⊢
      exact ih hwalk
    by_cases hsteps : step = [dot, dot]
    · rw [if_neg hstep, if_pos hsteps] at hwalk ⊢
      exact ih hwalk
    by_cases hlong : maxName < step.length
    · rw [if_neg hstep, if_neg hsteps, if_pos hlong] at hwalk
      cases hwalk
    rw [if_neg hstep, if_neg hsteps, if_neg hlong] at hwalk ⊢
    cases hget : s.get? (here ++ [step]) with
    | none =>
      rw [hget] at hwalk
      cases rest <;> cases hwalk
    | some e' =>
      rw [hget] at hwalk
      rw [h _ _ hget]
      cases e' with
      | directory => exact ih hwalk
      | symlink target =>
        simp only at hwalk ⊢
        split at hwalk
        · next hend => rwa [if_pos hend]
        · next hend =>
          rw [if_neg hend]
          exact hlink _ _ hwalk
      | file data mode => exact hwalk
      | device d => exact hwalk

/-- A walk that comes to an entry comes to it in every tree that holds more. -/
theorem walk_of_extends (h : s.Extends t) {follow : Bool} {links : Nat} {here l : Location}
    {names : List Bytes} {e : Entry} (hwalk : s.walk follow links here names = .ok (.found l e)) :
    t.walk follow links here names = .ok (.found l e) := by
  induction links generalizing here names with
  | zero =>
    refine walkWith_of_extends h ?_ hwalk
    intro here names hlink
    cases hlink
  | succ links ih => exact walkWith_of_extends h (fun _ _ => ih) hwalk

theorem directory_of_extends (h : s.Extends t) {here d : Location} {p : Path} {names : List Bytes}
    (hd : s.directory? here p names = some d) : t.directory? here p names = some d := by
  unfold directory? at hd ⊢
  cases hwalk : s.walk true maxLinks (startOf here p) names with
  | error cause => rw [hwalk] at hd; cases hd
  | ok place =>
    rw [hwalk] at hd
    obtain ⟨l, e⟩ | ⟨parent, name⟩ := place
    · rw [walk_of_extends h hwalk]
      exact hd
    · cases hd

theorem spot_of_extends (h : s.Extends t) {here l : Location} {p : Path} {names : List Bytes}
    {last : Bytes} (hp : Named p names last) (hspot : s.spot? here p = some l) :
    t.spot? here p = some l := by
  obtain ⟨husable, hlength, d, hd, rfl⟩ := (spot_eq_some_iff hp).1 hspot
  exact (spot_eq_some_iff hp).2 ⟨husable, hlength, d, directory_of_extends h hd, rfl⟩

/-- Once one path has its spot in a directory, a larger tree leads no other path into that directory
that is not led there already. -/
theorem spot_of_sibling (h : s.Extends t) {here k l : Location} {p q : Path} {names : List Bytes}
    {last last' : Bytes} (hp : Named p names last) (hq : Named q names last')
    (hstart : startOf here p = startOf here q) (hk : s.spot? here q = some k)
    (hl : t.spot? here p = some l) : s.spot? here p = some l := by
  obtain ⟨-, -, d, hd, -⟩ := (spot_eq_some_iff hq).1 hk
  obtain ⟨husable, hlength, d', hd', rfl⟩ := (spot_eq_some_iff hp).1 hl
  have hdp : s.directory? here p names = some d := by
    rw [directory?, hstart]
    exact hd
  obtain rfl : d = d' := Option.some.inj ((directory_of_extends h hdp).symm.trans hd')
  exact (spot_eq_some_iff hp).2 ⟨husable, hlength, d, hdp, rfl⟩

end extend

end FileTree

end Crosscheck
