import Crosscheck.Proofs.Spot

/-!
# Trees of one shape

Trees have one shape if they differ in nothing but plain files: what is a directory or a link in one
of them is the same in the other. A path leads to one spot in both, and to the same entry unless it
is the entry at that spot in which they differ.
-/

namespace Crosscheck.FileTree

/-- Nothing, or something that no path leads through. -/
def Plain (e : Option Entry) : Prop :=
  e ≠ some .directory ∧ ∀ target, e ≠ some (.symlink target)

def SameShape (s t : FileTree) : Prop :=
  ∀ l, s.get? l ≠ t.get? l → Plain (s.get? l) ∧ Plain (t.get? l)

/-- Where a path leads if links are followed. -/
def goal? (t : FileTree) (here : Location) (p : Path) : Option Location :=
  (t.locate here true p).toOption.map Place.spot

/-- Places that are equal, or at one location at which two trees differ. -/
def Meets (s t : FileTree) (x y : Option Place) : Prop :=
  x = y ∨ ∃ l, x.map Place.spot = some l ∧ y.map Place.spot = some l ∧ s.get? l ≠ t.get? l

section shape

variable {s t : FileTree}

theorem Meets.spot {x y : Option Place} (h : Meets s t x y) :
    x.map Place.spot = y.map Place.spot := by
  rcases h with rfl | ⟨l, hx, hy, -⟩
  · rfl
  · rw [hx, hy]

/-- What is plain ends a path at its spot, and a path that goes on fails there. -/
theorem walkWith_plain {here : Location} {step : Bytes} (hdot : step ≠ [dot])
    (hdots : step ≠ [dot, dot]) (hlength : ¬maxName < step.length)
    (hplain : Plain (t.get? (here ++ [step]))) (follow : Bool)
    (onLink : Location → List Bytes → Except OsError Place) (rest : List Bytes) :
    (t.walkWith follow onLink here (step :: rest)).toOption.map Place.spot =
      if rest.isEmpty then some (here ++ [step]) else none := by
  rw [walkWith, if_neg hdot, if_neg hdots, if_neg hlength]
  cases hget : t.get? (here ++ [step]) with
  | none => cases rest <;> rfl
  | some e =>
    cases e with
    | directory => exact absurd hget hplain.1
    | symlink target => exact absurd hget (hplain.2 target)
    | file data mode => cases rest <;> rfl
    | device d => cases rest <;> rfl

theorem meets_step (h : s.SameShape t) {here : Location} {step : Bytes} {rest : List Bytes}
    {follow : Bool} {onS onT : Location → List Bytes → Except OsError Place}
    (hlink : ∀ here names, Meets s t (onS here names).toOption (onT here names).toOption)
    (ih : ∀ here, Meets s t (s.walkWith follow onS here rest).toOption
      (t.walkWith follow onT here rest).toOption) :
    Meets s t (s.walkWith follow onS here (step :: rest)).toOption
      (t.walkWith follow onT here (step :: rest)).toOption := by
  by_cases hdot : step = [dot]
  · simp only [walkWith, hdot, if_true]
    exact ih here
  by_cases hdots : step = [dot, dot]
  · rw [walkWith, walkWith, if_neg hdot, if_pos hdots, if_neg hdot, if_pos hdots]
    exact ih _
  by_cases hlong : maxName < step.length
  · rw [walkWith, walkWith, if_neg hdot, if_neg hdots, if_pos hlong, if_neg hdot, if_neg hdots,
      if_pos hlong]
    exact .inl rfl
  by_cases hget : s.get? (here ++ [step]) = t.get? (here ++ [step])
  · rw [walkWith, walkWith, if_neg hdot, if_neg hdots, if_neg hlong, if_neg hdot, if_neg hdots,
      if_neg hlong, hget]
    cases t.get? (here ++ [step]) with
    | none => exact .inl rfl
    | some e =>
      cases e with
      | directory => exact ih _
      | symlink target =>
        simp only
        split
        · exact .inl rfl
        · exact hlink _ _
      | file data mode => exact .inl rfl
      | device d => exact .inl rfl
  · obtain ⟨hplainS, hplainT⟩ := h _ hget
    have hs := walkWith_plain hdot hdots hlong hplainS follow onS rest
    have ht := walkWith_plain hdot hdots hlong hplainT follow onT rest
    cases rest with
    | nil => exact .inr ⟨_, hs, ht, hget⟩
    | cons next rest =>
      simp only [List.isEmpty_cons, Bool.false_eq_true, if_false, Option.map_eq_none_iff] at hs ht
      exact .inl (hs.trans ht.symm)

theorem meets_walk (h : s.SameShape t) (follow : Bool) (links : Nat) (here : Location)
    (names : List Bytes) : Meets s t (s.walk follow links here names).toOption
      (t.walk follow links here names).toOption := by
  induction links generalizing here names with
  | zero =>
    induction names generalizing here with
    | nil => exact .inl rfl
    | cons step rest ih => exact meets_step h (fun _ _ => .inl rfl) ih
  | succ links ihLinks =>
    induction names generalizing here with
    | nil => exact .inl rfl
    | cons step rest ih => exact meets_step h ihLinks ih

theorem meets_locate (h : s.SameShape t) (here : Location) (follow : Bool) (p : Path) :
    Meets s t (s.locate here follow p).toOption (t.locate here follow p).toOption := by
  unfold locate
  split
  · exact .inl rfl
  · split
    · exact .inl rfl
    · split
      · exact .inl rfl
      · exact meets_walk h follow maxLinks _ _

theorem SameShape.spot (h : s.SameShape t) (here : Location) (p : Path) :
    s.spot? here p = t.spot? here p := (meets_locate h here false p).spot

theorem SameShape.goal (h : s.SameShape t) (here : Location) (p : Path) :
    s.goal? here p = t.goal? here p := (meets_locate h here true p).spot

theorem toOption_entry (t : FileTree) (here : Location) (follow : Bool) (p : Path) :
    (t.entry here follow p).toOption = (t.locate here follow p).toOption.bind fun place =>
      match place with
      | .found l e => some (l, e)
      | .vacant .. => none := by
  unfold entry
  cases t.locate here follow p with
  | error cause => rfl
  | ok place => cases place <;> rfl

theorem entry_of_meets {here : Location} {follow : Bool} {p : Path}
    (h : Meets s t (s.locate here follow p).toOption (t.locate here follow p).toOption)
    (hget : ∀ l, (s.locate here follow p).toOption.map Place.spot = some l →
      s.get? l = t.get? l) :
    (s.entry here follow p).toOption = (t.entry here follow p).toOption := by
  rw [toOption_entry, toOption_entry]
  rcases h with h | ⟨l, hspot, -, hne⟩
  · rw [h]
  · exact absurd (hget l hspot) hne

/-- A path leads to one entry in trees of one shape that do not differ where it leads. -/
theorem SameShape.entry (h : s.SameShape t) {here : Location} {p : Path}
    (hget : ∀ l, s.goal? here p = some l → s.get? l = t.get? l) :
    (s.entry here true p).toOption = (t.entry here true p).toOption :=
  entry_of_meets (meets_locate h here true p) hget

theorem isFile_congr {here here' : Location} {p : Path}
    (h : (s.entry here true p).toOption = (t.entry here' true p).toOption) :
    s.isFile here p = t.isFile here' p := by
  unfold isFile
  cases hs : s.entry here true p <;> cases ht : t.entry here' true p <;>
    simp_all [Except.toOption]

theorem read_congr {here here' : Location} {p : Path}
    (h : (s.entry here true p).toOption = (t.entry here' true p).toOption) :
    (s.read here p).toOption = (t.read here' p).toOption := by
  unfold read
  cases hs : s.entry here true p <;> cases ht : t.entry here' true p <;>
    simp_all [Except.toOption]

theorem walkWith_follow {onLast onNames : Location → List Bytes → Except OsError Place}
    (hlink : ∀ here names, (∀ l target, onLast here names ≠ .ok (.found l (.symlink target))) →
      onNames here names = onLast here names) {here : Location} {names : List Bytes}
    (h : ∀ l target, t.walkWith false onLast here names ≠ .ok (.found l (.symlink target))) :
    t.walkWith true onNames here names = t.walkWith false onLast here names := by
  induction names generalizing here with
  | nil => rfl
  | cons step rest ih =>
    simp only [walkWith] at h ⊢
    by_cases hdot : step = [dot]
    · simp only [hdot, if_true] at h ⊢
      exact ih h
    by_cases hdots : step = [dot, dot]
    · rw [if_neg hdot, if_pos hdots] at h
      rw [if_neg hdot, if_pos hdots, if_neg hdot, if_pos hdots]
      exact ih h
    by_cases hlong : maxName < step.length
    · rw [if_neg hdot, if_neg hdots, if_pos hlong, if_neg hdot, if_neg hdots, if_pos hlong]
    rw [if_neg hdot, if_neg hdots, if_neg hlong] at h
    rw [if_neg hdot, if_neg hdots, if_neg hlong, if_neg hdot, if_neg hdots, if_neg hlong]
    cases hget : t.get? (here ++ [step]) with
    | none => rfl
    | some e =>
      rw [hget] at h
      cases e with
      | directory => exact ih h
      | symlink target =>
        cases rest with
        | nil => exact absurd rfl (h (here ++ [step]) target)
        | cons next rest => exact hlink _ _ h
      | file data mode => rfl
      | device d => rfl

theorem walk_follow {links : Nat} {here : Location} {names : List Bytes}
    (h : ∀ l target, t.walk false links here names ≠ .ok (.found l (.symlink target))) :
    t.walk true links here names = t.walk false links here names := by
  induction links generalizing here names with
  | zero => exact walkWith_follow (fun _ _ _ => rfl) h
  | succ links ih => exact walkWith_follow (fun _ _ => ih) h

/-- Following links makes no difference to a path that does not end at one. -/
theorem entry_follow {here : Location} {p : Path}
    (h : ∀ l target, t.entry here false p ≠ .ok (l, .symlink target)) :
    t.entry here true p = t.entry here false p := by
  have hlocate : t.locate here true p = t.locate here false p := by
    unfold entry locate at h
    unfold locate
    split
    · rfl
    · split
      · rfl
      · split
        · rfl
        · next hzero hempty hlimit =>
          refine walk_follow fun l target hwalk => h l target ?_
          rw [if_neg hzero, if_neg hempty, if_neg hlimit, hwalk]
  rw [entry, entry, hlocate]

end shape

end Crosscheck.FileTree
