import Crosscheck.Files.Place

/-!
# One name of a walk

What a walk makes of a name is one of three things, with what must be the case for each: it goes on
in a directory, or from where a link leads, or it is over.
-/

namespace Crosscheck

inductive Stride where
  | on (l : Location)
  | via (target : Path)
  | stop (r : Except OsError Place)

namespace FileTree

/-- What a walk makes of a name, which may be the last one. -/
def stride (t : FileTree) (follow : Bool) (here : Location) (step : Bytes) (last : Bool) : Stride :=
  if step = [dot] then .on here
  else if step = [dot, dot] then .on here.dropLast
  else if maxName < step.length then .stop (.error .nameTooLong)
  else match t.get? (here ++ [step]) with
    | none => .stop (if last then .ok (.vacant here step) else .error .notFound)
    | some .directory => .on (here ++ [step])
    | some (.symlink target) =>
      if last && !follow then .stop (.ok (.found (here ++ [step]) (.symlink target)))
      else .via target
    | some e => .stop (if last then .ok (.found (here ++ [step]) e) else .error .notDirectory)

variable {t : FileTree} {follow last : Bool} {here l : Location} {step : Bytes} {e : Entry}

theorem walkWith_cons (onLink : Location → List Bytes → Except OsError Place) (rest : List Bytes) :
    t.walkWith follow onLink here (step :: rest) =
      match t.stride follow here step rest.isEmpty with
      | .on l => t.walkWith follow onLink l rest
      | .via target => onLink (startOf here target) (steps target ++ rest)
      | .stop r => r := by
  rw [walkWith, stride]
  by_cases hdot : step = [dot]
  · rw [if_pos hdot, if_pos hdot]
  by_cases hdots : step = [dot, dot]
  · rw [if_neg hdot, if_neg hdot, if_pos hdots, if_pos hdots]
  by_cases hlong : maxName < step.length
  · rw [if_neg hdot, if_neg hdot, if_neg hdots, if_neg hdots, if_pos hlong, if_pos hlong]
  rw [if_neg hdot, if_neg hdot, if_neg hdots, if_neg hdots, if_neg hlong, if_neg hlong]
  cases t.get? (here ++ [step]) with
  | none => rfl
  | some e =>
    cases e with
    | directory => rfl
    | symlink target =>
      simp only
      split <;> rfl
    | file data mode => rfl
    | device d => rfl

/-- A walk that is over with an entry has come to it by the last name. -/
theorem of_stride_found (h : t.stride follow here step last = .stop (.ok (.found l e))) :
    t.get? l = some e ∧ l = here ++ [step] ∧ last = true ∧ step ≠ [dot] ∧ step ≠ [dot, dot] := by
  unfold stride at h
  split at h
  · cases h
  · next hdot =>
    split at h
    · cases h
    · next hdots =>
      split at h
      · cases h
      · split at h
        · split at h <;> cases h
        · cases h
        · next hget =>
          split at h
          · next hend =>
            cases h
            exact ⟨hget, rfl, (Bool.and_eq_true_iff.1 hend).1, hdot, hdots⟩
          · cases h
        · next hget =>
          split at h
          · next hend =>
            cases h
            exact ⟨hget, rfl, hend, hdot, hdots⟩
          · cases h

/-- A link that is not at the end is gone through, and so is one at the end that is followed. -/
theorem of_stride_via {target : Path} (h : t.stride follow here step last = .via target) :
    last = false ∨ follow = true := by
  unfold stride at h
  split at h
  · cases h
  · split at h
    · cases h
    · split at h
      · cases h
      · split at h
        · cases h
        · cases h
        · split at h
          · cases h
          · next hend => cases last <;> cases follow <;> simp_all
        · cases h

end FileTree

end Crosscheck
