import Crosscheck.Artifacts
import Crosscheck.Proofs.Joins
import Crosscheck.Proofs.Spot

/-!
# Where artifacts lie

The three paths of a case on a target differ in their last name only: one directory holds them all.
-/

namespace Crosscheck

/-- A long name stands for no directory by itself. -/
theorem Path.ne_of_length {name : Bytes} (h : 2 < name.length) :
    name ≠ [] ∧ name ≠ [dot] ∧ name ≠ [dot, dot] := by
  refine ⟨?_, ?_, ?_⟩ <;>
    · rintro rfl
      simp at h

/-- A path whose text ends in a name is named so. -/
theorem Path.fileName_of_pieces {p : Path} {front : List Bytes} {last : Bytes}
    (hpieces : pieces slash p.bytes = front ++ [last])
    (hlast : last ≠ [] ∧ last ≠ [dot] ∧ last ≠ [dot, dot]) : p.fileName? = some last := by
  obtain ⟨hne, hdot, hdots⟩ := hlast
  have hnames : p.names = front.filterMap Component.ofPiece? ++ [.normal last] := by
    rw [names, hpieces, List.filterMap_append,
      List.filterMap_cons_some (ofPiece_of_ne hne hdot hdots), List.filterMap_nil]
  exact fileName_of_names hnames

namespace Products

open FileTree

/-- What the artifacts of a case are told apart by. -/
def suffixes : List String := ["s", "moon", "std"]

/-- What follows the name of the case in the name of an artifact. -/
def tail (target : Target) (suffix : String) : Bytes :=
  Text.utf8 ("." ++ target.token ++ "." ++ suffix)

theorem mem_toList_iff {workDir : Path} {name : String} {target : Target} {p : Path} :
    p ∈ (ofCase workDir name target).toList ↔
      ∃ suffix ∈ suffixes, p = place workDir name target suffix := by
  simp [toList, ofCase, suffixes]

section tail

variable (target : Target) {suffix : String}

theorem slash_not_mem_tail (h : suffix ∈ suffixes) : slash ∉ tail target suffix := by
  revert suffix
  cases target <;> decide

theorem lt_length_tail (h : suffix ∈ suffixes) : 2 < (tail target suffix).length := by
  revert suffix
  cases target <;> decide

theorem head_tail (h : suffix ∈ suffixes) : (tail target suffix).head? = some dot := by
  revert suffix
  cases target <;> decide

theorem last_ne (stem : Bytes) (h : suffix ∈ suffixes) : stem ++ tail target suffix ≠ [] ∧
    stem ++ tail target suffix ≠ [dot] ∧ stem ++ tail target suffix ≠ [dot, dot] := by
  have hlength := lt_length_tail target h
  refine Path.ne_of_length ?_
  rw [List.length_append]
  omega

theorem getLast_append_tail (bs : Bytes) (h : suffix ∈ suffixes) :
    (bs ++ tail target suffix).getLast? = (tail target suffix).getLast? := by
  have hne : tail target suffix ≠ [] := (last_ne target [] h).1
  rw [List.getLast?_append, List.getLast?_eq_some_getLast hne, Option.some_or]

theorem eq_of_getLast_tail {suffix' : String} (h : suffix ∈ suffixes) (h' : suffix' ∈ suffixes)
    (heq : (tail target suffix).getLast? = (tail target suffix').getLast?) : suffix = suffix' := by
  have hall : ∀ s ∈ suffixes, ∀ s' ∈ suffixes,
      (tail target s).getLast? = (tail target s').getLast? → s = s' := by
    cases target <;> decide
  exact hall suffix h suffix' h' heq

/-- No tail ends another one. -/
theorem eq_of_tail_suffix {target target' : Target} {suffix suffix' : String}
    (h : suffix ∈ suffixes) (h' : suffix' ∈ suffixes)
    (hends : tail target suffix <:+ tail target' suffix') :
    target = target' ∧ suffix = suffix' := by
  have hall : ∀ t ∈ Target.all, ∀ s ∈ suffixes, ∀ t' ∈ Target.all, ∀ s' ∈ suffixes,
      tail t s <:+ tail t' s' → t = t' ∧ s = s' := by
    decide
  exact hall _ (Target.mem_all _) _ h _ (Target.mem_all _) _ h' hends

end tail

section place

variable (workDir : Path) (name : String) (target : Target) {suffix : String}

theorem isAbsolute_append (bs : Bytes) (h : suffix ∈ suffixes) :
    (⟨bs ++ tail target suffix⟩ : Path).isAbsolute = (⟨bs⟩ : Path).isAbsolute := by
  cases bs with
  | nil => simp only [Path.isAbsolute, List.nil_append, head_tail target h]; decide
  | cons b bs => rfl

theorem bytes_join_append (p : Path) {bs more : Bytes}
    (h : (⟨bs ++ more⟩ : Path).isAbsolute = (⟨bs⟩ : Path).isAbsolute) :
    (p.join ⟨bs ++ more⟩).bytes = (p.join ⟨bs⟩).bytes ++ more := by
  unfold Path.join
  rw [h]
  by_cases habsolute : (⟨bs⟩ : Path).isAbsolute = true
  · rw [if_pos habsolute, if_pos habsolute]
  rw [if_neg habsolute, if_neg habsolute]
  by_cases hjoined : (p.bytes = [] || p.endsInSlash) = true
  · rw [if_pos hjoined, if_pos hjoined, List.append_assoc]
  · rw [if_neg hjoined, if_neg hjoined, List.append_assoc, List.cons_append]

/-- An artifact lies where its case would, with something after the name. -/
theorem bytes_place (h : suffix ∈ suffixes) : (place workDir name target suffix).bytes =
    (workDir.join (.ofText name)).bytes ++ tail target suffix := by
  have hname : Path.ofText (name ++ "." ++ target.token ++ "." ++ suffix) =
      ⟨Text.utf8 name ++ tail target suffix⟩ := by
    simp only [Path.ofText, tail, Text.utf8_append, List.append_assoc]
  rw [place, hname]
  exact bytes_join_append workDir (isAbsolute_append target _ h)

theorem startOf_place (here : Location) (h : suffix ∈ suffixes) :
    startOf here (place workDir name target suffix) =
      startOf here (workDir.join (.ofText name)) := by
  have habsolute := isAbsolute_append target (workDir.join (.ofText name)).bytes h
  rw [← bytes_place workDir name target h] at habsolute
  simp only [startOf, habsolute]

theorem pieces_place {front : List Bytes} {stem : Bytes} (h : suffix ∈ suffixes)
    (hpieces : pieces slash (workDir.join (.ofText name)).bytes = front ++ [stem]) :
    pieces slash (place workDir name target suffix).bytes =
      front ++ [stem ++ tail target suffix] := by
  rw [bytes_place workDir name target h]
  exact pieces_append hpieces (slash_not_mem_tail target h)

/-- An artifact is named after its case, in the directory that the case is in by its name. -/
theorem named_place {front : List Bytes} {stem : Bytes} (h : suffix ∈ suffixes)
    (hpieces : pieces slash (workDir.join (.ofText name)).bytes = front ++ [stem]) :
    Named (place workDir name target suffix) (front.filter (· ≠ []))
      (stem ++ tail target suffix) := by
  obtain ⟨hne, hdot, hdots⟩ := last_ne target stem h
  refine ⟨?_, hdot, hdots⟩
  have hend : (place workDir name target suffix).endsInSlash = false := by
    rw [Path.endsInSlash, bytes_place workDir name target h, getLast_append_tail target _ h]
    refine decide_eq_false fun hslash => ?_
    exact slash_not_mem_tail target h (List.mem_of_getLast? hslash)
  rw [steps, pieces_place workDir name target h hpieces, hend]
  simp [hne]

theorem exists_pieces (bs : Bytes) : ∃ front last, pieces slash bs = front ++ [last] := by
  exact ⟨_, _, (List.dropLast_concat_getLast (pieces_ne_nil slash bs)).symm⟩

theorem fileName_place {front : List Bytes} {stem : Bytes} (h : suffix ∈ suffixes)
    (hpieces : pieces slash (workDir.join (.ofText name)).bytes = front ++ [stem]) :
    (place workDir name target suffix).fileName? = some (stem ++ tail target suffix) :=
  Path.fileName_of_pieces (pieces_place workDir name target h hpieces) (last_ne target stem h)

/-- The three paths of a case lie in one directory under different names. -/
theorem named_siblings : ∃ names stem, ∀ suffix ∈ suffixes,
    Named (place workDir name target suffix) names (stem ++ tail target suffix) := by
  obtain ⟨front, stem, hpieces⟩ := exists_pieces (workDir.join (.ofText name)).bytes
  exact ⟨_, stem, fun suffix h => named_place workDir name target h hpieces⟩

/-- No two artifacts of a case are one path in two spellings. -/
theorem eq_of_same {p q : Path} (hp : p ∈ (ofCase workDir name target).toList)
    (hq : q ∈ (ofCase workDir name target).toList) (h : p.Same q) : p = q := by
  obtain ⟨suffix, hsuffix, rfl⟩ := mem_toList_iff.1 hp
  obtain ⟨suffix', hsuffix', rfl⟩ := mem_toList_iff.1 hq
  obtain ⟨front, stem, hpieces⟩ := exists_pieces (workDir.join (.ofText name)).bytes
  have hname : (place workDir name target suffix).fileName? =
      (place workDir name target suffix').fileName? := by
    rw [Path.fileName?, Path.fileName?, show _ = _ from h]
  rw [fileName_place workDir name target hsuffix hpieces,
    fileName_place workDir name target hsuffix' hpieces, Option.some.injEq] at hname
  rw [eq_of_getLast_tail target hsuffix hsuffix'
    (congrArg List.getLast? (List.append_cancel_left hname))]

end place

end Products

end Crosscheck
