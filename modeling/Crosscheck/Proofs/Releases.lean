import Crosscheck.Proofs.Arrivals
import Crosscheck.Proofs.Collisions
import Crosscheck.Proofs.Straight
import Mathlib.Data.List.DropRight

/-!
# What a release removes

However a set came to be, it lists what was tracked since it was last released or dropped, in the
order of the first tracking. What it removes is every entry that a path of it leads to, but for
directories, and nothing else; what cannot be removed makes no difference to the rest, wherever it
stands in the list. Two spellings are one path to the set. The system tells them apart if one of
them asks for a directory, so such a spelling keeps the file from being removed.
-/

namespace Crosscheck

open FileTree

namespace World

/-- Whether a path leads to an entry that a removal takes away, and where. -/
def Removable (w : World) (p : Path) (l : Location) : Prop :=
  ∃ e, w.files.entry w.here false p = .ok (l, e) ∧ e ≠ .directory

/-- Whether a path leads through no link. -/
def Straight (w : World) (p : Path) : Prop := w.files.Straight w.here p

instance (w : World) (p : Path) : Decidable (w.Straight p) :=
  inferInstanceAs (Decidable (w.files.Straight w.here p))

variable {w : World} {p q : Path} {l : Location}

/-- A removal takes away the entry that the path leads to, or there is none. -/
theorem remove_cases (w : World) (p : Path) :
    (∃ k e, w.files.get? k = some e ∧ e ≠ .directory ∧ (∀ l, w.Removable p l ↔ l = k) ∧
      w.remove p = (.ok (), { w with files := w.files.erase k })) ∨
    (∀ l, ¬w.Removable p l) ∧ ∃ cause, w.remove p = (.error cause, w) := by
  unfold remove
  cases hremove : w.files.removeFile w.here p with
  | ok files =>
    obtain ⟨k, e, hentry, he, rfl⟩ := removeFile_eq_erase w.here hremove
    refine .inl ⟨k, e, (arrives_of_entry he hentry).entry, he, fun l => ?_, rfl⟩
    simp [Removable, hentry, he, eq_comm]
  | error cause =>
    refine .inr ⟨?_, cause, rfl⟩
    rintro l ⟨e, hentry, he⟩
    rw [removeFile, hentry] at hremove
    cases e with
    | directory => exact he rfl
    | file data mode => cases hremove
    | symlink target => cases hremove
    | device d => cases hremove

theorem straight_remove (h : w.Straight q) (p : Path) : (w.remove p).2.Straight q := by
  rcases w.remove_cases p with ⟨k, e, hk, he, -, hremove⟩ | ⟨-, cause, hremove⟩
  · rw [hremove]
    exact FileTree.Straight.erase h hk he
  · rwa [hremove]

/-- After a removal a path leads where it did, unless that was what has been removed. -/
theorem removable_remove (h : w.Straight q) (p : Path) (l : Location) :
    (w.remove p).2.Removable q l ↔ w.Removable q l ∧ ¬w.Removable p l := by
  rcases w.remove_cases p with ⟨k, e, hk, he, hp, hremove⟩ | ⟨hp, cause, hremove⟩
  · rw [hremove, hp]
    constructor
    · rintro ⟨e', hentry, he'⟩
      obtain ⟨hentry, hne⟩ := (entry_erase h hk he he').1 hentry
      exact ⟨⟨e', hentry, he'⟩, hne⟩
    · rintro ⟨⟨e', hentry, he'⟩, hne⟩
      exact ⟨e', (entry_erase h hk he he').2 ⟨hentry, hne⟩, he'⟩
  · rw [hremove]
    simp [hp]

end World

theorem FileTree.length_erase {t : FileTree} {l : Location} {e : Entry} (h : t.get? l = some e) :
    (t.erase l).entries.length + 1 = t.entries.length := by
  obtain ⟨entries, sorted⟩ := t
  change lookup l entries = some e at h
  change (entries.filter fun x => x.1 ≠ l).length + 1 = entries.length
  induction entries with
  | nil => cases h
  | cons x rest ih =>
    obtain ⟨hx, hrest⟩ := List.pairwise_cons.1 sorted
    unfold lookup at h
    split at h
    · next heq =>
      have hkeep : rest.filter (fun y => y.1 ≠ l) = rest := by
        refine List.filter_eq_self.2 fun y hy => decide_eq_true ?_
        rintro rfl
        exact List.lt_irrefl _ (heq ▸ hx y hy)
      rw [List.filter_cons_of_neg (by simp [heq]), hkeep, List.length_cons]
    · next hne =>
      rw [List.filter_cons_of_pos (by simpa using Ne.symm hne), List.length_cons, List.length_cons,
        ih hrest h]

namespace Artifacts

/-- What is between two worlds if just what some paths lead to has been removed, entry by entry. -/
structure Removed (ps : List Path) (w w' : World) (count : Nat) : Prop where
  gone : ∀ l, (∃ p ∈ ps, w.Removable p l) → w'.files.get? l = none
  kept : ∀ l, (¬∃ p ∈ ps, w.Removable p l) → w'.files.get? l = w.files.get? l
  count : w'.files.entries.length + count = w.files.entries.length
  rest : w' = { w with files := w'.files }

variable {ps : List Path} {w w' : World} {p : Path}

theorem removed_remove (w : World) (p : Path) :
    Removed [p] w (w.remove p).2 (if (w.remove p).1.toBool then 1 else 0) := by
  rcases w.remove_cases p with ⟨k, e, hk, he, hp, hremove⟩ | ⟨hp, cause, hremove⟩
  · rw [hremove]
    refine ⟨fun l hl => ?_, fun l hl => ?_, length_erase hk, rfl⟩
    · have heq : l = k := by simpa [hp] using hl
      simp [heq]
    · have hne : l ≠ k := by simpa [hp] using hl
      simp [hne]
  · rw [hremove]
    refine ⟨fun l hl => ?_, fun l hl => rfl, rfl, rfl⟩
    simp [hp] at hl

/-- What is removed after other removals is what would have been removed before, but for what is
gone already. -/
theorem Removed.cons {w'' : World} {first more : Nat} (hstraight : ∀ q ∈ ps, w.Straight q)
    (h : Removed [p] w (w.remove p).2 first) (h' : Removed ps (w.remove p).2 w'' more) :
    Removed (p :: ps) w w'' (first + more) := by
  have hleads (l : Location) : (∃ q ∈ ps, (w.remove p).2.Removable q l) ↔
      (∃ q ∈ ps, w.Removable q l) ∧ ¬w.Removable p l := by
    constructor
    · rintro ⟨q, hq, hl⟩
      obtain ⟨hl, hne⟩ := (World.removable_remove (hstraight q hq) p l).1 hl
      exact ⟨⟨q, hq, hl⟩, hne⟩
    · rintro ⟨⟨q, hq, hl⟩, hne⟩
      exact ⟨q, hq, (World.removable_remove (hstraight q hq) p l).2 ⟨hl, hne⟩⟩
  refine ⟨fun l hl => ?_, fun l hl => ?_, ?_, ?_⟩
  · by_cases hrest : ∃ q ∈ ps, (w.remove p).2.Removable q l
    · exact h'.gone l hrest
    · rw [h'.kept l hrest]
      refine h.gone l ⟨p, List.mem_singleton.2 rfl, ?_⟩
      rw [hleads] at hrest
      rcases (List.exists_mem_cons_iff _ _ _).1 hl with hp | hps
      · exact hp
      · exact Classical.byContradiction fun hp => hrest ⟨hps, hp⟩
  · rw [List.exists_mem_cons_iff, not_or] at hl
    rw [h'.kept l fun hps => hl.2 ((hleads l).1 hps).1, h.kept l (by simpa using hl.1)]
  · rw [← h.count, ← h'.count]
    omega
  · rw [h'.rest, h.rest]

theorem removed_removeAll (programs : Behaviour) (hstraight : ∀ p ∈ ps, w.Straight p) :
    Removed ps w ((removeAll ps).run programs w).2 ((removeAll ps).run programs w).1 := by
  induction ps generalizing w with
  | nil => exact ⟨fun l hl => by simp at hl, fun l hl => rfl, rfl, rfl⟩
  | cons p ps ih =>
    obtain ⟨-, hps⟩ := List.forall_mem_cons.1 hstraight
    have hafter := ih fun q hq => World.straight_remove (hps q hq) p
    have hall := (removed_remove w p).cons hps hafter
    simp only [removeAll, Plan.run_bind, Plan.run_pure]
    exact hall

theorem Removed.congr {qs : List Path} {count : Nat} (h : Removed ps w w' count)
    (heq : ∀ l, (∃ p ∈ ps, w.Removable p l) ↔ ∃ q ∈ qs, w.Removable q l) :
    Removed qs w w' count where
  gone l hl := h.gone l ((heq l).2 hl)
  kept l hl := h.kept l fun hps => hl ((heq l).1 hps)
  count := h.count
  rest := h.rest

/-- Paths without those that have come before in another spelling. -/
def firsts : List Path → List Path
  | [] => []
  | p :: ps => p :: (firsts ps).filter fun q => ¬p.Same q

theorem exists_same_firsts (ps : List Path) (p : Path) :
    (∃ q ∈ firsts ps, q.Same p) ↔ ∃ q ∈ ps, q.Same p := by
  induction ps with
  | nil => rfl
  | cons r ps ih =>
    rw [firsts, List.exists_mem_cons_iff, List.exists_mem_cons_iff, ← ih]
    by_cases hr : r.Same p
    · simp [hr]
    · simp only [hr, false_or]
      constructor
      · rintro ⟨q, hq, hsame⟩
        exact ⟨q, (List.mem_filter.1 hq).1, hsame⟩
      · rintro ⟨q, hq, hsame⟩
        refine ⟨q, List.mem_filter.2 ⟨hq, decide_eq_true fun hrq => hr (hrq.trans hsame)⟩, hsame⟩

theorem firsts_subset (ps : List Path) : firsts ps ⊆ ps := by
  induction ps with
  | nil => exact List.Subset.refl _
  | cons p ps ih =>
    refine List.cons_subset_cons p fun q hq => ih (List.mem_filter.1 hq).1

theorem firsts_concat (ps : List Path) (p : Path) :
    firsts (ps ++ [p]) = if ∃ q ∈ ps, q.Same p then firsts ps else firsts ps ++ [p] := by
  induction ps with
  | nil => rfl
  | cons r ps ih =>
    rw [List.cons_append, firsts, ih, firsts]
    by_cases hps : ∃ q ∈ ps, q.Same p
    · rw [if_pos hps, if_pos ((List.exists_mem_cons_iff _ _ _).2 (.inr hps))]
    · rw [if_neg hps, List.filter_append]
      by_cases hr : r.Same p
      · rw [if_pos ⟨r, List.mem_cons_self, hr⟩]
        simp [hr]
      · rw [if_neg (by simpa [List.exists_mem_cons_iff, hr] using hps)]
        simp [hr]

example : firsts [.ofText "a//b", .ofText "a/./b", .ofText "./a", .ofText "a", .ofText "./a/"] =
    [.ofText "a//b", .ofText "./a", .ofText "a"] := by decide

theorem paths_track_of_firsts {a : Artifacts} (h : a.paths = firsts ps) (p : Path) :
    (a.track p).paths = firsts (ps ++ [p]) := by
  have hholds : a.Holds p ↔ ∃ q ∈ ps, q.Same p := by
    rw [Holds, h, exists_same_firsts]
  rw [paths_track, firsts_concat, h]
  simp only [hholds]

/-- What happens to a set and the world: something is done with the set, or the world changes for
another reason. -/
inductive Event where
  | act (a : Action)
  | elsewhere (w : World)

namespace Event

def apply (programs : Behaviour) (s : Artifacts × World) : Event → Artifacts × World
  | act a => (Artifacts.act programs s a).2
  | elsewhere w => (s.1, w)

def tracked? : Event → Option Path
  | act (.track p) => some p
  | _ => none

/-- Whether an event leaves in the set what is there. -/
def keeps : Event → Bool
  | act .release | act .drop => false
  | _ => true

end Event

/-- A set that is empty at first, and the world, after some events. -/
def after (programs : Behaviour) (w : World) (events : List Event) : Artifacts × World :=
  events.foldl (Event.apply programs) (empty, w)

/-- The paths tracked since the set was last released or dropped. -/
def since (events : List Event) : List Path :=
  (events.rtakeWhile Event.keeps).filterMap Event.tracked?

theorem since_concat (events : List Event) (e : Event) :
    since (events ++ [e]) = if e.keeps then since events ++ e.tracked?.toList else [] := by
  rw [since, List.rtakeWhile_concat]
  split
  · rw [List.filterMap_append]
    cases htracked : e.tracked? <;> simp [since, htracked]
  · rfl

/-- What an event makes of the list of a set. -/
theorem paths_apply (programs : Behaviour) {s : Artifacts × World} {events : List Event}
    (h : s.1.paths = firsts (since events)) (e : Event) :
    (e.apply programs s).1.paths = firsts (since (events ++ [e])) := by
  rw [since_concat]
  cases e with
  | act a =>
    cases a with
    | track p => exact paths_track_of_firsts h p
    | release => rfl
    | drop => rfl
  | elsewhere w =>
    refine h.trans (congrArg firsts ?_)
    exact (List.append_nil _).symm

theorem paths_after (programs : Behaviour) (w : World) (events : List Event) :
    (after programs w events).1.paths = firsts (since events) := by
  induction events using List.reverseRecOn with
  | nil => rfl
  | append_singleton events e ih =>
    rw [after, List.foldl_concat]
    exact paths_apply programs ih e

/-- If no path tracked asks for a directory, the list stands for all that was tracked. -/
theorem exists_removable_firsts (hstraight : ∀ p ∈ ps, w.Straight p) (hdirect : ∀ p ∈ ps, Direct p)
    (l : Location) : (∃ p ∈ firsts ps, w.Removable p l) ↔ ∃ p ∈ ps, w.Removable p l := by
  constructor
  · rintro ⟨p, hp, hl⟩
    exact ⟨p, firsts_subset ps hp, hl⟩
  · rintro ⟨p, hp, e, hentry, he⟩
    obtain ⟨q, hq, hsame⟩ := (exists_same_firsts ps p).2 ⟨p, hp, Path.Same.refl p⟩
    have hqs := firsts_subset ps hq
    have hentry' := (entry_of_same hsame (hdirect q hqs) (hdirect p hp) (hstraight q hqs)
      (hstraight p hp)).2 hentry
    exact ⟨q, hq, e, hentry', he⟩

/-- After any events a set lists each path tracked since it was last emptied once, in the order of
the first tracking. If none of them leads through a link, a release and a drop remove exactly the
entries that the listed paths lead to, but for directories; the count is that of the entries gone,
the set is empty, and releasing it again does nothing. If besides none of the paths asks for a
directory, these are the entries that the tracked paths lead to. -/
theorem release_after (programs : Behaviour) (start : World) (events : List Event) :
    let s := after programs start events
    s.1.paths = firsts (since events) ∧ (s.1.paths.Pairwise fun p q => ¬p.Same q) ∧
    ((∀ p ∈ since events, s.2.Straight p) → ∃ count w',
      act programs s .release = (some count, empty, w') ∧
      act programs s .drop = (none, empty, w') ∧
      act programs (empty, w') .release = (some 0, empty, w') ∧
      Removed s.1.paths s.2 w' count ∧
      ((∀ p ∈ since events, Direct p) → Removed (since events) s.2 w' count)) := by
  intro s
  have hpaths := paths_after programs start events
  refine ⟨hpaths, s.1.distinct, fun hstraight => ?_⟩
  have hlisted : ∀ p ∈ s.1.paths, s.2.Straight p := fun p hp =>
    hstraight p (firsts_subset _ (hpaths ▸ hp))
  have hremoved := removed_removeAll programs hlisted
  refine ⟨_, _, rfl, rfl, rfl, hremoved, fun hdirect => hremoved.congr fun l => ?_⟩
  rw [hpaths]
  exact exists_removable_firsts hstraight hdirect l

/-- A file in two spellings, a directory and nothing, tracked after a release, in a world that has
changed in between. -/
theorem release_after_mixed :
    let w := Discovery.rootWorld ["a", "b"]
    let w' := { w with files := w.files.insert [Text.utf8 "d"] .directory }
    let events : List Event := [.act (.track (.ofText "b")), .act .drop,
      .act (.track (.ofText "./a")), .elsewhere w', .act (.track (.ofText "d")),
      .act (.track (.ofText "a")), .act (.track (.ofText ".//a")), .act (.track (.ofText "c"))]
    let s := after scribe w events
    s.1.paths = [.ofText "./a", .ofText "d", .ofText "a", .ofText "c"] ∧
    (∀ p ∈ since events, s.2.Straight p) ∧ (∀ p ∈ since events, Direct p) ∧
    ∃ count w'', act scribe s .release = (some count, empty, w'') ∧ count = 1 ∧
      Removed (since events) s.2 w'' count := by
  intro w w' events s
  obtain ⟨hpaths, -, hrelease⟩ := release_after scribe w events
  have hstraight : ∀ p ∈ since events, s.2.Straight p := by decide +kernel
  have hdirect : ∀ p ∈ since events, Direct p := by decide +kernel
  obtain ⟨count, w'', hcount, -, -, -, hremoved⟩ := hrelease hstraight
  refine ⟨hpaths.trans (by decide +kernel), hstraight, hdirect, count, w'', hcount, ?_,
    hremoved hdirect⟩
  have hone : (act scribe s .release).1 = some 1 := by decide +kernel
  rw [hcount] at hone
  exact Option.some.inj hone

/-- A file is tracked after a path that is the same but for a slash at its end. It is not listed
again, the slash keeps it from being removed, and it stays. -/
theorem release_misses_respelled :
    let w := Discovery.rootWorld ["a"]
    let events : List Event := [.act (.track (.ofText "a/")), .act (.track (.ofText "a"))]
    let s := after scribe w events
    since events = [.ofText "a/", .ofText "a"] ∧ (∀ p ∈ since events, s.2.Straight p) ∧
    s.1.paths = [.ofText "a/"] ∧ s.2.Removable (.ofText "a") [Text.utf8 "a"] ∧
    act scribe s .release = (some 0, empty, s.2) ∧
    ¬∃ count w', act scribe s .release = (some count, empty, w') ∧
      Removed (since events) s.2 w' count := by
  intro w events s
  have hrelease : act scribe s .release = (some 0, empty, s.2) := by rfl
  have hremovable : s.2.Removable (.ofText "a") [Text.utf8 "a"] :=
    ⟨.file [] false, by rfl, by decide⟩
  refine ⟨by decide, by decide +kernel, by decide +kernel, hremovable, hrelease, ?_⟩
  rintro ⟨count, w', hact, hremoved⟩
  obtain rfl : s.2 = w' := congrArg (fun x => x.2.2) (hrelease.symm.trans hact)
  have hgone := hremoved.gone _ ⟨.ofText "a", by decide, hremovable⟩
  cases hgone

end Artifacts

end Crosscheck
