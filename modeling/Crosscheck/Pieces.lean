/-!
# Splitting at a separator

`pieces sep xs` is what lies between the separators of `xs`: one piece more than there are
separators, and joining them with the separator gives `xs` back.
-/

namespace Crosscheck

variable {α : Type}

def pieces [DecidableEq α] (sep : α) : List α → List (List α)
  | [] => [[]]
  | x :: xs =>
    if x = sep then [] :: pieces sep xs
    else match pieces sep xs with
      | piece :: more => (x :: piece) :: more
      | [] => [[x]]

/-- The pieces with the separator between them. -/
def joinWith (sep : α) : List (List α) → List α
  | [] => []
  | [piece] => piece
  | piece :: more => piece ++ sep :: joinWith sep more

theorem pieces_ne_nil [DecidableEq α] (sep : α) (xs : List α) : pieces sep xs ≠ [] := by
  cases xs with
  | nil => simp [pieces]
  | cons x xs => unfold pieces; repeat' split <;> simp

theorem joinWith_cons {sep : α} {piece : List α} {more : List (List α)} (h : more ≠ []) :
    joinWith sep (piece :: more) = piece ++ sep :: joinWith sep more := by
  cases more with
  | nil => contradiction
  | cons => rfl

theorem joinWith_pieces [DecidableEq α] (sep : α) (xs : List α) : joinWith sep (pieces sep xs) = xs := by
  induction xs with
  | nil => rfl
  | cons x xs ih =>
    unfold pieces
    split
    · next h => rw [joinWith_cons (pieces_ne_nil sep xs), ih, h]; rfl
    · split
      · next piece more heq =>
        rw [heq] at ih
        cases more with
        | nil => simpa [joinWith] using ih
        | cons => simpa [joinWith] using ih
      · next heq => exact absurd heq (pieces_ne_nil sep xs)

theorem not_mem_of_mem_pieces [DecidableEq α] {sep : α} {xs piece : List α} (h : piece ∈ pieces sep xs) :
    sep ∉ piece := by
  induction xs generalizing piece with
  | nil => simp [pieces] at h; simp [h]
  | cons x xs ih =>
    unfold pieces at h
    split at h
    · rcases List.mem_cons.1 h with rfl | h
      · simp
      · exact ih h
    · next hx =>
      split at h
      · next first more heq =>
        rcases List.mem_cons.1 h with rfl | h
        · have hfirst : sep ∉ first := ih (by simp [heq])
          simp [Ne.symm hx, hfirst]
        · exact ih (by simp [heq, h])
      · next heq => exact absurd heq (pieces_ne_nil sep xs)

theorem pieces_of_not_mem [DecidableEq α] {sep : α} {xs : List α} (h : sep ∉ xs) :
    pieces sep xs = [xs] := by
  induction xs with
  | nil => rfl
  | cons x xs ih =>
    obtain ⟨hx, hxs⟩ := not_or.1 (mt List.mem_cons.2 h)
    rw [pieces, if_neg (Ne.symm hx), ih hxs]

theorem pieces_append_sep [DecidableEq α] (sep : α) (xs ys : List α) :
    pieces sep (xs ++ sep :: ys) = pieces sep xs ++ pieces sep ys := by
  induction xs with
  | nil => simp [pieces]
  | cons x xs ih =>
    simp only [List.cons_append, pieces]
    split
    · rw [ih]
      rfl
    · rw [ih]
      obtain ⟨piece, more, hxs⟩ := List.exists_cons_of_ne_nil (pieces_ne_nil sep xs)
      rw [hxs]
      rfl

/-- What holds no separator adds to the last piece only. -/
theorem pieces_append [DecidableEq α] {sep : α} {xs ys last : List α} {front : List (List α)}
    (hxs : pieces sep xs = front ++ [last]) (hys : sep ∉ ys) :
    pieces sep (xs ++ ys) = front ++ [last ++ ys] := by
  induction xs generalizing front last with
  | nil =>
    obtain ⟨rfl, rfl⟩ : front = [] ∧ last = [] := by
      cases front <;> simp_all [pieces]
    simp [pieces_of_not_mem hys]
  | cons x xs ih =>
    obtain ⟨piece, more, hpieces⟩ := List.exists_cons_of_ne_nil (pieces_ne_nil sep xs)
    simp only [List.cons_append, pieces] at hxs ⊢
    by_cases hx : x = sep
    · simp only [hx, if_true] at hxs ⊢
      cases front with
      | nil => simp [hpieces] at hxs
      | cons f front =>
        obtain ⟨rfl, hrest⟩ := List.cons.inj hxs
        rw [ih hrest]
        rfl
    · simp only [hx, if_false, hpieces] at hxs ⊢
      cases front with
      | nil =>
        obtain ⟨rfl, rfl⟩ := List.cons.inj hxs
        rw [ih (show pieces sep xs = [] ++ [piece] from hpieces)]
        rfl
      | cons f front =>
        obtain ⟨rfl, rfl⟩ := List.cons.inj hxs
        rw [ih (show pieces sep xs = (piece :: front) ++ [last] from hpieces)]
        rfl

end Crosscheck
