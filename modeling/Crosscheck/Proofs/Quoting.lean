import Crosscheck.Outcome
import Mathlib.Data.List.Basic

/-!
# Reading quoted texts back

A quoted text ends at the first quote that no backslash precedes, and each character inside can be
read back. So a quoted text can be told from whatever comes after it. A number, and the note of what
was left out, can be told from what comes after them where that is nothing or begins with a blank.
-/

namespace Crosscheck

namespace Text

/-- What is written by `f` can be told from what comes after it and read back, up to `same`. -/
def Separable {α : Type} (after : List Char → Prop) (same : α → α → Prop) (f : α → List Char) :
    Prop :=
  ∀ ⦃a b : α⦄ ⦃s t : List Char⦄, after s → after t → f a ++ s = f b ++ t → same a b ∧ s = t

/-- Nothing, or a text that begins with this character. -/
def StartsWith (stop : Char) (s : List Char) : Prop := ∀ c ∈ s.head?, c = stop

/-- Where a character stops both, they can be told from what comes after them. -/
theorem append_inj_of_startsWith {stop : Char} {u v s t : List Char} (hu : stop ∉ u)
    (hv : stop ∉ v) (hs : StartsWith stop s) (ht : StartsWith stop t) (h : u ++ s = v ++ t) :
    u = v ∧ s = t := by
  induction u generalizing v with
  | nil =>
    cases v with
    | nil => exact ⟨rfl, h⟩
    | cons c v =>
      obtain rfl := hs c (by rw [show s = c :: (v ++ t) from h]; rfl)
      exact absurd List.mem_cons_self hv
  | cons c u ih =>
    cases v with
    | nil =>
      obtain rfl := ht c (by rw [show t = c :: (u ++ s) from h.symm]; rfl)
      exact absurd List.mem_cons_self hu
    | cons d v =>
      obtain ⟨rfl, hrest⟩ := List.cons.inj h
      obtain ⟨rfl, hst⟩ := ih (fun hmem => hu (List.mem_cons_of_mem _ hmem))
        (fun hmem => hv (List.mem_cons_of_mem _ hmem)) hrest
      exact ⟨rfl, hst⟩

theorem StartsWith.append {stop : Char} {s : List Char} (h : s.head? = some stop)
    (t : List Char) : StartsWith stop (s ++ t) := by
  intro c hc
  rw [List.head?_append, h] at hc
  exact (Option.some.inj hc).symm

theorem startsWith_cons (stop : Char) (s : List Char) : StartsWith stop (stop :: s) :=
  fun _ hc => (Option.some.inj hc).symm

/-- The hexadecimal digits of a number before the last one. -/
def leading (n : ℕ) : List Char := if n < 16 then [] else hexDigits (n / 16)

theorem hexDigits_eq (n : ℕ) : hexDigits n = leading n ++ [(n % 16).digitChar] := by
  unfold leading hexDigits
  rw [Nat.toDigits_eq_if (by decide)]
  split
  · next h => rw [List.nil_append, Nat.mod_eq_of_lt h]
  · rfl

theorem hexDigits_ne_nil (n : ℕ) : hexDigits n ≠ [] := by
  rw [hexDigits_eq]
  exact List.append_ne_nil_of_right_ne_nil _ (List.cons_ne_nil _ _)

theorem digitChar_injective : ∀ a < 16, ∀ b < 16, Nat.digitChar a = Nat.digitChar b → a = b := by
  decide

theorem hexDigits_injective {a b : ℕ} (h : hexDigits a = hexDigits b) : a = b := by
  induction a using Nat.strongRecOn generalizing b with
  | _ a ih =>
    rw [hexDigits_eq a, hexDigits_eq b] at h
    obtain ⟨hleading, hlast⟩ := List.append_inj' h rfl
    have hmod : a % 16 = b % 16 :=
      digitChar_injective _ (Nat.mod_lt a (by decide)) _ (Nat.mod_lt b (by decide))
        (List.cons.inj hlast).1
    unfold leading at hleading
    split at hleading
    · split at hleading
      · omega
      · exact absurd hleading.symm (hexDigits_ne_nil _)
    · split at hleading
      · exact absurd hleading (hexDigits_ne_nil _)
      · have hdiv := ih (a / 16) (by omega) hleading
        omega

theorem digitChar_ne_brace : ∀ a < 16, Nat.digitChar a ≠ '\x7d' := by
  decide

theorem brace_notMem_hexDigits (n : ℕ) : '\x7d' ∉ hexDigits n := by
  induction n using Nat.strongRecOn with
  | _ n ih =>
    rw [hexDigits_eq, List.mem_append, List.mem_singleton]
    rintro (hmem | hlast)
    · unfold leading at hmem
      split at hmem
      · cases hmem
      · exact ih (n / 16) (by omega) hmem
    · exact digitChar_ne_brace _ (Nat.mod_lt n (by decide)) hlast.symm

/-- What a letter after a backslash stands for; a quote and a backslash stand for themselves. -/
def meant (x : Char) : Char :=
  if x = '0' then '\x00' else if x = 't' then '\t' else if x = 'r' then '\r'
  else if x = 'n' then '\n' else x

/-- The ways a character is written. -/
inductive Escaped : Char → List Char → Prop
  | named {x : Char} (hx : x ≠ 'u') : Escaped (meant x) ['\\', x]
  | numbered (c : Char) :
      Escaped c ('\\' :: 'u' :: '\x7b' :: (hexDigits c.toNat ++ ['\x7d']))
  | plain {c : Char} (hquote : c ≠ '"') (hslash : c ≠ '\\') : Escaped c [c]

theorem escaped_escape (c : Char) : Escaped c (escape c) := by
  unfold escape
  split_ifs with hzero htab hreturn hline hquote hslash hunseen
  · exact hzero ▸ .named (x := '0') (by decide)
  · exact htab ▸ .named (x := 't') (by decide)
  · exact hreturn ▸ .named (x := 'r') (by decide)
  · exact hline ▸ .named (x := 'n') (by decide)
  · subst hquote
    exact .named (x := '"') (by decide)
  · subst hslash
    exact .named (x := '\\') (by decide)
  · exact .numbered c
  · exact .plain hquote hslash

theorem Escaped.head_ne_quote {c : Char} {u s t : List Char} (h : Escaped c u) :
    u ++ s ≠ '"' :: t := by
  intro heq
  cases h with
  | named hx => cases heq
  | numbered => cases heq
  | plain hquote hslash => exact hquote (List.cons.inj heq).1

theorem Escaped.append_inj {c d : Char} {u v s t : List Char} (hu : Escaped c u)
    (hv : Escaped d v) (h : u ++ s = v ++ t) : c = d ∧ s = t := by
  cases hu with
  | @named x hx =>
    cases hv with
    | @named y hy =>
      obtain ⟨hxy, hst⟩ := List.cons.inj (List.cons.inj h).2
      exact ⟨congrArg meant hxy, hst⟩
    | numbered => exact absurd (List.cons.inj (List.cons.inj h).2).1 hx
    | plain hquote hslash => exact absurd (List.cons.inj h).1.symm hslash
  | numbered =>
    cases hv with
    | @named y hy => exact absurd (List.cons.inj (List.cons.inj h).2).1.symm hy
    | numbered =>
      simp only [List.cons_append, List.append_assoc, List.cons.injEq, true_and] at h
      obtain ⟨hdigits, hst⟩ := append_inj_of_startsWith (brace_notMem_hexDigits c.toNat)
        (brace_notMem_hexDigits d.toNat) (startsWith_cons _ s) (startsWith_cons _ t) h
      exact ⟨Char.toNat_inj.1 (hexDigits_injective hdigits), (List.cons.inj hst).2⟩
    | plain hquote hslash => exact absurd (List.cons.inj h).1.symm hslash
  | plain hquote hslash =>
    cases hv with
    | named hy => exact absurd (List.cons.inj h).1 hslash
    | numbered => exact absurd (List.cons.inj h).1 hslash
    | plain => exact List.cons.inj h

/-- A quoted text ends where it says so, whatever comes after it. -/
theorem separable_quoteChars : Separable (fun _ => True) (· = ·) quoteChars := by
  intro cs ds s t _ _ h
  simp only [quoteChars, List.cons_append, List.append_assoc, List.cons.injEq, true_and] at h
  induction cs generalizing ds with
  | nil =>
    cases ds with
    | nil => exact ⟨rfl, (List.cons.inj h).2⟩
    | cons d ds =>
      rw [List.flatMap_cons, List.append_assoc] at h
      exact absurd h.symm (escaped_escape d).head_ne_quote
  | cons c cs ih =>
    cases ds with
    | nil =>
      rw [List.flatMap_cons, List.append_assoc] at h
      exact absurd h (escaped_escape c).head_ne_quote
    | cons d ds =>
      rw [List.flatMap_cons, List.flatMap_cons, List.append_assoc, List.append_assoc] at h
      obtain ⟨rfl, hrest⟩ := (escaped_escape c).append_inj (escaped_escape d) h
      obtain ⟨rfl, hst⟩ := ih hrest
      exact ⟨rfl, hst⟩

theorem repr_injective {m n : ℕ} (h : m.repr.toList = n.repr.toList) : m = n := by
  rw [Nat.toList_repr, Nat.toList_repr] at h
  have hread (n : ℕ) : Nat.ofDigitChars 10 (Nat.toDigits 10 n) 0 = n :=
    Nat.ofDigitChars_toDigits (by decide) (by decide)
  rw [← hread m, h, hread]

theorem isDigit_of_mem_repr {n : ℕ} {c : Char} (h : c ∈ n.repr.toList) : c.isDigit = true := by
  rw [Nat.toList_repr] at h
  exact Nat.isDigit_of_mem_toDigits (by decide) (by decide) h

theorem blank_notMem_repr (n : ℕ) : ' ' ∉ n.repr.toList :=
  fun h => absurd (isDigit_of_mem_repr h) (by decide)

theorem toList_negSucc (n : ℕ) : (toString (Int.negSucc n)).toList = '-' :: n.succ.repr.toList :=
  String.toList_append

theorem toString_injective {a b : Int} (h : (toString a).toList = (toString b).toList) : a = b := by
  have hsign {m n : ℕ} (h : m.repr.toList = '-' :: n.repr.toList) : False :=
    absurd (isDigit_of_mem_repr (h ▸ List.mem_cons_self)) (by decide)
  cases a with
  | ofNat m =>
    cases b with
    | ofNat n => exact congrArg Int.ofNat (repr_injective h)
    | negSucc n => exact (hsign (h.trans (toList_negSucc n))).elim
  | negSucc m =>
    cases b with
    | ofNat n => exact (hsign (h.symm.trans (toList_negSucc m))).elim
    | negSucc n =>
      rw [toList_negSucc, toList_negSucc] at h
      exact congrArg Int.negSucc (Nat.succ.inj (repr_injective (List.cons.inj h).2))

theorem blank_notMem_toString (n : Int) : ' ' ∉ (toString n).toList := by
  cases n with
  | ofNat n => exact blank_notMem_repr n
  | negSucc n =>
    rw [toList_negSucc, List.mem_cons]
    exact not_or.2 ⟨by decide, blank_notMem_repr _⟩

/-- Something is left out of both or of neither, and the number can be read back. -/
theorem separable_omission :
    Separable (StartsWith ' ') (· = ·) fun omitted => (omission omitted).toList := by
  have hsome {n : ℕ} (hn : n ≠ 0) (s : List Char) : (omission n).toList ++ s =
      "... [".toList ++ (n.repr.toList ++ (" chars omitted]".toList ++ s)) := by
    rw [omission, if_neg hn, String.toList_append, String.toList_append, List.append_assoc,
      List.append_assoc]
    rfl
  have hblank (s : List Char) : StartsWith ' ' (" chars omitted]".toList ++ s) :=
    .append (by decide) s
  -- a note begins with a dot
  have hnote {n : ℕ} (hn : n ≠ 0) {s t : List Char} (ht : StartsWith ' ' t)
      (h : (omission n).toList ++ s = t) : False := by
    rw [hsome hn] at h
    exact absurd (ht '.' (h ▸ rfl)) (by decide)
  intro m n s t hs ht h
  by_cases hm : m = 0
  · by_cases hn : n = 0
    · subst hm hn
      exact ⟨rfl, h⟩
    · subst hm
      exact (hnote hn hs h.symm).elim
  · by_cases hn : n = 0
    · subst hn
      exact (hnote hm ht h).elim
    · have hnotes := List.append_cancel_left ((hsome hm s).symm.trans (h.trans (hsome hn t)))
      obtain ⟨hdigits, hrest⟩ := append_inj_of_startsWith (blank_notMem_repr m)
        (blank_notMem_repr n) (hblank s) (hblank t) hnotes
      exact ⟨repr_injective hdigits, List.append_cancel_left hrest⟩

end Text

end Crosscheck
