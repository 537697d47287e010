import Crosscheck.Proofs.Readiness
import Crosscheck.Proofs.Reasons
import Mathlib.Data.List.Nodup

/-!
# The grammar of a list of choices

A list of choices is the word `all`, or it is made of pieces with commas between them, each of which
names one value: without the white space around it, it is a spelling of that value, whatever the
case of its letters. The parser accepts these lists and no others, and returns what they name, piece
by piece. Of any other text it reports the first piece that names nothing. In particular it reads
back what a list of values prints.
-/

namespace Crosscheck

/-- Pieces without the separator are found again in what they are joined to. -/
theorem pieces_joinWith {α : Type} [DecidableEq α] {sep : α} {ps : List (List α)} (hne : ps ≠ [])
    (hsep : ∀ p ∈ ps, sep ∉ p) : pieces sep (joinWith sep ps) = ps := by
  induction ps with
  | nil => contradiction
  | cons p ps ih =>
    obtain ⟨hp, hps⟩ := List.forall_mem_cons.1 hsep
    cases ps with
    | nil => exact pieces_of_not_mem hp
    | cons q qs =>
      rw [joinWith_cons (List.cons_ne_nil q qs), pieces_append_sep, pieces_of_not_mem hp,
        ih (List.cons_ne_nil q qs) hps]
      rfl

theorem bind_eq_error_iff {ε α β : Type} {x : Except ε α} {f : α → Except ε β} {e : ε} :
    (x >>= f) = .error e ↔ x = .error e ∨ ∃ a, x = .ok a ∧ f a = .error e := by
  cases x with
  | error e' => simp [bind, Except.bind]
  | ok a => simp [bind, Except.bind]

/-- The error of a list is the error of its first element that has one. -/
theorem mapM_eq_error_iff {ε α β : Type} {f : α → Except ε β} {as : List α} {e : ε} :
    as.mapM f = .error e ↔ ∃ front a back, as = front ++ a :: back ∧
      (∀ x ∈ front, ∃ b, f x = .ok b) ∧ f a = .error e := by
  induction as with
  | nil =>
    refine ⟨fun h => ?_, fun ⟨front, a, back, h, _⟩ => ?_⟩
    · rw [List.mapM_nil] at h
      cases h
    · exact absurd h.symm (by simp)
  | cons x as ih =>
    rw [List.mapM_cons, bind_eq_error_iff]
    constructor
    · rintro (hx | ⟨b, hx, hrest⟩)
      · exact ⟨[], x, as, rfl, by simp, hx⟩
      · obtain has | ⟨bs, -, hpure⟩ := bind_eq_error_iff.1 hrest
        · obtain ⟨front, a, back, rfl, hfront, ha⟩ := ih.1 has
          exact ⟨x :: front, a, back, rfl, List.forall_mem_cons.2 ⟨⟨b, hx⟩, hfront⟩, ha⟩
        · cases hpure
    · rintro ⟨front, a, back, hsplit, hfront, ha⟩
      cases front with
      | nil =>
        obtain ⟨rfl, rfl⟩ := List.cons.inj hsplit
        exact .inl ha
      | cons y front =>
        obtain ⟨rfl, rfl⟩ := List.cons.inj hsplit
        obtain ⟨⟨b, hx⟩, hfront⟩ := List.forall_mem_cons.1 hfront
        exact .inr ⟨b, hx, bind_eq_error_iff.2 (.inl (ih.2 ⟨front, a, back, rfl, hfront, ha⟩))⟩

namespace Text

/-- `core` is what is left of `text` without the white space around it. -/
structure Trimmed (text core : List Char) : Prop where
  around : ∃ left right, text = left ++ core ++ right ∧ ∀ c ∈ left ++ right, isBlank c = true
  head : ∀ c ∈ core.head?, isBlank c = false
  last : ∀ c ∈ core.getLast?, isBlank c = false

theorem trimmed_trimChars (cs : List Char) : Trimmed cs (trimChars cs) where
  around := by
    refine ⟨cs.takeWhile isBlank, (cs.dropWhile isBlank).rtakeWhile isBlank, ?_, ?_⟩
    · rw [trimChars_eq, List.append_assoc, List.rdropWhile_append_rtakeWhile,
        List.takeWhile_append_dropWhile]
    · intro c hc
      obtain hc | hc := List.mem_append.1 hc
      · exact List.mem_takeWhile_imp hc
      · exact List.mem_rtakeWhile_imp hc
  head := by
    intro c hc
    obtain ⟨more, hmore⟩ := List.rdropWhile_prefix isBlank (cs.dropWhile isBlank)
    have hfirst := List.head?_dropWhile_not isBlank cs
    rw [← hmore, ← trimChars_eq, List.head?_append, Option.mem_def.1 hc] at hfirst
    simpa using hfirst
  last := by
    intro c hc
    obtain ⟨hne, rfl⟩ := List.mem_getLast?_eq_getLast hc
    exact eq_false_of_ne_true (List.rdropWhile_last_not isBlank (cs.dropWhile isBlank) hne)

theorem Trimmed.trimChars_eq {text core : List Char} (h : Trimmed text core) :
    trimChars text = core := by
  obtain ⟨left, right, rfl, hblank⟩ := h.around
  obtain ⟨hleft, hright⟩ := List.forall_mem_append.1 hblank
  rw [Text.trimChars_eq, List.append_assoc, List.dropWhile_append_of_pos hleft]
  cases hcore : core with
  | nil =>
    rw [List.nil_append, List.dropWhile_eq_nil_iff.2 hright]
    rfl
  | cons c cs =>
    have hc : isBlank c = false := h.head c (by rw [hcore]; rfl)
    rw [List.cons_append, List.dropWhile_cons_of_neg (by simp [hc]), ← List.cons_append, ← hcore]
    have hcut : (core ++ right).rdropWhile isBlank = core.rdropWhile isBlank := by
      rw [List.rdropWhile, List.reverse_append,
        List.dropWhile_append_of_pos (by simpa using hright)]
      rfl
    rw [hcut, List.rdropWhile_eq_self_iff]
    intro hne
    simp [h.last _ (List.getLast_mem_getLast? hne)]

theorem trimmed_iff {text core : List Char} : Trimmed text core ↔ core = trimChars text :=
  ⟨fun h => h.trimChars_eq.symm, fun h => h ▸ trimmed_trimChars text⟩

/-- A word in which there is neither white space nor a comma. -/
def Tidy (word : List Char) : Prop := ∀ c ∈ word, isBlank c = false ∧ c ≠ ','

instance (word : List Char) : Decidable (Tidy word) :=
  List.decidableBAll (fun c => isBlank c = false ∧ c ≠ ',') word

theorem toLower_of_isBlank {c : Char} (h : isBlank c = true) : c.toLower = c := by
  have hcapital : ¬('A'.val ≤ c.val ∧ c.val ≤ 'Z'.val) := by
    rw [UInt32.le_iff_toNat_le, UInt32.le_iff_toNat_le]
    change ¬(65 ≤ c.toNat ∧ c.toNat ≤ 90)
    simp only [isBlank, Bool.or_eq_true, Bool.and_eq_true, decide_eq_true_eq, beq_iff_eq] at h
    omega
  exact dif_neg hcapital

/-- Small letters take no white space and no comma away. -/
theorem tidy_of_lower {s : String} (h : Tidy (lower s).toList) : Tidy s.toList := by
  intro c hc
  have hlower : c.toLower ∈ (lower s).toList := by
    rw [lower, String.toList_ofList]
    exact List.mem_map_of_mem hc
  obtain ⟨hblank, hcomma⟩ := h _ hlower
  refine ⟨?_, ?_⟩
  · by_contra hc
    rw [toLower_of_isBlank (eq_true_of_ne_false hc)] at hblank
    exact hc hblank
  · rintro rfl
    exact hcomma rfl

theorem sameLetters_iff {a b : String} : sameLetters a b = true ↔ lower a = lower b := beq_iff_eq

/-- A tidy word with white space around it is found again by trimming. -/
theorem Tidy.trimmed {left core right : List Char} (h : Tidy core)
    (hblank : ∀ c ∈ left ++ right, isBlank c = true) : Trimmed (left ++ core ++ right) core where
  around := ⟨left, right, rfl, hblank⟩
  head := fun c hc => (h c (List.mem_of_head? hc)).1
  last := fun c hc => (h c (List.mem_of_getLast? hc)).1

end Text

namespace Vocabulary

open Text

variable {α : Type} (v : Vocabulary α) (display : α → String)

/-- A piece of a list that names a value: what is left without the white space around it is a
spelling of the value up to the case of letters. -/
def Names (piece : List Char) (a : α) : Prop :=
  ∃ core spelling, Trimmed piece core ∧ (spelling, a) ∈ v.spellings ∧
    sameLetters (String.ofList core) spelling = true

/-- The lists of choices and what they name. -/
inductive Denotes : String → List α → Prop
  | all {s} (h : sameLetters s "all" = true) : Denotes s v.all
  | list {ps as} (hne : ps ≠ []) (hcomma : ∀ p ∈ ps, ',' ∉ p)
      (hnames : List.Forall₂ v.Names ps as) :
      Denotes (String.ofList (joinWith ',' ps)) as

/-- The first piece of `s` that names nothing is `bad`. -/
def Stumbles (s : String) (bad : List Char) : Prop :=
  ∃ front back, s.toList = joinWith ',' (front ++ bad :: back) ∧
    (∀ p ∈ front ++ bad :: back, ',' ∉ p) ∧ (∀ p ∈ front, ∃ a, v.Names p a) ∧ ∀ a, ¬v.Names bad a

/-- A piece that shows a value: its display text in any case of letters, with any white space
around it. -/
def Shows (piece : List Char) (a : α) : Prop :=
  ∃ left core right, piece = left ++ core ++ right ∧ (∀ c ∈ left ++ right, isBlank c = true) ∧
    sameLetters (String.ofList core) (display a) = true

/-- A vocabulary whose spellings are told from each other, from `all`, from white space and from
commas, and which spells every value as it is displayed. -/
structure Plain : Prop where
  lower : ∀ entry ∈ v.spellings, lower entry.1 = entry.1
  tidy : ∀ entry ∈ v.spellings, Tidy entry.1.toList
  unique : (v.spellings.map Prod.fst).Nodup
  ne_all : ∀ entry ∈ v.spellings, entry.1 ≠ "all"
  shown : ∀ a, (Text.lower (display a), a) ∈ v.spellings

variable {v display}

theorem parse_eq_error_iff {s : String} {e : UnknownName} : v.parse s = .error e ↔
    (∀ a, v.parse s ≠ .ok a) ∧ e = ⟨v.noun, s, v.expected⟩ := by
  unfold parse
  cases v.spellings.find? fun entry => entry.1 == Text.lower s with
  | none => simp [eq_comm]
  | some entry => simp

namespace Plain

variable (hv : v.Plain display)
include hv

theorem parse_eq_ok_iff {s : String} {a : α} : v.parse s = .ok a ↔
    ∃ spelling, (spelling, a) ∈ v.spellings ∧ sameLetters s spelling = true := by
  unfold parse
  constructor
  · intro h
    split at h
    · next spelling b hfind =>
      obtain rfl := Except.ok.inj h
      have hmem := List.mem_of_find?_eq_some hfind
      have hspelling : spelling = Text.lower s := by simpa using List.find?_some hfind
      refine ⟨spelling, hmem, sameLetters_iff.2 ?_⟩
      rw [hv.lower _ hmem, hspelling]
    · cases h
  · rintro ⟨spelling, hmem, hsame⟩
    have hspelling : spelling = Text.lower s := by
      rw [sameLetters_iff.1 hsame]
      exact (hv.lower _ hmem).symm
    cases hfind : v.spellings.find? fun entry => entry.1 == Text.lower s with
    | none => exact absurd (by simpa using hspelling) (List.find?_eq_none.1 hfind _ hmem)
    | some entry =>
      have hentry : entry.1 = Text.lower s := by simpa using List.find?_some hfind
      -- no two entries have one spelling
      have heq := List.inj_on_of_nodup_map hv.unique (List.mem_of_find?_eq_some hfind) hmem
        (hentry.trans hspelling.symm)
      rw [heq]

theorem names_iff {piece : List Char} {a : α} :
    v.Names piece a ↔ v.parse (trim (String.ofList piece)) = .ok a := by
  have htrim : trim (String.ofList piece) = String.ofList (trimChars piece) := by
    rw [trim, String.toList_ofList]
  rw [htrim, hv.parse_eq_ok_iff]
  constructor
  · rintro ⟨core, spelling, hcore, hmem, hsame⟩
    rw [trimmed_iff.1 hcore] at hsame
    exact ⟨spelling, hmem, hsame⟩
  · rintro ⟨spelling, hmem, hsame⟩
    exact ⟨trimChars piece, spelling, trimmed_trimChars piece, hmem, hsame⟩

theorem tidy_of_sameLetters {core spelling : String} {a : α} (hmem : (spelling, a) ∈ v.spellings)
    (hsame : sameLetters core spelling = true) : Tidy core.toList := by
  apply tidy_of_lower
  rw [sameLetters_iff.1 hsame, hv.lower _ hmem]
  exact hv.tidy _ hmem

theorem names_of_shows {piece : List Char} {a : α} (h : Shows display piece a) :
    v.Names piece a := by
  obtain ⟨left, core, right, rfl, hblank, hsame⟩ := h
  have hsame' : sameLetters (String.ofList core) (Text.lower (display a)) = true := by
    rw [sameLetters_iff, sameLetters_iff.1 hsame]
    exact (hv.lower _ (hv.shown a)).symm
  have htidy : Tidy core := by simpa using hv.tidy_of_sameLetters (hv.shown a) hsame'
  exact ⟨core, _, htidy.trimmed hblank, hv.shown a, hsame'⟩

theorem comma_notMem {piece : List Char} {a : α} (h : v.Names piece a) : ',' ∉ piece := by
  obtain ⟨core, spelling, hcore, hmem, hsame⟩ := h
  obtain ⟨left, right, rfl, hblank⟩ := hcore.around
  have htidy : Tidy core := by simpa using hv.tidy_of_sameLetters hmem hsame
  intro hcomma
  rw [List.append_assoc, List.mem_append, List.mem_append] at hcomma
  obtain hleft | hcore | hright := hcomma
  · exact absurd (hblank _ (List.mem_append_left _ hleft)) (by decide)
  · exact (htidy _ hcore).2 rfl
  · exact absurd (hblank _ (List.mem_append_right _ hright)) (by decide)

/-- The word `all` is no list of spellings. -/
theorem not_all {ps : List (List Char)} {as : List α} (hne : ps ≠ [])
    (hnames : List.Forall₂ v.Names ps as) :
    sameLetters (String.ofList (joinWith ',' ps)) "all" = false := by
  by_contra hall
  have hlower := sameLetters_iff.1 (eq_true_of_ne_false hall)
  have htidy : Tidy (joinWith ',' ps) := by
    simpa using tidy_of_lower (s := String.ofList (joinWith ',' ps)) (by rw [hlower]; decide)
  cases hnames with
  | nil => exact hne rfl
  | @cons p a ps as hp hps =>
    cases ps with
    | nil =>
      obtain ⟨core, spelling, hcore, hmem, hsame⟩ := hp
      -- nothing is trimmed off, so the word is itself a spelling
      have hself : Trimmed p p := by
        have hbare : Trimmed ([] ++ p ++ []) p := Tidy.trimmed htidy (by simp)
        simpa using hbare
      rw [trimmed_iff.1 hcore, ← trimmed_iff.1 hself] at hsame
      refine hv.ne_all _ hmem ?_
      rw [← hv.lower _ hmem, ← sameLetters_iff.1 hsame]
      exact hlower
    | cons q ps =>
      rw [joinWith_cons (List.cons_ne_nil q ps)] at htidy
      exact (htidy ',' (by simp)).2 rfl

theorem parseList_eq_ok_iff {s : String} {as : List α} :
    v.parseList s = .ok as ↔ v.Denotes s as := by
  constructor
  · intro h
    unfold parseList at h
    split at h
    · next hall =>
      obtain rfl := Except.ok.inj h
      exact .all hall
    · have hnames : List.Forall₂ v.Names (pieces ',' s.toList) as := by
        rw [mapM_eq_ok_iff, listPieces, List.forall₂_map_left_iff] at h
        exact h.imp fun _ _ => hv.names_iff.2
      have hlist : v.Denotes (String.ofList (joinWith ',' (pieces ',' s.toList))) as :=
        .list (pieces_ne_nil _ _) (fun _ => not_mem_of_mem_pieces) hnames
      rwa [joinWith_pieces, String.ofList_toList] at hlist
  · intro h
    cases h with
    | all hall => rw [parseList, if_pos hall]
    | @list ps _ hne hcomma hnames =>
      rw [parseList, hv.not_all hne hnames, if_neg Bool.false_ne_true, mapM_eq_ok_iff, listPieces,
        String.toList_ofList, pieces_joinWith hne hcomma, List.forall₂_map_left_iff]
      exact hnames.imp fun _ _ => hv.names_iff.1

theorem exists_stumbles {s : String} (h : ∀ as, ¬v.Denotes s as) :
    ∃ bad core, v.Stumbles s bad ∧ Trimmed bad core ∧
      v.parseList s = .error ⟨v.noun, String.ofList core, v.expected⟩ := by
  cases hparse : v.parseList s with
  | ok as => exact absurd (hv.parseList_eq_ok_iff.1 hparse) (h as)
  | error e =>
    unfold parseList at hparse
    split at hparse
    · cases hparse
    · obtain ⟨front, text, back, hsplit, hfront, htext⟩ := mapM_eq_error_iff.1 hparse
      obtain ⟨ps, rest, hpieces, rfl, hrest⟩ := List.map_eq_append_iff.1 hsplit
      obtain ⟨bad, qs, rfl, rfl, rfl⟩ := List.map_eq_cons_iff.1 hrest
      obtain ⟨hbad, rfl⟩ := parse_eq_error_iff.1 htext
      refine ⟨bad, trimChars bad, ⟨ps, qs, ?_, ?_, ?_, ?_⟩, trimmed_trimChars bad, ?_⟩
      · rw [← hpieces, joinWith_pieces]
      · rw [← hpieces]
        exact fun _ => not_mem_of_mem_pieces
      · intro p hp
        obtain ⟨a, ha⟩ := hfront _ (List.mem_map_of_mem hp)
        exact ⟨a, hv.names_iff.2 ha⟩
      · exact fun a hname => hbad a (hv.names_iff.1 hname)
      · rw [trim, String.toList_ofList]

theorem reads_back {ps : List (List Char)} {as : List α} (hne : as ≠ [])
    (hshows : List.Forall₂ (Shows display) ps as) :
    v.parseList (String.ofList (joinWith ',' ps)) = .ok as := by
  have hnames : List.Forall₂ v.Names ps as := hshows.imp fun _ _ => hv.names_of_shows
  refine hv.parseList_eq_ok_iff.2 (.list ?_ ?_ hnames)
  · rintro rfl
    exact hne (List.forall₂_nil_left_iff.1 hnames)
  · intro p hp
    obtain ⟨a, hname⟩ := exists_forall₂_iff.1 ⟨as, hnames⟩ p hp
    exact hv.comma_notMem hname

end Plain

/-- The parser takes exactly the lists of the grammar, tells what is wrong with any other text, and
reads back what is displayed. -/
structure Understood (v : Vocabulary α) (display : α → String) : Prop where
  accepts : ∀ s as, v.parseList s = .ok as ↔ v.Denotes s as
  rejects : ∀ s, (∀ as, ¬v.Denotes s as) → ∃ bad core, v.Stumbles s bad ∧ Trimmed bad core ∧
    v.parseList s = .error ⟨v.noun, String.ofList core, v.expected⟩
  reads_back : ∀ as ps, as ≠ [] → List.Forall₂ (Shows display) ps as →
    v.parseList (String.ofList (joinWith ',' ps)) = .ok as

theorem Plain.understood (hv : v.Plain display) : v.Understood display where
  accepts _ _ := hv.parseList_eq_ok_iff
  rejects _ := hv.exists_stumbles
  reads_back _ _ := hv.reads_back

end Vocabulary

open Vocabulary

theorem Target.plain_vocabulary : Target.vocabulary.Plain Target.token where
  lower := by decide
  tidy := by decide
  unique := by decide
  ne_all := by decide
  shown t := by cases t <;> decide

theorem Kind.plain_vocabulary : Kind.vocabulary.Plain Kind.label where
  lower := by decide
  tidy := by decide
  unique := by decide
  ne_all := by decide
  shown k := by cases k <;> decide

/-- Lists of targets and lists of kinds are read by their grammar. -/
theorem choices_understood :
    Target.vocabulary.Understood Target.token ∧ Kind.vocabulary.Understood Kind.label :=
  ⟨Target.plain_vocabulary.understood, Kind.plain_vocabulary.understood⟩

example : Kind.vocabulary.parseList "\u3000MiniMoonBit ,C,\tmbt" =
    .ok [.miniMoonBit, .c, .miniMoonBit] := by decide

example : Target.vocabulary.parseList "rv64, all ,mips" =
    .error ⟨"target", "all", "riscv64, aarch64"⟩ := by decide

end Crosscheck
