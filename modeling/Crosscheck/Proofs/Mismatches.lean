import Crosscheck.Watch
import Crosscheck.Proofs.Decoding
import Crosscheck.Proofs.Quoting
import Mathlib.Data.List.Forall2

/-!
# The text of a mismatch

Each part of the text has a heading of its own, and what stands behind the heading can be told from
what follows: a number ends at a blank, a quoted text at its quote. So the text can be read back,
whatever is in the streams, up to what is cut off from them; and of that it says how much there is.
-/

namespace Crosscheck

namespace Mismatch

open Text

/-- Two contents that no reader of a bounded literal can tell apart. -/
def ShownAlike (bs bs' : Bytes) : Prop :=
  (lossyChars bs).take maxShown = (lossyChars bs').take maxShown ∧
    (lossyChars bs).length = (lossyChars bs').length

theorem toList_literal (bs : Bytes) : (literal bs).toList =
    quoteChars ((lossyChars bs).take maxShown) ++
      (omission ((lossyChars bs).length - maxShown)).toList := by
  simp [literal, clip, quote]

theorem ShownAlike.literal_eq {bs bs' : Bytes} (h : ShownAlike bs bs') :
    literal bs = literal bs' := by
  rw [← String.toList_inj, toList_literal, toList_literal, h.1, h.2]

theorem separable_literal :
    Separable (StartsWith ' ') ShownAlike fun bs => (literal bs).toList := by
  intro bs bs' s t hs ht h
  simp only [toList_literal, List.append_assoc] at h
  obtain ⟨hshown, hnotes⟩ := separable_quoteChars trivial trivial h
  obtain ⟨homitted, hst⟩ := separable_omission hs ht hnotes
  have hlength := congrArg List.length hshown
  rw [List.length_take, List.length_take] at hlength
  exact ⟨⟨hshown, by omega⟩, hst⟩

/-- What stands before a value. -/
inductive Heading where
  | codes
  | wanted (stream : StreamName)
  | got (stream : StreamName)
  deriving DecidableEq

def streamText : StreamName → String
  | .stdout => "stdout"
  | .stderr => "stderr"

def Heading.text : Heading → String
  | codes => "Return code: "
  | wanted stream => "Expected " ++ streamText stream ++ ": "
  | got stream => "Got " ++ streamText stream ++ ": "

def Heading.all : List Heading :=
  [codes, wanted .stdout, wanted .stderr, got .stdout, got .stderr]

theorem Heading.mem_all (h : Heading) : h ∈ all := by
  rcases h with _ | stream | stream
  · decide
  · cases stream <;> decide
  · cases stream <;> decide

theorem Heading.eq_of_prefix :
    ∀ a ∈ all, ∀ b ∈ all, a.text.toList <+: b.text.toList → a = b := by
  decide

theorem separable_heading :
    Separable (fun _ => True) (· = ·) fun heading : Heading => heading.text.toList := by
  intro a b s t _ _ h
  have hsame : a = b := by
    rcases List.prefix_or_prefix_of_prefix (List.prefix_append a.text.toList s)
      (h ▸ List.prefix_append b.text.toList t) with hab | hba
    · exact Heading.eq_of_prefix a a.mem_all b b.mem_all hab
    · exact (Heading.eq_of_prefix b b.mem_all a a.mem_all hba).symm
  subst hsame
  exact ⟨rfl, List.append_cancel_left h⟩

/-- A part of the text. -/
inductive Piece where
  | codes (actual expected : Int)
  | wanted (stream : StreamName) (bytes : Bytes)
  | got (stream : StreamName) (bytes : Bytes)

namespace Piece

def heading : Piece → Heading
  | codes .. => .codes
  | wanted stream _ => .wanted stream
  | got stream _ => .got stream

def value : Piece → String
  | codes actual expected => toString actual ++ " vs " ++ toString expected
  | wanted _ bytes => literal bytes
  | got _ bytes => literal bytes

def text (p : Piece) : String := p.heading.text ++ p.value

/-- Two parts that no reader can tell apart. -/
inductive Alike : Piece → Piece → Prop
  | codes (actual expected : Int) : Alike (codes actual expected) (codes actual expected)
  | wanted (stream : StreamName) {bs bs' : Bytes} (h : ShownAlike bs bs') :
      Alike (wanted stream bs) (wanted stream bs')
  | got (stream : StreamName) {bs bs' : Bytes} (h : ShownAlike bs bs') :
      Alike (got stream bs) (got stream bs')

theorem separable_codes {a e a' e' : Int} {s t : List Char} (hs : StartsWith ' ' s)
    (ht : StartsWith ' ' t)
    (h : (toString a ++ " vs " ++ toString e).toList ++ s =
      (toString a' ++ " vs " ++ toString e').toList ++ t) : (a = a' ∧ e = e') ∧ s = t := by
  have hblank (s : List Char) : StartsWith ' ' (" vs ".toList ++ s) := .append (by decide) s
  simp only [String.toList_append, List.append_assoc] at h
  obtain ⟨hactual, hrest⟩ := append_inj_of_startsWith (blank_notMem_toString a)
    (blank_notMem_toString a') (hblank _) (hblank _) h
  obtain ⟨hexpected, hst⟩ := append_inj_of_startsWith (blank_notMem_toString e)
    (blank_notMem_toString e') hs ht (List.append_cancel_left hrest)
  exact ⟨⟨toString_injective hactual, toString_injective hexpected⟩, hst⟩

theorem separable_text : Separable (StartsWith ' ') Alike fun p => p.text.toList := by
  intro p q s t hs ht h
  simp only [text, String.toList_append, List.append_assoc] at h
  obtain ⟨hheading, hvalue⟩ := separable_heading trivial trivial h
  cases p with
  | codes a e =>
    cases q with
    | codes a' e' =>
      obtain ⟨⟨rfl, rfl⟩, hst⟩ := separable_codes hs ht hvalue
      exact ⟨.codes a e, hst⟩
    | wanted | got => cases hheading
  | wanted stream bs =>
    cases q with
    | wanted stream' bs' =>
      cases hheading
      obtain ⟨halike, hst⟩ := separable_literal hs ht hvalue
      exact ⟨.wanted stream halike, hst⟩
    | codes | got => cases hheading
  | got stream bs =>
    cases q with
    | got stream' bs' =>
      cases hheading
      obtain ⟨halike, hst⟩ := separable_literal hs ht hvalue
      exact ⟨.got stream halike, hst⟩
    | codes | wanted => cases hheading

/-- The texts of parts, each after a separator. -/
def following (ps : List Piece) : List Char := ps.flatMap fun p => " | ".toList ++ p.text.toList

theorem startsWith_following (ps : List Piece) : StartsWith ' ' (following ps) := by
  cases ps with
  | nil => exact fun _ hc => nomatch hc
  | cons p ps =>
    rw [following, List.flatMap_cons, List.append_assoc]
    exact .append (by decide) _

theorem alike_of_following {ps qs : List Piece} (h : following ps = following qs) :
    List.Forall₂ Alike ps qs := by
  induction ps generalizing qs with
  | nil =>
    cases qs with
    | nil => exact .nil
    | cons q qs => exact absurd (congrArg List.length h) (by simp [following])
  | cons p ps ih =>
    cases qs with
    | nil => exact absurd (congrArg List.length h) (by simp [following])
    | cons q qs =>
      simp only [following, List.flatMap_cons, List.append_assoc] at h
      obtain ⟨halike, hrest⟩ := separable_text (startsWith_following ps)
        (startsWith_following qs) (List.append_cancel_left h)
      exact .cons halike (ih hrest)

/-- The texts of parts, with a separator between them. -/
def joined : List Piece → List Char
  | [] => []
  | p :: ps => p.text.toList ++ following ps

theorem text_ne_nil (p : Piece) : p.text.toList ≠ [] := by
  have hheading : ∀ h ∈ Heading.all, h.text.toList ≠ [] := by decide
  rw [text, String.toList_append]
  exact List.append_ne_nil_of_left_ne_nil (hheading _ p.heading.mem_all) _

theorem alike_of_joined {ps qs : List Piece} (h : joined ps = joined qs) :
    List.Forall₂ Alike ps qs := by
  cases ps with
  | nil =>
    cases qs with
    | nil => exact .nil
    | cons q qs => exact absurd (List.append_eq_nil_iff.1 h.symm).1 q.text_ne_nil
  | cons p ps =>
    cases qs with
    | nil => exact absurd (List.append_eq_nil_iff.1 h).1 p.text_ne_nil
    | cons q qs =>
      obtain ⟨halike, hrest⟩ := separable_text (startsWith_following ps)
        (startsWith_following qs) h
      exact .cons halike (alike_of_following hrest)

theorem intercalate_eq_joined (ps : List Piece) :
    (" | ".intercalate (ps.map text)).toList = joined ps := by
  rw [String.toList_intercalate, List.map_map]
  cases ps with
  | nil => rfl
  | cons p ps =>
    induction ps generalizing p with
    | nil => simp [joined, following]
    | cons q ps ih =>
      have hrest := ih q
      simp only [List.map_cons, Function.comp_apply, joined, following, List.flatMap_cons,
        List.intercalate_cons_cons, List.append_assoc] at hrest ⊢
      rw [hrest]

end Piece

/-- The parts about one stream. -/
def streamPieces (stream : StreamName) (diff : Option StreamDiff) : List Piece :=
  diff.toList.flatMap fun d => [.wanted stream d.expected, .got stream d.actual]

/-- The parts of the text, before they are written. -/
def pieces (m : Mismatch) : List Piece :=
  (m.exitCode.toList.map fun codes => .codes codes.1 codes.2) ++ streamPieces .stdout m.stdout ++
    streamPieces .stderr m.stderr

theorem parts_eq (m : Mismatch) : m.parts = m.pieces.map Piece.text := by
  obtain ⟨_ | ⟨a, e⟩, _ | d, _ | d'⟩ := m <;> rfl

theorem toList_message (m : Mismatch) : m.message.toList = Piece.joined m.pieces := by
  rw [message, parts_eq, Piece.intercalate_eq_joined]

def Piece.isCodes : Piece → Bool
  | codes .. => true
  | _ => false

def Piece.isOf (stream : StreamName) : Piece → Bool
  | codes .. => false
  | wanted stream' _ => stream' = stream
  | got stream' _ => stream' = stream

theorem filter_isCodes (m : Mismatch) :
    m.pieces.filter Piece.isCodes = m.exitCode.toList.map fun codes => .codes codes.1 codes.2 := by
  obtain ⟨_ | ⟨a, e⟩, _ | d, _ | d'⟩ := m <;> rfl

theorem filter_isOf_stdout (m : Mismatch) :
    m.pieces.filter (Piece.isOf .stdout) = streamPieces .stdout m.stdout := by
  obtain ⟨_ | ⟨a, e⟩, _ | d, _ | d'⟩ := m <;> rfl

theorem filter_isOf_stderr (m : Mismatch) :
    m.pieces.filter (Piece.isOf .stderr) = streamPieces .stderr m.stderr := by
  obtain ⟨_ | ⟨a, e⟩, _ | d, _ | d'⟩ := m <;> rfl

/-- No reader can tell the two contents of one stream from those of the other. -/
def SeenAlike : Option StreamDiff → Option StreamDiff → Prop :=
  Option.Rel fun d d' => ShownAlike d.expected d'.expected ∧ ShownAlike d.actual d'.actual

theorem seenAlike_of_pieces {stream : StreamName} {diff diff' : Option StreamDiff}
    (h : List.Forall₂ Piece.Alike (streamPieces stream diff) (streamPieces stream diff')) :
    SeenAlike diff diff' := by
  cases diff with
  | none =>
    cases diff' with
    | none => exact .none
    | some d' => cases h
  | some d =>
    cases diff' with
    | none => cases h
    | some d' =>
      cases h with
      | cons hwanted hrest =>
        cases hwanted with
        | wanted _ hexpected =>
          cases hrest with
          | cons hgot _ =>
            cases hgot with
            | got _ hactual => exact .some ⟨hexpected, hactual⟩

theorem SeenAlike.streamParts_eq {diff diff' : Option StreamDiff} (h : SeenAlike diff diff')
    (stream : String) : streamParts stream diff = streamParts stream diff' := by
  cases h with
  | none => rfl
  | some h => rw [streamParts, streamParts, h.1.literal_eq, h.2.literal_eq]

theorem exitCode_eq_of_pieces {codes codes' : Option (Int × Int)}
    (h : List.Forall₂ Piece.Alike (codes.toList.map fun c => .codes c.1 c.2)
      (codes'.toList.map fun c => .codes c.1 c.2)) : codes = codes' := by
  cases codes with
  | none =>
    cases codes' with
    | none => rfl
    | some c' => cases h
  | some c =>
    cases codes' with
    | none => cases h
    | some c' =>
      cases h with
      | cons hcodes _ =>
        obtain ⟨a, e⟩ := c
        obtain ⟨a', e'⟩ := c'
        cases hcodes
        rfl

theorem Piece.Alike.isCodes_eq {p q : Piece} (h : p.Alike q) : p.isCodes = q.isCodes := by
  cases h <;> rfl

theorem Piece.Alike.isOf_eq (stream : StreamName) {p q : Piece} (h : p.Alike q) :
    p.isOf stream = q.isOf stream := by
  cases h <;> rfl

/-- What one part says can be found in the other text as well. -/
theorem alike_filter {keep : Piece → Bool} (hkeep : ∀ {p q : Piece}, p.Alike q → keep p = keep q)
    {ps qs : List Piece} (h : List.Forall₂ Piece.Alike ps qs) :
    List.Forall₂ Piece.Alike (ps.filter keep) (qs.filter keep) :=
  List.rel_filter (fun _ _ halike => Bool.eq_iff_iff.1 (hkeep halike)) h

/-- Bytes that are the text of at most as many characters as are shown. -/
def IsPlain (bs : Bytes) : Prop := ∃ s : String, utf8 s = bs ∧ s.toList.length ≤ maxShown

/-- All contents of a mismatch are plain. -/
def HasPlain (m : Mismatch) : Prop :=
  ∀ d, m.stdout = some d ∨ m.stderr = some d → IsPlain d.expected ∧ IsPlain d.actual

theorem ShownAlike.eq_of_isPlain {bs bs' : Bytes} (h : ShownAlike bs bs') (hbs : IsPlain bs)
    (hbs' : IsPlain bs') : bs = bs' := by
  obtain ⟨s, rfl, hlength⟩ := hbs
  obtain ⟨s', rfl, hlength'⟩ := hbs'
  have hshown := h.1
  rw [utf8, utf8, lossyChars_utf8Chars, lossyChars_utf8Chars, List.take_of_length_le hlength,
    List.take_of_length_le hlength'] at hshown
  rw [utf8, utf8, hshown]

theorem SeenAlike.eq_of_isPlain {diff diff' : Option StreamDiff} (h : SeenAlike diff diff')
    (hplain : ∀ d, diff = some d → IsPlain d.expected ∧ IsPlain d.actual)
    (hplain' : ∀ d, diff' = some d → IsPlain d.expected ∧ IsPlain d.actual) : diff = diff' := by
  cases h with
  | none => rfl
  | @some d d' halike =>
    have hexpected := halike.1.eq_of_isPlain (hplain d rfl).1 (hplain' d' rfl).1
    have hactual := halike.2.eq_of_isPlain (hplain d rfl).2 (hplain' d' rfl).2
    exact congrArg some (StreamDiff.mk.injEq .. ▸ ⟨hexpected, hactual⟩)

/-- Two texts are equal only if they must be: the codes are the same, and so is of each stream what
is shown and how much is not. Of plain contents nothing is left open. -/
theorem message_eq_iff (m m' : Mismatch) :
    (m.message = m'.message ↔ m.exitCode = m'.exitCode ∧ SeenAlike m.stdout m'.stdout ∧
      SeenAlike m.stderr m'.stderr) ∧
    (m.HasPlain → m'.HasPlain → (m.message = m'.message ↔ m = m')) := by
  have hseen (h : m.message = m'.message) : m.exitCode = m'.exitCode ∧
      SeenAlike m.stdout m'.stdout ∧ SeenAlike m.stderr m'.stderr := by
    have hjoined := congrArg String.toList h
    rw [toList_message, toList_message] at hjoined
    have halike := Piece.alike_of_joined hjoined
    have hcodes := alike_filter Piece.Alike.isCodes_eq halike
    have hstdout := alike_filter (Piece.Alike.isOf_eq .stdout) halike
    have hstderr := alike_filter (Piece.Alike.isOf_eq .stderr) halike
    rw [filter_isCodes, filter_isCodes] at hcodes
    rw [filter_isOf_stdout, filter_isOf_stdout] at hstdout
    rw [filter_isOf_stderr, filter_isOf_stderr] at hstderr
    exact ⟨exitCode_eq_of_pieces hcodes, seenAlike_of_pieces hstdout, seenAlike_of_pieces hstderr⟩
  refine ⟨⟨hseen, fun ⟨hcodes, hstdout, hstderr⟩ => ?_⟩,
    fun hplain hplain' => ⟨fun h => ?_, fun h => h ▸ rfl⟩⟩
  · rw [message, message, parts, parts, hcodes, hstdout.streamParts_eq, hstderr.streamParts_eq]
  · obtain ⟨hcodes, hstdout, hstderr⟩ := hseen h
    have hstdout' := hstdout.eq_of_isPlain (fun d hd => hplain d (.inl hd))
      (fun d hd => hplain' d (.inl hd))
    have hstderr' := hstderr.eq_of_isPlain (fun d hd => hplain d (.inr hd))
      (fun d hd => hplain' d (.inr hd))
    cases m
    cases m'
    exact Mismatch.mk.injEq .. ▸ ⟨hcodes, hstdout', hstderr'⟩

/-- Contents that look like the text around them. -/
theorem message_eq_iff_lookalike :
    let m : Mismatch := ⟨.none, some ⟨utf8 "a\" | Got stdout: \"b", utf8 "c"⟩, .none⟩
    let m' : Mismatch := ⟨.none, some ⟨utf8 "a", utf8 "b | Got stdout: c"⟩, .none⟩
    m.HasPlain ∧ m'.HasPlain ∧ m.message ≠ m'.message := by
  intro m m'
  have hplain : m.HasPlain := by
    rintro d (h | h)
    · cases h
      exact ⟨⟨_, rfl, by decide⟩, ⟨_, rfl, by decide⟩⟩
    · cases h
  have hplain' : m'.HasPlain := by
    rintro d (h | h)
    · cases h
      exact ⟨⟨_, rfl, by decide⟩, ⟨_, rfl, by decide⟩⟩
    · cases h
  refine ⟨hplain, hplain', fun h => ?_⟩
  exact absurd (((message_eq_iff m m').2 hplain hplain').1 h) (by decide)

end Mismatch

end Crosscheck
