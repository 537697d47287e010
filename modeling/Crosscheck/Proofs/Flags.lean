import Crosscheck.Proofs.Preflight
import Mathlib.Data.List.Basic

/-!
# A flag more on the command line

A flag that hides something can stand anywhere but behind a lone `--` and between an option and its
value. It makes a command line neither better nor worse: the line is accepted with it if it was
accepted without, and asks for the same, only that the flag is on; else it is refused in both cases,
or help or the version is asked for in both. One difference can be seen on the way. The flag makes
the option before it be looked at earlier, so of two errors in a line the other one may be named.
-/

namespace Crosscheck

/-- Both fail by the same error, or both succeed with related results. -/
inductive Agree {ε α β : Type} (R : α → β → Prop) : Except ε α → Except ε β → Prop
  | error (e : ε) : Agree R (.error e) (.error e)
  | ok {a : α} {b : β} (h : R a b) : Agree R (.ok a) (.ok b)

section agree

variable {ε α β γ δ : Type} {R : α → β → Prop}

theorem Agree.bind {Q : γ → δ → Prop} {x : Except ε α} {y : Except ε β} {f : α → Except ε γ}
    {g : β → Except ε δ} (h : Agree R x y) (hnext : ∀ a b, R a b → Agree Q (f a) (g b)) :
    Agree Q (x >>= f) (y >>= g) := by
  cases h with
  | error e => exact .error e
  | ok h => exact hnext _ _ h

theorem Agree.mono {Q : α → β → Prop} {x : Except ε α} {y : Except ε β} (h : Agree R x y)
    (himp : ∀ a b, R a b → Q a b) : Agree Q x y := by
  cases h with
  | error e => exact .error e
  | ok h => exact .ok (himp _ _ h)

theorem Agree.foldlM {f : α → γ → Except ε α} {g : β → γ → Except ε β} {xs : List γ} {a : α} {b : β}
    (h : R a b) (hstep : ∀ x ∈ xs, ∀ a b, R a b → Agree R (f a x) (g b x)) :
    Agree R (xs.foldlM f a) (xs.foldlM g b) := by
  induction xs generalizing a b with
  | nil => exact .ok h
  | cons x xs ih =>
    rw [List.foldlM_cons, List.foldlM_cons]
    refine (hstep x List.mem_cons_self a b h).bind fun a b hab => ?_
    exact ih hab fun x hx => hstep x (List.mem_cons_of_mem _ hx)

/-- What every step that succeeds keeps holds of the result. -/
theorem kept_of_foldlM {P : α → Prop} {f : α → γ → Except ε α} {xs : List γ} {a b : α} (h : P a)
    (hstep : ∀ x ∈ xs, ∀ a b, P a → f a x = .ok b → P b) (hb : xs.foldlM f a = .ok b) : P b := by
  induction xs generalizing a with
  | nil => exact Except.ok.inj hb ▸ h
  | cons x xs ih =>
    rw [List.foldlM_cons, bind_eq_ok_iff] at hb
    obtain ⟨next, hnext, hb⟩ := hb
    exact ih (hstep x List.mem_cons_self a next h hnext)
      (fun x hx => hstep x (List.mem_cons_of_mem _ hx)) hb

end agree

/-- The line is not carried out, and nothing is asked for instead. -/
def UsageError.Refuses (e : UsageError) : Prop := e ≠ .helpRequested ∧ e ≠ .versionRequested

def Refused {α : Type} (x : Except UsageError α) : Prop := ∃ e, x = .error e ∧ e.Refuses

namespace LineState

open Text

/-- An option that stands in an argument with the value behind it, or what is wrong with it. -/
abbrev Mention := Except UsageError (OptionRule × Option Bytes)

/-- What follows two dashes. -/
def longMention (body : Bytes) : Mention :=
  let (name, attached) := splitEquals body
  match optionRules.find? fun r => r.longNames.any fun n => utf8 n == name with
  | none => .error .unknownArgument
  | some rule =>
    if rule.takes = .nothing && attached.isSome then .error .unwantedValue
    else .ok (rule, attached)

/-- What follows one dash. -/
def shortMentions : Bytes → List Mention
  | [] => []
  | b :: rest =>
    match optionRules.find? fun r => r.letter == some b with
    | none => [.error .unknownArgument]
    | some rule =>
      if rule.takes = .nothing then .ok (rule, none) :: shortMentions rest
      else [.ok (rule, match rest with
          | [] => none
          | b :: value => if b = equalsSign then some value else some (b :: value))]

/-- The options that stand in an argument, in their order. -/
def mentions (arg : Bytes) : List Mention :=
  if arg.take 2 = [dash, dash] then [longMention (arg.drop 2)]
  else if arg.head? = some dash then shortMentions arg.tail
  else []

/-- An argument that begins with a dash and is more than that, so that it is no value. -/
abbrev IsOption (arg : Bytes) : Prop := arg.head? = some dash ∧ arg ≠ [dash]

/-- The names of the options that stand in an argument. -/
def namesOf (arg : Bytes) : List OptionName :=
  (mentions arg).filterMap fun m => m.toOption.map fun p => p.1.name

/-- Takes in an option that stands in an argument. -/
def serve (s : LineState) (m : Mention) : Except UsageError LineState := do
  let (rule, raw) ← m
  s.meet rule raw

section mentions

variable {arg : Bytes} {rule : OptionRule} {raw : Option Bytes}

theorem name_mem_namesOf (h : .ok (rule, raw) ∈ mentions arg) : rule.name ∈ namesOf arg :=
  List.mem_filterMap.2 ⟨_, h, rfl⟩

/-- The option is one of those that there are, or the line is refused. -/
def Proper : Mention → Prop
  | .ok (rule, _) => rule ∈ optionRules
  | .error e => e.Refuses

theorem refuses_unknownArgument : UsageError.unknownArgument.Refuses := ⟨nofun, nofun⟩

theorem proper_longMention (body : Bytes) : Proper (longMention body) := by
  unfold longMention
  generalize splitEquals body = parts
  obtain ⟨name, attached⟩ := parts
  dsimp only
  cases hfind : optionRules.find? fun r => r.longNames.any fun n => utf8 n == name with
  | none => exact refuses_unknownArgument
  | some rule =>
    dsimp only
    split_ifs
    · exact ⟨nofun, nofun⟩
    · exact List.mem_of_find?_eq_some hfind

theorem proper_shortMentions {letters : Bytes} : ∀ m ∈ shortMentions letters, Proper m := by
  induction letters with
  | nil => exact fun m hm => nomatch hm
  | cons b rest ih =>
    unfold shortMentions
    cases hfind : optionRules.find? fun r => r.letter == some b with
    | none => exact List.forall_mem_singleton.2 refuses_unknownArgument
    | some rule =>
      have hrule : rule ∈ optionRules := List.mem_of_find?_eq_some hfind
      dsimp only
      split_ifs
      · exact List.forall_mem_cons.2 ⟨hrule, ih⟩
      · exact List.forall_mem_singleton.2 hrule

theorem proper_of_mem {m : Mention} (h : m ∈ mentions arg) : Proper m := by
  unfold mentions at h
  split_ifs at h
  · exact List.mem_singleton.1 h ▸ proper_longMention _
  · exact proper_shortMentions m h
  · cases h

theorem mentions_ne_nil (h : IsOption arg) : mentions arg ≠ [] := by
  unfold mentions
  split_ifs
  · exact List.cons_ne_nil _ _
  · obtain ⟨hhead, hmore⟩ := h
    cases arg with
    | nil => cases hhead
    | cons b letters =>
      obtain rfl := Option.some.inj hhead
      cases letters with
      | nil => exact absurd rfl hmore
      | cons c rest =>
        rw [List.tail_cons]
        unfold shortMentions
        split
        · exact List.cons_ne_nil _ _
        · split_ifs <;> exact List.cons_ne_nil _ _
  · next hhead => exact absurd h.1 hhead

theorem long_eq (s : LineState) (body : Bytes) : s.long body = s.serve (longMention body) := by
  unfold long longMention
  generalize splitEquals body = parts
  obtain ⟨name, attached⟩ := parts
  dsimp only
  cases optionRules.find? fun r => r.longNames.any fun n => utf8 n == name with
  | none => rfl
  | some rule =>
    dsimp only
    split_ifs
    · rfl
    · rfl

theorem short_eq (s : LineState) (letters : Bytes) :
    s.short letters = (shortMentions letters).foldlM serve s := by
  induction letters generalizing s with
  | nil => rfl
  | cons b rest ih =>
    unfold short shortMentions
    cases optionRules.find? fun r => r.letter == some b with
    | none => rfl
    | some rule =>
      dsimp only
      split_ifs
      · rw [List.foldlM_cons]
        exact congrArg _ (funext ih)
      · rw [List.foldlM_cons]
        exact (bind_pure _).symm

theorem isOption_of_take (h : arg.take 2 = [dash, dash]) : IsOption arg := by
  have hhead : (arg.take 2).head? = arg.head? := by
    rw [List.head?_take]
    rfl
  rw [h] at hhead
  refine ⟨hhead.symm, ?_⟩
  rintro rfl
  cases h

/-- An argument is one too many, ends the options, names some, or stands for itself. -/
theorem step_eq (s : LineState) (arg : Bytes) :
    s.step arg =
      if s.closed then .error .unknownArgument
      else if arg = [dash, dash] then .ok { s with closed := true }
      else if IsOption arg then (mentions arg).foldlM serve s
      else s.plain arg := by
  unfold step mentions
  by_cases hlong : arg.take 2 = [dash, dash]
  · have hoption := isOption_of_take hlong
    simp only [if_pos hlong, if_pos hoption, long_eq, List.foldlM_cons, List.foldlM_nil, bind_pure]
  · simp only [if_neg hlong, Bool.and_eq_true, decide_eq_true_eq]
    by_cases hshort : IsOption arg
    · simp only [if_pos hshort, if_pos hshort.1, short_eq]
    · simp only [if_neg hshort]

end mentions

section twin

/-- The same options, and the flag among them. -/
def WithFlag (given given' : List (OptionName × OptionValue)) : Prop :=
  ∃ earlier later, given = earlier ++ later ∧ given' = earlier ++ (.silent, .on) :: later

theorem WithFlag.concat {given given' : List (OptionName × OptionValue)}
    (h : WithFlag given given') (p : OptionName × OptionValue) :
    WithFlag (given ++ [p]) (given' ++ [p]) := by
  obtain ⟨earlier, later, rfl, rfl⟩ := h
  exact ⟨earlier, later ++ [p], List.append_assoc .., List.append_assoc ..⟩

theorem WithFlag.lookup_eq {given given' : List (OptionName × OptionValue)}
    (h : WithFlag given given') {name : OptionName} (hname : name ≠ .silent) :
    given'.lookup name = given.lookup name := by
  obtain ⟨earlier, later, rfl, rfl⟩ := h
  have hne : (name == .silent) = false := beq_eq_false_iff_ne.2 hname
  induction earlier with
  | nil => rw [List.nil_append, List.nil_append, List.lookup_cons, hne]
  | cons p earlier ih =>
    rw [List.cons_append, List.cons_append, List.lookup_cons, List.lookup_cons, ih]

/-- Two readings of a line, without the flag and with it; the second may be ahead by having looked
at the option before the flag. -/
inductive Twin (s s' : LineState) : Prop
  | same (hpending : s'.pending = s.pending) (hclosed : s'.closed = s.closed)
      (hgiven : WithFlag s.given s'.given) (hrule : ∀ p ∈ s.pending, p.1.name ≠ .silent)
  | ahead {rule : OptionRule} {raw : Bytes} {settled : LineState}
      (hpending : s.pending = some (rule, some raw)) (hpending' : s'.pending = none)
      (hclosed : s'.closed = s.closed) (hsettle : s.settle = .ok settled)
      (hgiven : WithFlag settled.given s'.given)

/-- Two readings of a line with no option pending. -/
structure Level (s s' : LineState) : Prop where
  pending : s.pending = none
  pending' : s'.pending = none
  closed : s'.closed = s.closed
  given : WithFlag s.given s'.given

variable {s s' : LineState} {rule : OptionRule} {raw : Option Bytes}

theorem Level.take (h : Level s s') (hname : rule.name ≠ .silent) :
    Agree Level (s.take rule raw) (s'.take rule raw) := by
  unfold LineState.take
  rw [h.given.lookup_eq hname]
  split_ifs
  · exact .error _
  · exact .error _
  · exact .error _
  · exact .error _
  · cases rule.takes.read (raw.getD []) with
    | error e => exact .error e
    | ok value => exact .ok ⟨h.pending, h.pending', h.closed, h.given.concat _⟩

theorem Level.twin (h : Level s s') : Twin s s' :=
  .same (h.pending'.trans h.pending.symm) h.closed h.given (h.pending ▸ nofun)

/-- Taking an option in leaves nothing pending where nothing was. -/
theorem take_ok {t : LineState} (h : s.take rule raw = .ok t) :
    t.pending = s.pending ∧ t.closed = s.closed ∧
      ∃ value, t.given = s.given ++ [(rule.name, value)] := by
  unfold LineState.take at h
  split_ifs at h
  cases hread : rule.takes.read (raw.getD []) with
  | error e =>
    rw [hread] at h
    cases h
  | ok value =>
    rw [hread] at h
    cases h
    exact ⟨rfl, rfl, value, rfl⟩

theorem settle_ok {t : LineState} (h : s.settle = .ok t) :
    t.pending = none ∧ t.closed = s.closed := by
  unfold settle at h
  split at h
  · next hpending => exact Except.ok.inj h ▸ ⟨hpending, rfl⟩
  · obtain ⟨hpending, hclosed, -⟩ := take_ok h
    exact ⟨hpending, hclosed⟩

theorem Twin.settle (h : Twin s s') : Agree Level s.settle s'.settle := by
  cases h with
  | same hpending hclosed hgiven hrule =>
    unfold LineState.settle
    rw [hpending]
    cases hp : s.pending with
    | none => exact .ok ⟨hp, hpending.trans hp, hclosed, hgiven⟩
    | some p =>
      have hlevel : Level { s with pending := none } { s' with pending := none } :=
        ⟨rfl, rfl, hclosed, hgiven⟩
      exact hlevel.take (hrule p hp)
  | ahead hpending hpending' hclosed hsettle hgiven =>
    obtain ⟨hnone, hsame⟩ := settle_ok hsettle
    rw [hsettle, LineState.settle, hpending']
    exact .ok ⟨hnone, hpending', hclosed.trans hsame.symm, hgiven⟩

theorem Twin.meet (h : Twin s s') (hname : rule.name ≠ .silent) :
    Agree Twin (s.meet rule raw) (s'.meet rule raw) := by
  refine h.settle.bind fun t t' hlevel => ?_
  split_ifs
  · exact (hlevel.take hname).mono fun _ _ => Level.twin
  · refine .ok (.same rfl hlevel.closed hlevel.given fun p hp => ?_)
    obtain rfl := Option.some.inj hp
    exact hname

theorem Twin.plain (h : Twin s s') (arg : Bytes) : Agree Twin (s.plain arg) (s'.plain arg) := by
  cases h with
  | same hpending hclosed hgiven hrule =>
    unfold LineState.plain
    rw [hpending]
    split
    · next rule hwaits =>
      refine .ok (.same rfl hclosed hgiven fun p hp => ?_)
      obtain rfl := Option.some.inj hp
      exact hrule (rule, none) hwaits
    · exact .error _
  | ahead hpending hpending' hclosed hsettle hgiven =>
    unfold LineState.plain
    rw [hpending, hpending']
    exact .error _

theorem settle_close (s : LineState) :
    ({ s with closed := true } : LineState).settle =
      s.settle.map fun t => { t with closed := true } := by
  obtain ⟨given, _ | ⟨rule, raw⟩, closed⟩ := s
  · rfl
  · simp only [settle, LineState.take]
    split_ifs
    · rfl
    · rfl
    · rfl
    · rfl
    · cases rule.takes.read (raw.getD []) <;> rfl

theorem Twin.close (h : Twin s s') :
    Twin { s with closed := true } { s' with closed := true } := by
  cases h with
  | same hpending hclosed hgiven hrule => exact .same hpending rfl hgiven hrule
  | @ahead rule raw settled hpending hpending' hclosed hsettle hgiven =>
    have hsettle' : ({ s with closed := true } : LineState).settle =
        .ok { settled with closed := true } := by
      rw [settle_close, hsettle]
      rfl
    exact .ahead hpending hpending' rfl hsettle' hgiven

theorem Twin.serve (h : Twin s s') {m : Mention}
    (hname : ∀ rule raw, m = .ok (rule, raw) → rule.name ≠ .silent) :
    Agree Twin (s.serve m) (s'.serve m) := by
  cases m with
  | error e => exact .error e
  | ok p => exact h.meet (hname p.1 p.2 rfl)

theorem Twin.step (h : Twin s s') {arg : Bytes} (hnames : .silent ∉ namesOf arg) :
    Agree Twin (s.step arg) (s'.step arg) := by
  have hclosed : s'.closed = s.closed := by cases h <;> assumption
  rw [step_eq, step_eq, hclosed]
  split_ifs
  · exact .error _
  · exact .ok h.close
  · refine Agree.foldlM h fun m hm t t' htwin => htwin.serve fun rule raw hrule hname => hnames ?_
    exact hname ▸ name_mem_namesOf (hrule ▸ hm)
  · exact h.plain arg

/-- The two readings end alike, with nothing pending. -/
theorem Twin.read (h : Twin s s') {args : List Bytes}
    (hnames : ∀ arg ∈ args, .silent ∉ namesOf arg) :
    Agree Level (args.foldlM LineState.step s >>= LineState.settle)
      (args.foldlM LineState.step s' >>= LineState.settle) := by
  refine Agree.bind (R := Twin) ?_ fun _ _ htwin => htwin.settle
  exact Agree.foldlM h fun arg harg _ _ htwin => htwin.step (hnames arg harg)

end twin

section undecided

/-- A line in which neither the flag nor its opposite has come, and only an option that takes a
value may be pending. -/
structure Undecided (s : LineState) : Prop where
  pending : ∀ p ∈ s.pending, p.1 ∈ optionRules ∧ p.1.takes ≠ .nothing
  given : ∀ p ∈ s.given, p.1 ∉ [.silent, .verbose]

variable {s t : LineState} {rule : OptionRule} {raw : Option Bytes}

/-- The flags, and what ends the reading, take no value. -/
theorem name_of_takes : ∀ rule ∈ optionRules, rule.takes ≠ .nothing →
    rule.name ∉ [.help, .version, .silent, .verbose] := by
  decide

theorem Undecided.take (h : Undecided s) (hname : rule.name ∉ [.silent, .verbose])
    (ht : s.take rule raw = .ok t) : Undecided t := by
  obtain ⟨hpending, -, value, hgiven⟩ := take_ok ht
  refine ⟨hpending ▸ h.pending, fun p hp => ?_⟩
  rw [hgiven, List.mem_append, List.mem_singleton] at hp
  obtain hp | rfl := hp
  · exact h.given p hp
  · exact hname

theorem Undecided.settle (h : Undecided s) (ht : s.settle = .ok t) : Undecided t := by
  unfold LineState.settle at ht
  split at ht
  · exact Except.ok.inj ht ▸ h
  · next rule raw hpending =>
    have hnone : Undecided { s with pending := none } := ⟨nofun, h.given⟩
    obtain ⟨hmem, htakes⟩ := h.pending _ hpending
    refine hnone.take (fun hname => name_of_takes rule hmem htakes ?_) ht
    exact List.mem_cons_of_mem _ (List.mem_cons_of_mem _ hname)

theorem Undecided.serve (h : Undecided s) {m : Mention}
    (hproper : Proper m)
    (hnames : ∀ rule raw, m = .ok (rule, raw) → rule.name ∉ [.silent, .verbose])
    (ht : s.serve m = .ok t) : Undecided t := by
  obtain ⟨⟨rule, raw⟩, hm, hmeet⟩ := bind_eq_ok_iff.1 ht
  have hname := hnames rule raw hm
  rw [hm] at hproper
  obtain ⟨u, hu, hnext⟩ := bind_eq_ok_iff.1 hmeet
  have hsettled := h.settle hu
  split_ifs at hnext with htaken
  · exact hsettled.take hname hnext
  · cases hnext
    refine ⟨fun p hp => ?_, hsettled.given⟩
    obtain rfl := Option.some.inj hp
    exact ⟨hproper, fun hnothing => htaken (by simp [show rule.takes = .nothing from hnothing])⟩

theorem Undecided.step (h : Undecided s) {arg : Bytes}
    (hnames : ∀ name ∈ namesOf arg, name ∉ [.silent, .verbose]) (ht : s.step arg = .ok t) :
    Undecided t := by
  rw [step_eq] at ht
  split_ifs at ht
  · cases ht
    exact ⟨h.pending, h.given⟩
  · refine kept_of_foldlM h (fun m hm u v hu hv => hu.serve (proper_of_mem hm) ?_ hv) ht
    rintro rule raw rfl
    exact hnames _ (name_mem_namesOf hm)
  · unfold plain at ht
    split at ht
    · next rule hpending =>
      cases ht
      refine ⟨fun p hp => ?_, h.given⟩
      obtain rfl := Option.some.inj hp
      exact h.pending (rule, none) hpending
    · cases ht

theorem Undecided.foldlM (h : Undecided s) {args : List Bytes}
    (hnames : ∀ arg ∈ args, ∀ name ∈ namesOf arg, name ∉ [.silent, .verbose])
    (ht : args.foldlM LineState.step s = .ok t) : Undecided t :=
  kept_of_foldlM h (fun arg harg _ _ hs hstep => hs.step (hnames arg harg) hstep) ht

end undecided

section doomed

/-- A line whose pending option is refused when it is looked at. -/
def Doomed (s : LineState) : Prop := Refused s.settle

variable {s : LineState}

theorem Doomed.meet (h : Doomed s) (rule : OptionRule) (raw : Option Bytes) :
    Refused (s.meet rule raw) := by
  obtain ⟨e, hsettle, hrefuses⟩ := h
  refine ⟨e, ?_, hrefuses⟩
  rw [LineState.meet, hsettle]
  rfl

theorem Doomed.serve (h : Doomed s) {m : Mention} (hproper : Proper m) : Refused (s.serve m) := by
  cases m with
  | error e => exact ⟨e, rfl, hproper⟩
  | ok p => exact h.meet p.1 p.2

theorem Doomed.close (h : Doomed s) : Doomed { s with closed := true } := by
  obtain ⟨e, hsettle, hrefuses⟩ := h
  refine ⟨e, ?_, hrefuses⟩
  rw [settle_close, hsettle]
  rfl

theorem Doomed.refused_of_closed (h : Doomed s) (hclosed : s.closed = true) (args : List Bytes) :
    Refused (args.foldlM LineState.step s >>= LineState.settle) := by
  cases args with
  | nil => exact h
  | cons arg args =>
    rw [List.foldlM_cons, step_eq, if_pos hclosed]
    exact ⟨_, rfl, refuses_unknownArgument⟩

/-- Only a value that comes next could save the line. -/
theorem Doomed.refused (h : Doomed s) {args : List Bytes}
    (hvalue : ∀ rule, s.pending = some (rule, none) → ∀ arg ∈ args.head?, IsOption arg) :
    Refused (args.foldlM LineState.step s >>= LineState.settle) := by
  cases args with
  | nil => exact h
  | cons arg args =>
    rw [List.foldlM_cons, step_eq]
    split_ifs with hclosed hend hoption
    · exact ⟨_, rfl, refuses_unknownArgument⟩
    · exact h.close.refused_of_closed rfl args
    · cases hmentions : mentions arg with
      | nil => exact absurd hmentions (mentions_ne_nil hoption)
      | cons m rest =>
        obtain ⟨e, hserve, hrefuses⟩ :=
          h.serve (proper_of_mem (hmentions ▸ List.mem_cons_self : m ∈ mentions arg))
        refine ⟨e, ?_, hrefuses⟩
        rw [List.foldlM_cons, hserve]
        rfl
    · refine ⟨.unknownArgument, ?_, refuses_unknownArgument⟩
      unfold plain
      split
      · next rule hpending => exact absurd (hvalue rule hpending arg rfl) hoption
      · rfl

end doomed

section insert

variable {s t : LineState} {flag : Bytes}

/-- The place between some arguments and others where one more option can stand: not behind a lone
`--`, nor between an option and its value. -/
def Room (before after : List Bytes) : Prop :=
  ∀ s, before.foldlM LineState.step start = .ok s → s.closed = false ∧
    ∀ rule, s.pending = some (rule, none) → ∀ arg ∈ after.head?, IsOption arg

/-- At the front there is always room. -/
theorem room_nil (after : List Bytes) : Room [] after := by
  intro s hs
  obtain rfl := Except.ok.inj hs
  exact ⟨rfl, nofun⟩

theorem Undecided.lookup_eq_none (h : Undecided s) {name : OptionName}
    (hname : name ∈ [.silent, .verbose]) : s.given.lookup name = none := by
  rw [List.lookup_eq_none_iff]
  intro p hp
  refine bne_iff_ne.2 fun heq => h.given p hp ?_
  exact heq ▸ hname

theorem Undecided.name_ne (h : Undecided s) {rule : OptionRule} {raw : Option Bytes}
    (hpending : s.pending = some (rule, raw)) : rule.name ≠ .help ∧ rule.name ≠ .version := by
  obtain ⟨hmem, htakes⟩ := h.pending _ hpending
  have hname := name_of_takes rule hmem htakes
  rw [List.mem_cons, List.mem_cons, not_or, not_or] at hname
  exact ⟨hname.1, hname.2.1⟩

theorem Undecided.settle_of_waiting (h : Undecided s) {rule : OptionRule}
    (hpending : s.pending = some (rule, none)) : s.settle = .error .missingValue := by
  obtain ⟨hhelp, hversion⟩ := h.name_ne hpending
  have htakes := (h.pending _ hpending).2
  rw [LineState.settle, hpending]
  dsimp only
  rw [LineState.take, if_neg hhelp, if_neg hversion, if_pos (by simp [htakes])]

theorem Undecided.twin (h : Undecided s) (ht : s.settle = .ok t) :
    Twin s { t with given := t.given ++ [(.silent, .on)] } := by
  obtain ⟨hpending, hclosed⟩ := settle_ok ht
  have hgiven : WithFlag t.given (t.given ++ [(.silent, .on)]) :=
    ⟨t.given, [], (List.append_nil _).symm, rfl⟩
  cases hp : s.pending with
  | none =>
    obtain rfl : s = t := by
      rw [LineState.settle, hp] at ht
      exact Except.ok.inj ht
    exact .same rfl rfl hgiven (hp ▸ nofun)
  | some p =>
    obtain ⟨rule, _ | raw⟩ := p
    · cases ht.symm.trans (h.settle_of_waiting hp)
    · exact .ahead hp hpending hclosed ht hgiven

end insert

end LineState

namespace Options

open LineState

/-- What is asked for once the last option has been looked at. -/
def finish (s : LineState) : Except UsageError Options :=
  if (s.given.lookup .verbose).isSome && (s.given.lookup .silent).isSome then .error .conflict
  else return s.given.foldl set standard

end Options

end Crosscheck
