import Crosscheck.Proofs.Histories
import Crosscheck.Proofs.Interleaving

/-!
# Where conversations part

Two executions of one plan make the same requests, one after the other, until one of them is
answered otherwise than in the other execution. So a job among others, if it is separate from them,
has the conversation that it would have alone: it launches the same commands, and the same comes of
them.
-/

namespace Crosscheck

/-- One request, with answers that make no difference. -/
inductive Exchange.Same : Exchange → Exchange → Prop
  | mk {r : Request} {a b : r.Answer} (h : r.Same a b) : Same ⟨r, a⟩ ⟨r, b⟩

/-- Conversations that are the same up to a request with answers that make a difference. -/
def Parted (es es' : List Exchange) : Prop :=
  ∃ (front front' : List Exchange) (r : Request) (a b : r.Answer) (back back' : List Exchange),
    List.Forall₂ Exchange.Same front front' ∧ es = front ++ ⟨r, a⟩ :: back ∧
      es' = front' ++ ⟨r, b⟩ :: back' ∧ ¬r.Same a b

theorem Exchange.Same.launched_eq {e e' : Exchange} (h : e.Same e') :
    e.launched? = e'.launched? := by
  obtain ⟨h⟩ := h
  rename_i r a b
  cases r with
  | launch command limit => exact congrArg (fun result => some (command, result)) h
  | isFile p => rfl
  | read p => rfl
  | remove p => rfl
  | now => rfl

/-- The same conversation launches the same commands, and the same comes of them. -/
theorem launched_eq_of_same {es es' : List Exchange} (h : List.Forall₂ Exchange.Same es es') :
    es.filterMap Exchange.launched? = es'.filterMap Exchange.launched? := by
  induction h with
  | nil => rfl
  | cons hsame _ ih => rw [List.filterMap_cons, List.filterMap_cons, hsame.launched_eq, ih]

namespace Plan

variable {α : Type} {asks : Request → Prop} {related : α → α → Prop} {p q : Plan α}

theorem Leaves.eq_of_nil (h : p.Leaves [] q) : q = p := by
  cases h
  rfl

theorem Leaves.exists_of_snoc {es : List Exchange} {r : Request} {a : r.Answer}
    (h : p.Leaves (es ++ [⟨r, a⟩]) q) : ∃ next, p.Leaves es (ask r next) ∧ q = next a := by
  induction es generalizing p with
  | nil =>
    cases h with
    | @cons _ next _ _ _ hrest => exact ⟨next, .nil, hrest.eq_of_nil⟩
  | cons e es ih =>
    cases h with
    | cons hrest =>
      obtain ⟨next, hleaves, hq⟩ := ih hrest
      exact ⟨next, .cons hleaves, hq⟩

/-- Executions of plans that go alike have one conversation, or part at some answer. -/
theorem Alike.same_or_parted (h : p.Alike asks related q) {es es' : List Exchange} {x y : α}
    (hp : p.Leaves es (.done x)) (hq : q.Leaves es' (.done y)) :
    List.Forall₂ Exchange.Same es es' ∧ related x y ∨ Parted es es' := by
  induction h generalizing es es' with
  | done hrelated =>
    cases hp
    cases hq
    exact .inl ⟨.nil, hrelated⟩
  | @ask r next next' hr _ ih =>
    -- both make the request `r`, and its answers decide whether they go on alike
    cases hp with
    | @cons _ _ a es _ hp =>
      cases hq with
      | @cons _ _ b es' _ hq =>
        by_cases hsame : r.Same a b
        · obtain ⟨hrest, hrelated⟩ | ⟨front, front', s, c, d, back, back', hfront, rfl, rfl, hne⟩ :=
            ih a b hsame hp hq
          · exact .inl ⟨.cons ⟨hsame⟩ hrest, hrelated⟩
          · exact .inr ⟨_ :: front, _ :: front', s, c, d, back, back', .cons ⟨hsame⟩ hfront, rfl,
              rfl, hne⟩
        · exact .inr ⟨[], [], r, a, b, es, es', .nil, rfl, rfl, hsame⟩

variable {programs : Behaviour} {sane : World → Prop} {view : World → World → Prop}

/-- Plans that go alike have one conversation in worlds that answer their requests alike. -/
theorem Alike.exchanges (h : p.Alike asks related q)
    (hsane : ∀ r w, asks r → sane w → sane (w.answer programs r).2)
    (hanswer : ∀ r w w', asks r → sane w → sane w' → view w w' →
      r.Same (w.answer programs r).1 (w'.answer programs r).1 ∧
        view (w.answer programs r).2 (w'.answer programs r).2)
    {w w' : World} (hw : sane w) (hw' : sane w') (hview : view w w') :
    List.Forall₂ Exchange.Same (p.exchanges (World.answer programs) w)
      (q.exchanges (World.answer programs) w') := by
  induction h generalizing w w' with
  | done _ => exact .nil
  | ask hr _ ih =>
    obtain ⟨hsame, hview'⟩ := hanswer _ w w' hr hw hw' hview
    exact .cons ⟨hsame⟩ (ih _ _ hsame (hsane _ w hr hw) (hsane _ w' hr hw') hview')

end Plan

theorem exists_ok_of_told {ε α β : Type} {forget : α → β} {x : Except ε α} {b : β}
    (h : told forget x = some b) : ∃ a, x = .ok a := by
  cases x with
  | error e => cases h
  | ok a => exact ⟨a, rfl⟩

namespace Separation

variable {ε α β : Type} {programs : Behaviour} {jobs : List (Plan (Except ε α))}
  (sep : Separation programs jobs.length) (start : World) (forget : α → β)

/-- A job among others that is as far as it would be alone: what it would go on with alone goes
alike with what is left of it. -/
def Abreast (i : ℕ) (origin p : Plan (Except ε α)) (es : List Exchange) (w : World) : Prop :=
  ∃ (es' : List Exchange) (q : Plan (Except ε α)) (v : World),
    origin.exchanges (World.answer programs) start =
      es' ++ q.exchanges (World.answer programs) v ∧
    origin.run programs start = q.run programs v ∧ List.Forall₂ Exchange.Same es' es ∧
    q.Alike (sep.asks i) (fun x y => told forget x = told forget y) p ∧ sep.sane v ∧ sep.view i v w

variable {sep start forget} {w : World} {i : ℕ} {origin : Plan (Except ε α)} {es : List Exchange}

/-- The next request of a job is answered as it would be alone. -/
theorem Abreast.answer {r : Request} {next : r.Answer → Plan (Except ε α)}
    (h : sep.Abreast start forget i origin (.ask r next) es w) (hi : i < jobs.length)
    (hsane : sep.sane w) :
    sep.Abreast start forget i origin (next (w.answer programs r).1)
      (es ++ [⟨r, (w.answer programs r).1⟩]) (w.answer programs r).2 := by
  obtain ⟨es', q, v, hexchanges, hrun, hsame, halike, hv, hview⟩ := h
  cases halike with
  | @ask _ next' _ hr hnext =>
    obtain ⟨hanswer, hview'⟩ := sep.own hi hr hv hsane hview
    refine ⟨es' ++ [⟨r, (v.answer programs r).1⟩], next' (v.answer programs r).1,
      (v.answer programs r).2, ?_, hrun, ?_, hnext _ _ hanswer, sep.sane_answer hi hr hv, hview'⟩
    · rw [hexchanges, List.append_assoc]
      rfl
    · exact List.rel_append hsame (.cons ⟨hanswer⟩ .nil)

theorem Abreast.foreign {p : Plan (Except ε α)} (h : sep.Abreast start forget i origin p es w)
    (hi : i < jobs.length) {j : ℕ} (hj : j < jobs.length) (hij : i ≠ j) {r : Request}
    (hr : sep.asks j r) (hsane : sep.sane w) :
    sep.Abreast start forget i origin p es (w.answer programs r).2 := by
  obtain ⟨es', q, v, hexchanges, hrun, hsame, halike, hv, hview⟩ := h
  exact ⟨es', q, v, hexchanges, hrun, hsame, halike, hv,
    (sep.equivalence i).trans hview (sep.foreign hi hj hij hr hsane)⟩

theorem Abreast.asks {r : Request} {next : r.Answer → Plan (Except ε α)}
    (h : sep.Abreast start forget i origin (.ask r next) es w) : sep.asks i r := by
  obtain ⟨-, q, -, -, -, -, halike, -, -⟩ := h
  cases halike with
  | ask hr _ => exact hr

section happens

variable (hstart : sep.sane start)
  (hjobs : ∀ i (job : Plan (Except ε α)), jobs[i]? = some job →
    job.Alike (sep.asks i) (fun x y => told forget x = told forget y) job)
include hstart hjobs

/-- Whatever has happened so far, every job is as far as it would be alone. -/
theorem abreast_of_happens {h : History} (hhappens : h.Happens programs start w)
    (hknown : ∀ entry ∈ h, entry.1 < jobs.length)
    (hleads : ∀ (i : ℕ) (origin : Plan (Except ε α)), jobs[i]? = some origin →
      ∃ p, origin.Leaves (h.part i) p) :
    sep.sane w ∧ ∀ (i : ℕ) (origin p : Plan (Except ε α)), jobs[i]? = some origin →
      origin.Leaves (h.part i) p → sep.Abreast start forget i origin p (h.part i) w := by
  induction hhappens with
  | nil =>
    refine ⟨hstart, fun i origin p horigin hp => ?_⟩
    obtain rfl := hp.eq_of_nil
    exact ⟨[], _, start, rfl, rfl, .nil, hjobs i _ horigin, hstart, (sep.equivalence i).refl start⟩
  | @snoc h w _ i r ih =>
    have hi : i < jobs.length :=
      hknown (i, ⟨r, (w.answer programs r).1⟩) (List.mem_append_right _ List.mem_cons_self)
    have hpart {j : ℕ} (hij : i ≠ j) :
        History.part (h ++ [(i, ⟨r, (w.answer programs r).1⟩)]) j = h.part j :=
      History.part_snoc_ne h hij _
    -- the job that asks had come to this very request
    have hasked {origin p : Plan (Except ε α)}
        (hp : origin.Leaves (History.part (h ++ [(i, ⟨r, (w.answer programs r).1⟩)]) i) p) :
        ∃ next, origin.Leaves (h.part i) (.ask r next) ∧ p = next (w.answer programs r).1 := by
      rw [History.part_snoc] at hp
      exact hp.exists_of_snoc
    obtain ⟨hsane, hbefore⟩ := ih (fun entry hentry => hknown entry (List.mem_append_left _ hentry))
      fun j origin horigin => by
        obtain ⟨p, hp⟩ := hleads j origin horigin
        by_cases hij : i = j
        · subst hij
          obtain ⟨next, hnext, -⟩ := hasked hp
          exact ⟨_, hnext⟩
        · rw [hpart hij] at hp
          exact ⟨p, hp⟩
    have hasks : sep.asks i r := by
      obtain ⟨p, hp⟩ := hleads i _ (List.getElem?_eq_getElem hi)
      obtain ⟨next, hnext, -⟩ := hasked hp
      exact (hbefore i _ _ (List.getElem?_eq_getElem hi) hnext).asks
    refine ⟨sep.sane_answer hi hasks hsane, fun j origin p horigin hp => ?_⟩
    by_cases hij : i = j
    · subst hij
      obtain ⟨next, hnext, rfl⟩ := hasked hp
      rw [History.part_snoc]
      exact (hbefore i origin _ horigin hnext).answer hi hsane
    · rw [hpart hij] at hp ⊢
      exact (hbefore j origin p horigin hp).foreign (lt_of_getElem_eq_some horigin) hi
        (Ne.symm hij) hasks hsane

/-- Work that comes to its end has had the conversation with every job that the job would have had
alone, and it has come to what the job comes to alone. -/
theorem exchanges_of_carriedOut {h : History} {results : List α}
    (hcarried : CarriedOut programs jobs start h results w) {i : ℕ} {job : Plan (Except ε α)}
    {a : α} (hjob : jobs[i]? = some job) (ha : results[i]? = some a) :
    List.Forall₂ Exchange.Same (job.exchanges (World.answer programs) start) (h.part i) ∧
      told forget (job.run programs start).1 = some (forget a) := by
  have hleads (j : ℕ) (origin : Plan (Except ε α)) (horigin : jobs[j]? = some origin) :
      ∃ p, origin.Leaves (h.part j) p := by
    have hj : j < results.length := by
      rw [hcarried.length]
      exact lt_of_getElem_eq_some horigin
    exact ⟨_, hcarried.once j origin _ horigin (List.getElem?_eq_getElem hj)⟩
  obtain ⟨-, habreast⟩ := abreast_of_happens hstart hjobs hcarried.happens hcarried.known hleads
  obtain ⟨es, q, v, hexchanges, hrun, hsame, halike, -, -⟩ :=
    habreast i job _ hjob (hcarried.once i job a hjob ha)
  cases halike with
  | done htold =>
    rw [hexchanges, hrun, Plan.exchanges, List.append_nil]
    exact ⟨hsame, htold⟩

end happens

/-- A single job is separate. -/
def lone (programs : Behaviour) : Separation programs 1 where
  sane _ := True
  view _ := Eq
  asks _ _ := True
  equivalence _ := eq_equivalence
  sane_answer _ _ _ := trivial
  own := by
    rintro i r w _ - - - - rfl
    exact ⟨.refl _ _, rfl⟩
  foreign hi hj hij := by omega

end Separation

end Crosscheck
