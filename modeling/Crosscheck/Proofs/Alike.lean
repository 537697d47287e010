import Crosscheck.Proofs.Conversation

/-!
# Plans that go alike

Two plans go alike if they make the same requests as long as the answers are the same, and come to
related values. The time, the cause of a failed reading and what comes of a removal make no
difference. Plans that go alike do so in worlds that answer alike.
-/

namespace Crosscheck

/-- Answers that make no difference. -/
def Request.Same : (r : Request) → r.Answer → r.Answer → Prop
  | .isFile _, a, b => a = b
  | .read _, a, b => a.toOption = b.toOption
  | .remove _, _, _ => True
  | .launch .., a, b => a = b
  | .now, _, _ => True

theorem Request.Same.refl (r : Request) (a : r.Answer) : r.Same a a := by
  cases r <;> simp [Request.Same]

namespace Plan

variable {α β : Type}

/-- Plans with the same requests, all of them of some sort, and related values. -/
inductive Alike (asks : Request → Prop) (related : α → α → Prop) : Plan α → Plan α → Prop
  | done {a b : α} (h : related a b) : Alike asks related (done a) (done b)
  | ask {r : Request} {next next' : r.Answer → Plan α} (hr : asks r)
      (hnext : ∀ a b, r.Same a b → Alike asks related (next a) (next' b)) :
      Alike asks related (ask r next) (ask r next')

variable {asks : Request → Prop} {related : α → α → Prop} {related' : β → β → Prop}

theorem Alike.bind {p q : Plan α} {f g : α → Plan β} (h : p.Alike asks related q)
    (hfg : ∀ a b, related a b → (f a).Alike asks related' (g b)) :
    (p >>= f).Alike asks related' (q >>= g) := by
  induction h with
  | done h => exact hfg _ _ h
  | ask hr _ ih => exact .ask hr ih

theorem Alike.mono {asks' : Request → Prop} {p q : Plan α} (h : p.Alike asks related q)
    (himp : ∀ r, asks r → asks' r) : p.Alike asks' related q := by
  induction h with
  | done h => exact .done h
  | ask hr _ ih => exact .ask (himp _ hr) ih

theorem Alike.asks_of_ask {r : Request} {next next' : r.Answer → Plan α}
    (h : (Plan.ask r next).Alike asks related (Plan.ask r next')) : asks r := by
  cases h with
  | ask hr _ => exact hr

theorem Alike.next {r : Request} {next next' : r.Answer → Plan α}
    (h : (Plan.ask r next).Alike asks related (Plan.ask r next')) {a b : r.Answer}
    (hab : r.Same a b) : (next a).Alike asks related (next' b) := by
  cases h with
  | ask _ hnext => exact hnext a b hab

theorem Alike.only {p q : Plan α} (h : p.Alike asks related q) : p.Only asks := by
  induction h with
  | done _ => exact trivial
  | ask hr _ ih => exact ⟨hr, fun a => ih a a (Request.Same.refl _ a)⟩

variable {programs : Behaviour} {sane : World → Prop} {view : World → World → Prop}

/-- Plans that go alike come to related values in worlds that answer their requests alike. -/
theorem Alike.run {p q : Plan α} (h : p.Alike asks related q)
    (hsane : ∀ r w, asks r → sane w → sane (w.answer programs r).2)
    (hanswer : ∀ r w w', asks r → sane w → sane w' → view w w' →
      r.Same (w.answer programs r).1 (w'.answer programs r).1 ∧
        view (w.answer programs r).2 (w'.answer programs r).2)
    {w w' : World} (hw : sane w) (hw' : sane w') (hview : view w w') :
    related (p.run programs w).1 (q.run programs w').1 ∧
      view (p.run programs w).2 (q.run programs w').2 := by
  induction h generalizing w w' with
  | done h => exact ⟨h, hview⟩
  | ask hr hnext ih =>
    obtain ⟨hsame, hview'⟩ := hanswer _ w w' hr hw hw' hview
    exact ih _ _ hsame (hsane _ w hr hw) (hsane _ w' hr hw') hview'

end Plan

end Crosscheck
