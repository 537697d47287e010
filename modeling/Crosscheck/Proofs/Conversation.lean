import Crosscheck.Plan

/-!
# Plans in conversation

A host answers requests in a state of its own; a world with its programs is one host among others.
`serve` carries a plan out against a host, and `exchanges` lists the requests that were made on the
way, each with its answer. Statements about every host hold whatever the files, the programs and
other workers do in between.
-/

namespace Crosscheck

/-- Answers requests, in a state of its own. -/
abbrev Host (σ : Type) := σ → (r : Request) → r.Answer × σ

/-- A request and its answer. -/
abbrev Exchange := (r : Request) × r.Answer

/-- A command that was handed to the system, with what came of it. -/
abbrev Launched := Command × Except LaunchError Capture

def Exchange.launched? : Exchange → Option Launched
  | ⟨.launch command _, result⟩ => some (command, result)
  | _ => none

namespace Plan

variable {α β σ : Type}

theorem bind_done (p : Plan α) : p.bind done = p := by
  induction p with
  | done a => rfl
  | ask r next ih => simp only [bind, ih]

theorem bind_bind {γ : Type} (p : Plan α) (f : α → Plan β) (g : β → Plan γ) :
    (p.bind f).bind g = p.bind fun a => (f a).bind g := by
  induction p with
  | done a => rfl
  | ask r next ih => simp only [bind, ih]

instance : LawfulMonad Plan := LawfulMonad.mk' Plan
  (fun p => bind_done p)
  (fun _ _ => rfl)
  (fun p f g => bind_bind p f g)

@[simp] theorem done_bind (a : α) (f : α → Plan β) : (done a >>= f) = f a := rfl

@[simp] theorem ask_bind (r : Request) (next : r.Answer → Plan α) (f : α → Plan β) :
    (ask r next >>= f) = ask r fun a => next a >>= f := rfl

def serve (host : Host σ) : Plan α → σ → α × σ
  | done a, s => (a, s)
  | ask r next, s => serve host (next (host s r).1) (host s r).2

def exchanges (host : Host σ) : Plan α → σ → List Exchange
  | done _, _ => []
  | ask r next, s => ⟨r, (host s r).1⟩ :: exchanges host (next (host s r).1) (host s r).2

/-- The commands that were launched, whatever came of them. -/
def launches (host : Host σ) (p : Plan α) (s : σ) : List Launched :=
  (p.exchanges host s).filterMap Exchange.launched?

variable (host : Host σ)

theorem serve_bind (p : Plan α) (f : α → Plan β) (s : σ) :
    (p >>= f).serve host s = (f (p.serve host s).1).serve host (p.serve host s).2 := by
  induction p generalizing s with
  | done a => rfl
  | ask r next ih => exact ih _ _

theorem exchanges_bind (p : Plan α) (f : α → Plan β) (s : σ) :
    (p >>= f).exchanges host s =
      p.exchanges host s ++ (f (p.serve host s).1).exchanges host (p.serve host s).2 := by
  induction p generalizing s with
  | done a => rfl
  | ask r next ih => exact congrArg (_ :: ·) (ih _ _)

theorem launches_bind (p : Plan α) (f : α → Plan β) (s : σ) :
    (p >>= f).launches host s =
      p.launches host s ++ (f (p.serve host s).1).launches host (p.serve host s).2 := by
  rw [launches, exchanges_bind, List.filterMap_append]
  rfl

theorem run_eq_serve (programs : Behaviour) (p : Plan α) (w : World) :
    p.run programs w = p.serve (World.answer programs) w := by
  induction p generalizing w with
  | done a => rfl
  | ask r next ih => exact ih _ _

/-- Whether a plan makes only requests of some sort, whatever is answered. -/
def Only (allowed : Request → Prop) : Plan α → Prop
  | done _ => True
  | ask r next => allowed r ∧ ∀ a, Only allowed (next a)

@[simp] theorem only_done (allowed : Request → Prop) (a : α) : (done a).Only allowed := trivial

@[simp] theorem only_ask (allowed : Request → Prop) (r : Request) (next : r.Answer → Plan α) :
    (ask r next).Only allowed ↔ allowed r ∧ ∀ a, (next a).Only allowed := Iff.rfl

theorem Only.bind {allowed : Request → Prop} {p : Plan α} {f : α → Plan β} (hp : p.Only allowed)
    (hf : ∀ a, (f a).Only allowed) : (p >>= f).Only allowed := by
  induction p with
  | done a => exact hf a
  | ask r next ih => exact ⟨hp.1, fun a => ih a (hp.2 a)⟩

theorem Only.mono {allowed allowed' : Request → Prop} {p : Plan α} (hp : p.Only allowed)
    (himp : ∀ r, allowed r → allowed' r) : p.Only allowed' := by
  induction p with
  | done a => exact trivial
  | ask r next ih => exact ⟨himp r hp.1, fun a => ih a (hp.2 a)⟩

theorem Only.exchanges {allowed : Request → Prop} {p : Plan α} (hp : p.Only allowed) {s : σ}
    {e : Exchange} (he : e ∈ p.exchanges host s) : allowed e.1 := by
  induction p generalizing s with
  | done a => cases he
  | ask r next ih =>
    rcases List.mem_cons.1 he with rfl | he
    · exact hp.1
    · exact ih _ (hp.2 _) he

theorem Only.launches_eq_nil {allowed : Request → Prop} {p : Plan α} (hp : p.Only allowed)
    (hallowed : ∀ command limit, ¬allowed (.launch command limit)) (s : σ) :
    p.launches host s = [] := by
  refine List.filterMap_eq_nil_iff.2 fun e he => ?_
  obtain ⟨r, a⟩ := e
  cases r with
  | launch command limit => exact absurd (hp.exchanges host he) (hallowed command limit)
  | isFile p => rfl
  | read p => rfl
  | remove p => rfl
  | now => rfl

/-- A world remembers the commands that a plan launched in it. -/
theorem launched_run (programs : Behaviour) (p : Plan α) (w : World) :
    (p.run programs w).2.launched =
      w.launched ++ (p.launches (World.answer programs) w).map Prod.fst := by
  induction p generalizing w with
  | done a => simp [run, launches, exchanges]
  | ask r next ih =>
    have hstep : (w.answer programs r).2.launched = w.launched ++
        (Exchange.launched? ⟨r, (w.answer programs r).1⟩).toList.map Prod.fst := by
      cases r with
      | launch command limit => rfl
      | remove p =>
        simp only [World.answer, World.remove, World.changed, Exchange.launched?]
        split <;> simp
      | isFile p => simp [World.answer, Exchange.launched?]
      | read p => simp [World.answer, Exchange.launched?]
      | now => simp [World.answer, Exchange.launched?]
    have hrest := ih (w.answer programs r).1 (w.answer programs r).2
    rw [run, hrest, hstep, launches, launches, exchanges, List.filterMap_cons]
    cases Exchange.launched? ⟨r, (w.answer programs r).1⟩ <;> simp

end Plan

end Crosscheck
