import Crosscheck.World

/-!
# Plans

A plan is what a worker does, as data: it ends with a value, or makes a request of the world and
goes on by the answer. Every plan ends. `run` carries a plan out alone in a world; a plan can also
be carried out request by request, with those of other workers in between.
-/

namespace Crosscheck

inductive Request where
  | isFile (p : Path)
  | read (p : Path)
  | remove (p : Path)
  | launch (command : Command) (limit : Option Duration)
  | now
  deriving DecidableEq, Repr

/-- What the world answers. -/
abbrev Request.Answer : Request → Type
  | isFile _ => Bool
  | read _ => Except OsError Bytes
  | remove _ => Except OsError Unit
  | launch .. => Except LaunchError Capture
  | now => Nat

/-- One request, and the world after it. -/
def World.answer (programs : Behaviour) (w : World) : (r : Request) → r.Answer × World
  | .isFile p => (w.isFile p, w)
  | .read p => (w.read p, w)
  | .remove p => w.remove p
  | .launch command limit => w.launch programs command limit
  | .now => (w.clock, w)

inductive Plan (α : Type) where
  | done (a : α)
  | ask (r : Request) (next : r.Answer → Plan α)

namespace Plan

variable {α β : Type}

def bind : Plan α → (α → Plan β) → Plan β
  | done a, f => f a
  | ask r next, f => ask r fun a => bind (next a) f

instance : Monad Plan where
  pure := done
  bind := bind

/-- A single request. -/
def request (r : Request) : Plan r.Answer := ask r done

def run (programs : Behaviour) : Plan α → World → α × World
  | done a, w => (a, w)
  | ask r next, w =>
    let (a, w) := w.answer programs r
    run programs (next a) w

@[simp] theorem run_pure (programs : Behaviour) (a : α) (w : World) :
    run programs (pure a : Plan α) w = (a, w) := rfl

@[simp] theorem run_bind (programs : Behaviour) (p : Plan α) (f : α → Plan β) (w : World) :
    run programs (p >>= f) w = run programs (f (run programs p w).1) (run programs p w).2 := by
  induction p generalizing w with
  | done a => rfl
  | ask r next ih => exact ih _ _

@[simp] theorem run_request (programs : Behaviour) (r : Request) (w : World) :
    run programs (request r) w = w.answer programs r := rfl

end Plan

end Crosscheck
