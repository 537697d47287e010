import Crosscheck.Plan

/-!
# Workers

A list of jobs is carried out by one worker, one job after the other, or by several at once. Several
workers take turns: in its turn a worker makes one request of the job it is at, ends that job, or,
with no job at hand, takes up one that waits. Any order of turns is possible; when the given turns
are used up, what is left is done job by job. A job that fails stops the work: one worker goes no
further, and several take up no other job, but end those they are at.
-/

namespace Crosscheck

/-- What became of a list of jobs. -/
structure Work (ε α : Type) where
  /-- The results of the jobs that succeeded, in the order in which they ended. -/
  ended : List α
  /-- All results in the order of the jobs, or the first failure. -/
  verdict : Except ε (List α)

/-- A turn of a worker, who takes up the job number `pick` of those that wait if it has none. -/
structure Turn where
  worker : Nat
  pick : Nat
  deriving DecidableEq, Repr

variable {ε α : Type}

/-- One worker: the jobs in their order, up to the first that fails. -/
def workInOrder (programs : Behaviour) : List (Plan (Except ε α)) → World → Work ε α × World
  | [], w => (⟨[], .ok []⟩, w)
  | job :: jobs, w =>
    match job.run programs w with
    | (.error e, w) => (⟨[], .error e⟩, w)
    | (.ok a, w) =>
      let (rest, w) := workInOrder programs jobs w
      (⟨a :: rest.ended, rest.verdict.map (a :: ·)⟩, w)

/-- A job with its position in the list of jobs. -/
structure Job (ε α : Type) where
  number : Nat
  plan : Plan (Except ε α)

/-- Several workers in the middle of their work. -/
structure Pool (ε α : Type) where
  world : World
  waiting : List (Job ε α)
  /-- The workers that have a job, with what is left of it. -/
  running : List (Nat × Job ε α)
  /-- Jobs by number, in the order in which they ended. -/
  ended : List (Nat × Except ε α)

namespace Pool

def start (jobs : List (Plan (Except ε α))) (w : World) : Pool ε α where
  world := w
  waiting := jobs.zipIdx.map fun (plan, number) => ⟨number, plan⟩
  running := []
  ended := []

variable (pool : Pool ε α)

/-- The first failure. -/
def failure? : Option ε :=
  pool.ended.findSome? fun (_, result) =>
    match result with
    | .error e => some e
    | .ok _ => none

/-- One turn of a worker. -/
def turn (programs : Behaviour) (t : Turn) : Pool ε α :=
  let others := pool.running.filter fun entry => entry.1 ≠ t.worker
  match pool.running.lookup t.worker with
  | some ⟨number, .done result⟩ =>
    { pool with running := others, ended := pool.ended ++ [(number, result)] }
  | some ⟨number, .ask r next⟩ =>
    let (a, w) := pool.world.answer programs r
    { pool with world := w, running := (t.worker, ⟨number, next a⟩) :: others }
  | none =>
    if pool.failure?.isSome then pool
    else match pool.waiting[t.pick]? with
      | none => pool
      | some job =>
        { pool with
          waiting := pool.waiting.eraseIdx t.pick
          running := (t.worker, job) :: pool.running }

/-- Carries a job out alone. -/
def complete (programs : Behaviour) (job : Job ε α) : Pool ε α :=
  let (result, w) := job.plan.run programs pool.world
  { pool with world := w, ended := pool.ended ++ [(job.number, result)] }

/-- Takes up the jobs that wait, one by one, until one fails. -/
def drain (programs : Behaviour) : List (Job ε α) → Pool ε α → Pool ε α
  | [], pool => { pool with waiting := [] }
  | job :: jobs, pool =>
    if pool.failure?.isSome then { pool with waiting := job :: jobs }
    else drain programs jobs (pool.complete programs job)

/-- Does what is left: first the jobs that have been taken up, then those that wait. -/
def finish (programs : Behaviour) : Pool ε α :=
  let taken := (pool.running.map (·.2)).foldl (fun pool job => pool.complete programs job) pool
  drain programs taken.waiting { taken with running := [] }

/-- What the jobs came to, in the order of their numbers. -/
def inOrder (count : Nat) : List α :=
  (List.range count).filterMap fun number =>
    match pool.ended.lookup number with
    | some (.ok a) => some a
    | _ => none

/-- What became of `count` jobs. -/
def outcome (count : Nat) : Work ε α where
  ended := pool.ended.filterMap fun (_, result) => result.toOption
  verdict :=
    match pool.failure? with
    | some e => .error e
    | none => .ok (pool.inOrder count)

end Pool

/-- Several workers, by the given turns of those whose number is below `workers`. -/
def workTogether (programs : Behaviour) (workers : Nat) (turns : List Turn)
    (jobs : List (Plan (Except ε α))) (w : World) : Work ε α × World :=
  let pool := ((turns.filter fun t => decide (t.worker < workers)).foldl
    (fun pool t => pool.turn programs t) (Pool.start jobs w)).finish programs
  (pool.outcome jobs.length, pool.world)

/-- Several workers if there are several and more than one job, or else one. -/
def work (programs : Behaviour) (workers : Nat) (turns : List Turn)
    (jobs : List (Plan (Except ε α))) (w : World) : Work ε α × World :=
  if 1 < workers && 1 < jobs.length then workTogether programs workers turns jobs w
  else workInOrder programs jobs w

end Crosscheck
