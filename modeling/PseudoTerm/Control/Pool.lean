import PseudoTerm.Control.Channel
import PseudoTerm.WorkerPool

/-!
# Pools of worker threads

A pool runs jobs on a fixed number of worker threads, at least one, that take them from
a queue holding as many jobs as there are workers.  Queueing a job counts it as pending
and puts it on the queue, waiting while the queue is full; a worker takes the next job,
counts it as running while it runs, and then as neither running nor pending.  Waiting
for the pool waits until nothing is pending; stopping it closes the queue, so that the
workers end once it is drained.

A job is named by its index on the queue: the workers of a pool made for `job` run
`job i` for index `i`.
-/

namespace PseudoTerm.Control

open PseudoTerm.Machine

/-- A pool: the channel of its queue, the counter of pending jobs and the counter of
jobs running. -/
structure Pool where
  queue : Nat
  pending : Nat
  running : Nat
  deriving DecidableEq, Repr, Inhabited

namespace Pool

/-- Run job `i` on a worker: counted as running while it runs, and then as neither
running nor pending. -/
def runJob (pool : Pool) (job : Nat → Prog Memory Unit) (i : Nat) : Prog Memory Unit := do
  addTo pool.running 1
  job i
  addTo pool.running (-1)
  addTo pool.pending (-1)

/-- A worker: takes jobs from the queue and runs them until the queue is closed and
drained, for at most `rounds` jobs. -/
def work (pool : Pool) (job : Nat → Prog Memory Unit) : Nat → Prog Memory Unit
  | 0 => pure ()
  | rounds + 1 => do
    match ← receive pool.queue with
    | none => pure ()
    | some i =>
      pool.runJob job i.toNat
      work pool job rounds

/-- Start a pool of `workers` workers (at least one), each able to run `rounds` jobs. -/
def make (workers : Int) (job : Nat → Prog Memory Unit) (rounds : Nat) : Prog Memory Pool := do
  let count := WorkerPool.workerCount workers
  let queue ← makeChannel count
  let pending ← makeCounter 0
  let running ← makeCounter 0
  let pool : Pool := ⟨queue, pending, running⟩
  for _ in List.range count do
    Sys.spawnThread (pool.work job rounds)
  pure pool

/-- Queue job `i`, waiting while the queue is full. -/
def enqueue (pool : Pool) (i : Nat) : Prog Memory Unit := do
  addTo pool.pending 1
  send pool.queue i

/-- Wait until every queued job has returned. -/
def wait (pool : Pool) : Prog Memory Unit := awaitZero pool.pending

/-- Close the queue: the workers end once it is drained. -/
def stop (pool : Pool) : Prog Memory Unit := closeChannel pool.queue

/-- The number of jobs running now. -/
def runningNow (pool : Pool) : Prog Memory Int := inspect (·.counter pool.running)

end Pool

end PseudoTerm.Control
