/-!
# Worker pools

A pool runs queued jobs on a fixed number of workers, at least one.  Jobs are taken from
the queue in order by whichever worker is free; a job runs to its end before its worker
takes another.  A run is recorded as the sequence of starts and ends, from which the
number of jobs run, the number running at any moment and whether each job ran once can
be read.
-/

namespace PseudoTerm

/-- One event of a pool run: a worker starts or ends a job. -/
inductive PoolEvent where
  | start (worker job : Nat)
  | finish (worker job : Nat)
  deriving DecidableEq, Repr

namespace WorkerPool

/-- The number of workers a pool asked for `requested` gets. -/
def workerCount (requested : Int) : Nat := if requested < 1 then 1 else requested.toNat

/-- A run of `jobs` jobs on `workers` workers in rounds: each round the free workers take
the next jobs in queue order, then every running job ends. -/
def schedule (workers jobs : Nat) : List PoolEvent :=
  go 0 jobs jobs
where
  /-- The events from job `next` on, with `remaining` jobs left; each round takes at
  least one job, so `jobs` rounds suffice. -/
  go (next remaining : Nat) : Nat → List PoolEvent
    | 0 => []
    | rounds + 1 =>
      if remaining = 0 then []
      else
        let batch := min (max workers 1) remaining
        let taken := List.range batch
        let starts := taken.map fun w => PoolEvent.start w (next + w)
        let ends := taken.map fun w => PoolEvent.finish w (next + w)
        starts ++ ends ++ go (next + batch) (remaining - batch) rounds

/-- The jobs that ended in a run, in order. -/
def finished (events : List PoolEvent) : List Nat :=
  events.filterMap fun
    | .finish _ j => some j
    | .start _ _ => none

/-- The number of jobs running after each prefix of a run. -/
def runningAfter (events : List PoolEvent) : Nat :=
  events.foldl (fun n e => match e with
    | .start _ _ => n + 1
    | .finish _ _ => n - 1) 0

/-- Whether every job of `0 … jobs - 1` ended exactly once. -/
def eachOnce (jobs : Nat) (events : List PoolEvent) : Bool :=
  (List.range jobs).all fun j => (finished events).count j == 1

end WorkerPool

end PseudoTerm
