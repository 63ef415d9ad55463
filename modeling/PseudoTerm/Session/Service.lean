import PseudoTerm.Session.Batch
import PseudoTerm.Session.Output
import PseudoTerm.Config.Batch
import PseudoTerm.Batch.Report

/-!
# A batch run as a service

The batch command runs its sessions as a service: starting it launches the batch in a
thread of its own and returns at once; the service ends by itself once every session
has ended, or is stopped from outside.  Stopping cancels the run (running sessions are
killed, pending ones are skipped) and waits until the batch has returned.

Each session writes its output to the file it names (see `openSessionOutput`).  Once
the service has ended, its outcomes make the batch report.
-/

namespace PseudoTerm.Control

open PseudoTerm.Machine PseudoTerm.Config

/-- A batch running as a service. -/
structure Service where
  manager : Manager
  /-- The context the sessions run under; cancelled to stop them. -/
  run : Context
  /-- Ends once the batch has returned. -/
  finished : Context
  /-- Where the outcomes go, in configuration order. -/
  slots : List Nat
  deriving Inhabited

namespace Service

/-- Launch the batch in a thread of its own, with a progress observer when given. -/
def start (host : Host) (spec : BatchSpec) (progress : Option ProgressObserver) : Prog Memory Service := do
  let manager ← Manager.make
  let run ← Context.withCancel .background
  let finished ← Context.withCancel .background
  let slots ← outcomeSlots spec.sessions
  Sys.spawnThread do
    runBatchInto run host (spec.sessions.zip slots) spec.workers manager openSessionOutput progress
    finished.cancel
  pure { manager, run, finished, slots }

/-- Stop the service: cancel the run and wait until the batch has returned. -/
def stop (s : Service) : Prog Memory Unit := do
  s.run.cancel
  let _ ← s.finished.awaitEnd

/-- Wait until the service ends by itself or `trigger` (run in a thread of its own)
returns, then stop it. -/
def awaitThenStop (s : Service) (trigger : Prog Memory Unit) : Prog Memory Unit := do
  let flag ← makeCounter 0
  Sys.spawnThread do
    trigger
    addTo flag 1
  let finishedKey := match s.finished with
    | .background => 0
    | .shared k => k
  let _ ← Sys.await fun m => (m.causeOf finishedKey).isSome || m.counter flag != 0
  s.stop

/-- The outcomes of the sessions, in configuration order. -/
def outcomes (s : Service) : Prog Memory (List SessionOutcome) := readOutcomes s.slots

end Service

/-- An outcome as the report shows it: the run time in nanoseconds. -/
def SessionOutcome.reported (o : SessionOutcome) : Batch.Outcome :=
  { name := o.name, exitCode := o.exitCode, bytes := o.bytes, duration := (o.duration : Int) * 1000,
    fault := o.fault }

end PseudoTerm.Control
