import PseudoTerm.Session.Manager
import PseudoTerm.Control.Pool

/-!
# Running a batch of sessions

A batch runs every session of a list on a pool of workers (at least one) and answers
one outcome per session, in list order.  The workers take the sessions in order from a
queue holding as many as there are workers.

Each session first checks its context: once the context ended the session does not
run and its outcome carries the context's cause.  Otherwise its output writer is
opened and the session started; a failure of either is the outcome's fault.  The
output is copied into the writer, with every chunk size handed to the progress
observer when there is one, and the session waited for; a fault of waiting, or else of
copying, is the outcome's fault.  The time an outcome reports runs from its check to
after the session and its writer are closed.

Ending the context kills every running session, and each session started after it
ended is killed as soon as its own watch sees the end.
-/

namespace PseudoTerm.Control

open PseudoTerm.Machine PseudoTerm.Config

/-- Opens the writer receiving a session's output. -/
abbrev OutputOpener := SessionSpec → Prog Memory (Except Fault Writer)

/-- Observes a session's output: runs in a thread of its own with the session's name
and the key of the channel of chunk sizes, which it drains until the channel is
closed. -/
abbrev ProgressObserver := String → Nat → Prog Memory Unit

/-- The room of a progress channel. -/
def progressRoom : Nat := 16

/-- Leave outcome `o` under key `slot`, with the time since `start` as its duration. -/
def recordOutcome (slot start : Nat) (o : SessionOutcome) : Prog Memory Unit := do
  let now ← Sys.now (μ := Memory)
  change (fun m => { m with outcomes := m.outcomes.modify slot fun _ => { o with duration := now - start } })
    fun _ => ()

/-- What ending the context does to a started session: kill it and let its output drain. -/
def Session.killAndDrain (s : Session) : Prog Memory Unit := do
  let _ ← s.kill
  s.drain

/-- Copy the output of a started session into `w`, with every chunk size handed to the
progress observer when there is one; answers the bytes copied and the fault of copying. -/
def copyStarted (progress : Option ProgressObserver) (spec : SessionSpec) (w : Writer) (s : Session) :
    Prog Memory (Nat × Option Fault) := do
  let channel ← match progress with
    | some observe => do
      let ch ← makeChannel progressRoom
      let group ← makeCounter 1
      Sys.spawnThread do
        observe spec.name ch
        addTo group (-1)
      pure (some (ch, group))
    | none => pure none
  let copied ← s.copyOutput w (channel.map (·.1))
  if let some (ch, group) := channel then
    closeChannel ch
    awaitZero group
  pure copied

/-- Close a started session and its writer, and leave outcome `o` under key `slot`. -/
def closeStarted (slot start : Nat) (w : Writer) (s : Session) (o : SessionOutcome) : Prog Memory Unit := do
  let _ ← s.close
  let _ ← w.close
  recordOutcome slot start o

/-- Wait for a started session whose output was copied, stop `watch`, and close the
session and the writer; a fault of waiting, or else of copying, is the outcome's. -/
def waitStarted (spec : SessionSpec) (slot start : Nat) (w : Writer) (s : Session) (watch : Watch)
    (bytes : Nat) (copyFault : Option Fault) : Prog Memory Unit := do
  let (code, waitFault) ← s.wait
  let fault := match waitFault with
    | some f => some f
    | none => copyFault
  let _ ← watch.stop
  closeStarted slot start w s { name := spec.name, exitCode := code, bytes, fault }

/-- The end of a started session: copy its output, wait for it, stop `watch`, close the
session and the writer, and leave the outcome under key `slot`. -/
def finishStarted (progress : Option ProgressObserver) (spec : SessionSpec) (slot start : Nat)
    (w : Writer) (s : Session) (watch : Watch) : Prog Memory Unit := do
  let (bytes, copyFault) ← copyStarted progress spec w s
  waitStarted spec slot start w s watch bytes copyFault

/-- Run a started session of a batch to its end, killing it once the context ends. -/
def runStarted (ctx : Context) (progress : Option ProgressObserver) (spec : SessionSpec)
    (slot start : Nat) (w : Writer) (s : Session) : Prog Memory Unit := do
  let watch ← ctx.afterEnd s.killAndDrain
  finishStarted progress spec slot start w s watch

/-- Run one session of a batch, leaving its outcome under key `slot`. -/
def runOne (ctx : Context) (host : Host) (mgr : Manager) (output : OutputOpener)
    (progress : Option ProgressObserver) (spec : SessionSpec) (slot : Nat) : Prog Memory Unit := do
  let start ← Sys.now (μ := Memory)
  if let some f ← ctx.cause? then return ← recordOutcome slot start { name := spec.name, fault := some f }
  match ← output spec with
  | .error f => recordOutcome slot start { name := spec.name, fault := some f }
  | .ok w =>
    match ← mgr.start host spec with
    | .error f =>
      let _ ← w.close
      recordOutcome slot start { name := spec.name, fault := some f }
    | .ok (_, s) => runStarted ctx progress spec slot start w s

/-- A slot for the outcome of each session, in list order. -/
def outcomeSlots (specs : List SessionSpec) : Prog Memory (List Nat) :=
  specs.mapM fun spec => create fun k m => { m with outcomes := m.outcomes.insert k { name := spec.name } }

/-- The outcomes held by slots. -/
def readOutcomes (slots : List Nat) : Prog Memory (List SessionOutcome) :=
  inspect fun m => slots.map fun k => (m.outcomes.get? k).getD default

/-- Run the sessions of a batch on `workers` workers under `ctx`, leaving each outcome
in its slot. -/
def runBatchInto (ctx : Context) (host : Host) (jobs : List (SessionSpec × Nat)) (workers : Int)
    (mgr : Manager) (output : OutputOpener) (progress : Option ProgressObserver) : Prog Memory Unit := do
  let watch ← ctx.afterEnd mgr.killAll
  let pool ← Pool.make workers (fun i =>
    match jobs[i]? with
    | some (spec, slot) => runOne ctx host mgr output progress spec slot
    | none => pure ()) (jobs.length + 1)
  for i in List.range jobs.length do
    pool.enqueue i
  pool.wait
  pool.stop
  let _ ← watch.stop

/-- Run the sessions of a batch on `workers` workers under `ctx`; answers their
outcomes in list order. -/
def runBatch (ctx : Context) (host : Host) (specs : List SessionSpec) (workers : Int)
    (mgr : Manager) (output : OutputOpener) (progress : Option ProgressObserver) :
    Prog Memory (List SessionOutcome) := do
  let slots ← outcomeSlots specs
  runBatchInto ctx host (specs.zip slots) workers mgr output progress
  readOutcomes slots

end PseudoTerm.Control
