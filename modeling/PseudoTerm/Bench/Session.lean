import PseudoTerm.Bench.Pty
import PseudoTerm.Session.Manager

/-!
# Bench requests about sessions

`session` runs steps on one session: starting it from a specification (with its
defaults filled in), writing, reading until a text, copying its output into a buffer
(output read earlier and not answered comes first), waiting, signalling, killing,
sizing and closing it; the session is closed at the end.  `manager` runs steps on one
manager: starting sessions, looking them up, counting and listing them, killing them
all, waiting for every session it started, and polling until it holds a number of
sessions.
-/

namespace PseudoTerm.Bench

open PseudoTerm.Machine PseudoTerm.Control PseudoTerm.Config

/-- The bench process as a program that knows itself. -/
def benchHost : Host := { env := driverEnvironment, executable := driverPath }

/-- The defaults of specifications the bench starts: `$SHELL` is the driver's. -/
def benchDefaults : Defaults := {}

/-- The specification of a `start` step, defaults filled in. -/
def startSpec (step : Value) : Decode SessionSpec := do
  pure ((← sessionOf (← need step "conf")).withDefaults benchDefaults)

/-- The state of a `session` request. -/
structure SessionBench where
  session : Option Session := none
  buffer : ByteArray := .empty
  deriving Inhabited

/-- A step that needs the session. -/
def withSession (s : SessionBench) (k : Session → Prog Memory (Value × SessionBench)) :
    Prog Memory (Value × SessionBench) :=
  match s.session with
  | some x => k x
  | none => pure (refusal "no session: start first", s)

/-- Copy a session's output into a buffer, giving up after `timeout` microseconds;
answers the bytes, their count, the sum of the chunk sizes and the fault. -/
def copyToBuffer (x : Session) (timeout : Nat) : Prog Memory (ByteArray × Nat × Int × Option Fault) := do
  let buf ← makeBuffer
  let ch ← makeChannel 1024
  let total ← makeCounter 0
  let group ← makeCounter 1
  Sys.spawnThread do
    let rec drainAll : Nat → Prog Memory Unit
      | 0 => pure ()
      | fuel + 1 => do
        match ← receive ch with
        | some v =>
          addTo total v
          drainAll fuel
        | none => pure ()
    drainAll relayRounds
    addTo group (-1)
  let ctx ← Context.withTimeout .background timeout
  let watch ← ctx.afterEnd do
    let _ ← Sys.setDeadline (μ := Memory) x.term.fd true (some 0)
  let (n, fault) ← x.copyOutput (Writer.buffer buf) (some ch)
  let _ ← watch.stop
  closeChannel ch
  awaitZero group
  let data ← inspect (·.buffer buf)
  let sum ← inspect (·.counter total)
  pure (data, n, sum, fault)

/-- Carry out one `session` step. -/
def sessionStep (s : SessionBench) (step : Value) : Prog Memory (Value × SessionBench) :=
  withFields (textField step "do") s fun
  | "start" => withFields (startSpec step) s fun spec => do
    match ← startSession benchHost spec with
    | .ok x =>
      pure (okValue (.obj [("name", .str x.name), ("running_or_done", .bool true)]),
        { s with session := some x, buffer := .empty })
    | .error f => pure (faultValue benchMask f, s)
  | "write" => withFields (bytesField step "data") s fun data => withSession s fun x => do
    let (n, fault) ← x.term.write ⟨data.toArray⟩
    pure (writeValue n fault, s)
  | "read_until" =>
    withFields (do pure (← bytesField step "expect", ← int64FieldD step "timeout_ms" 2000)) s
    fun (expect, timeout) => withSession s fun x => do
      let ctx ← Context.withTimeout .background (timeout.toNat * 1000)
      let (r, rest) ← readUntil x.term ctx ⟨expect.toArray⟩ s.buffer readRounds
      pure (readValue r, { s with buffer := rest })
  | "copy_output" => withFields (int64FieldD step "timeout_ms" 2000) s fun timeout => withSession s fun x => do
    let (data, n, sum, fault) ← copyToBuffer x (timeout.toNat * 1000)
    let err := match fault with
      | some f => faultValue benchMask f
      | none => .null
    pure (okValue (.obj [("err", err), ("metric_sum", .int sum), ("n", .nat n),
      ("output", bytesValue benchMask (s.buffer ++ data))]), { s with buffer := .empty })
  | "wait" => withSession s fun x => do
    let (code, fault) ← x.wait
    let running ← x.running
    let err := match fault with
      | some f => faultValue benchMask f
      | none => .null
    pure (okValue (.obj [("err", err), ("exit_code", .int code), ("running", .bool running)]), s)
  | "running_after_wait" => withSession s fun x => do
    let _ ← x.wait
    pure (okValue (.bool (← x.running)), s)
  | "signal" => withFields (intField step "signal" "a signal" 0 64) s fun sig => withSession s fun x => do
    pure (stepValue benchMask ((← x.signal sig.toNat).map fun _ => .null), s)
  | "kill" => withSession s fun x => do pure (stepValue benchMask ((← x.kill).map fun _ => .null), s)
  | "resize" =>
    withFields (do pure (← uint32Field step "cols", ← uint32Field step "rows")) s fun (cols, rows) =>
      withSession s fun x => do pure (stepValue benchMask ((← x.resize cols rows).map fun _ => .null), s)
  | "size" => withSession s fun x => do pure (stepValue benchMask ((← x.term.size).map windowValue), s)
  | "is_session_leader" => withSession s fun x => do
    match ← Sys.identityOf (μ := Memory) x.child.pid with
    | .ok ids => pure (okValue (.bool (ids.sid == x.child.pid)), s)
    | .error e => pure (faultValue benchMask (.errno e), s)
  | "close" => withSession s fun x => do pure (stepValue benchMask ((← x.close).map fun _ => .null), s)
  | "sleep" => withFields (intField step "ms" "at most 500" 0 500) s fun ms => do
    Sys.sleep (μ := Memory) (ms.toNat * 1000)
    pure (okValue .null, s)
  | other => pure (refusal s!"unknown step \"{other}\"", s)

/-- Run steps in order with a step function. -/
def runSteps {σ : Type} (stepFn : σ → Value → Prog Memory (Value × σ)) : σ → List Value → Prog Memory (List Value × σ)
  | s, [] => pure ([], s)
  | s, step :: rest => do
    let (v, s') ← stepFn s step
    let (vs, s'') ← runSteps stepFn s' rest
    pure (v :: vs, s'')

/-- The steps of a request. -/
def stepsOf (req : Value) : Decode (List Value) := do
  match ← need req "steps" with
  | .arr xs => pure xs
  | _ => throw "field \"steps\" must be a list"

/-- The answer of a `session` request. -/
def sessionAnswer (req : Value) : Decode Value := do
  let steps ← stepsOf req
  let task : Prog Memory (List Value) := do
    let (answers, s) ← runSteps sessionStep {} steps
    if let some x := s.session then
      let _ ← x.close
    pure answers
  match (runBench (benchWorld []) task).1 with
  | some answers => pure (resultValue (.arr answers))
  | none => throw "the steps did not finish"

/-- The state of a `manager` request: the manager and the sessions it started. -/
structure ManagerBench where
  manager : Manager
  started : List Session := []
  deriving Inhabited

/-- Poll until the manager holds `want` sessions, for at most `rounds` more polls;
answers the number it holds. -/
def awaitSize (mgr : Manager) (want : Nat) : Nat → Prog Memory Nat
  | 0 => mgr.size
  | rounds + 1 => do
    let n ← mgr.size
    if n == want then pure n
    else
      Sys.sleep (μ := Memory) 10000
      awaitSize mgr want rounds

/-- Carry out one `manager` step. -/
def managerStep (s : ManagerBench) (step : Value) : Prog Memory (Value × ManagerBench) :=
  withFields (textField step "do") s fun
  | "start" => withFields (startSpec step) s fun spec => do
    match ← s.manager.start benchHost spec with
    | .ok (id, x) => pure (okValue (.nat id), { s with started := s.started ++ [x] })
    | .error f => pure (faultValue benchMask f, s)
  | "get" => withFields (int64Field step "id") s fun id => do
    pure (stepValue benchMask ((← s.manager.get id).map fun x => .str x.name), s)
  | "len" => do pure (okValue (.nat (← s.manager.size)), s)
  | "list" => do
    let items ← s.manager.list
    pure (okValue (.arr (items.map fun (id, x) => .arr [.nat id, .str x.name])), s)
  | "kill_all" => do
    s.manager.killAll
    pure (okValue .null, s)
  | "wait_all" => do
    let codes ← s.started.mapM fun x => do pure (← x.wait).1
    pure (okValue (.arr (codes.map Value.int)), s)
  | "await_len" => withFields (intField step "want" "an int64" 0 int64Max) s fun want => do
    pure (okValue (.nat (← awaitSize s.manager want.toNat 200)), s)
  | other => pure (refusal s!"unknown step \"{other}\"", s)

/-- The answer of a `manager` request. -/
def managerAnswer (req : Value) : Decode Value := do
  let steps ← stepsOf req
  let task : Prog Memory (List Value) := do
    let mgr ← Manager.make
    let (answers, s) ← runSteps managerStep { manager := mgr } steps
    for x in s.started do
      let _ ← x.close
    pure answers
  match (runBench (benchWorld []) task).1 with
  | some answers => pure (resultValue (.arr answers))
  | none => throw "the steps did not finish"

end PseudoTerm.Bench
