import PseudoTerm.Bench.Session
import PseudoTerm.Session.Service

/-!
# Bench requests about batches

`batch` runs sessions through the batch runner with outputs kept in memory: opening
the output of a session makes a fresh buffer for its name (or fails for the names the
request lists as failing), and with `progress` every session's chunk sizes are summed
by name.  The run's context may be cancelled before it starts or after a time.

`session_output` opens a session's output file in the bench's working directory,
writes to it and closes it.  `batch_service` loads a configuration file there, selects
sessions, runs them as a service (stopped after a time when asked) and answers the
report, with the time column shown as `<dur>`.
-/

namespace PseudoTerm.Bench

open PseudoTerm.Machine PseudoTerm.Control PseudoTerm.Config

/-- The outputs of a `batch` request: a counter per session name holding the key of
its latest buffer (0 before one is opened) and a counter summing its chunk sizes. -/
structure Sinks where
  names : List (String × Nat × Nat)
  deriving Inhabited

/-- The counters of a name. -/
def Sinks.of (s : Sinks) (name : String) : Option (Nat × Nat) := s.names.lookup name

/-- Counters for every distinct name. -/
def makeSinks (names : List String) : Prog Memory Sinks := do
  let distinct := names.foldl (fun acc n => if acc.contains n then acc else acc ++ [n]) []
  let made ← distinct.mapM fun n => do
    let opened ← makeCounter 0
    let total ← makeCounter 0
    pure (n, opened, total)
  pure ⟨made⟩

/-- The opener of in-memory outputs; the names in `failing` cannot be opened. -/
def Sinks.opener (s : Sinks) (failing : List String) : OutputOpener := fun spec => do
  if failing.contains spec.name then
    return .error (.text s!"cannot open output of {spec.name}")
  let buf ← makeBuffer
  if let some (opened, _) := s.of spec.name then
    change (fun m => m.addCounter opened ((buf : Int) - m.counter opened)) fun _ => ()
  pure (.ok (Writer.buffer buf))

/-- The observer summing chunk sizes by name. -/
def Sinks.observer (s : Sinks) : ProgressObserver := fun name ch => do
  let rec drainAll : Nat → Prog Memory Unit
    | 0 => pure ()
    | fuel + 1 => do
      match ← receive ch with
      | some v =>
        if let some (_, total) := s.of name then addTo total v
        drainAll fuel
      | none => pure ()
  drainAll relayRounds

/-- The answer for one outcome of a `batch` request. -/
def outcomeValue (s : Sinks) (progress : Bool) (o : SessionOutcome) : Prog Memory Value := do
  let (output, sum) ← inspect fun m =>
    match s.of o.name with
    | some (opened, total) =>
      let key := (m.counter opened).toNat
      let output := if key == 0 then Value.null else bytesValue benchMask ((m.buffer key))
      (output, m.counter total)
    | none => (.null, 0)
  let err := match o.fault with
    | some f => faultValue benchMask f
    | none => .null
  let fields : List (String × Value) := [("bytes", .nat o.bytes), ("err", err),
    ("exit_code", .int o.exitCode), ("name", .str o.name),
    ("ok", .bool (o.fault.isNone && o.exitCode == 0)), ("output", output)]
  pure (.obj (fields ++ if progress then [("progress", .int sum)] else []))

/-- The answer of a `batch` request. -/
def batchAnswer (req : Value) : Decode Value := do
  let workers ← int64FieldD req "workers" defaultWorkers
  let specs ← match opt req "sessions" with
    | some (.arr xs) => xs.mapM fun v => do pure ((← sessionOf v).withDefaults benchDefaults)
    | some _ => throw "field \"sessions\" must be a list"
    | none => pure []
  let failing ← textsFieldD req "fail_output"
  let progress ← boolFieldD req "progress"
  let cancelBefore ← boolFieldD req "cancel_before"
  let cancelAfter ← match opt req "cancel_ms" with
    | some v => some <$> integerIn "cancel_ms" "an int64" 0 int64Max v
    | none => pure none
  let spec : BatchSpec := { sessions := specs, workers }
  let spec ← match opt req "select" with
    | some v =>
      match spec.select (← textsOf "select" v) with
      | .ok b => pure b
      | .error f => return faultValue benchMask f
    | none => pure spec
  let task : Prog Memory Value := do
    let ctx ← Context.withCancel .background
    if cancelBefore then ctx.cancel
    if let some ms := cancelAfter then ctx.cancelAfter (ms.toNat * 1000)
    let sinks ← makeSinks (spec.sessions.map (·.name))
    let mgr ← Manager.make
    let outcomes ← runBatch ctx benchHost spec.sessions spec.workers mgr (sinks.opener failing)
      (if progress then some sinks.observer else none)
    pure (.arr (← outcomes.mapM (outcomeValue sinks progress)))
  match (runBench (benchWorld []) task).1 with
  | some v => pure (resultValue v)
  | none => throw "the batch did not finish"

/-- The answer of a `session_output` request. -/
def sessionOutputAnswer (req : Value) : Decode Value := do
  let files ← requestFiles req
  let output ← textFieldD req "output"
  let data ← bytesFieldD req "write"
  let task : Prog Memory (Except Fault (Nat × Option Fault × Option Fault)) := do
    match ← openSessionOutput { output } with
    | .error f => pure (.error f)
    | .ok w =>
      let (n, writeFault) ← w.write ⟨data.toArray⟩
      let closeFault ← w.close
      pure (.ok (n.toNat, writeFault, closeFault))
  let (r, w) := runBench (benchWorld files) task
  let faultOrNone : Option Fault → Value
    | some f => faultValue benchMask f
    | none => .null
  match r with
  | some (.ok (n, writeFault, closeFault)) =>
    pure (resultValue (.obj [("close_err", faultOrNone closeFault),
      ("files", filesValue benchMask (workFiles w)), ("n", .nat n), ("write_err", faultOrNone writeFault)]))
  | some (.error f) => pure (faultValue benchMask f)
  | none => throw "the output did not finish"

/-- The report of a batch with the time column shown as a placeholder. -/
def maskedReport (outcomes : List Batch.Outcome) : String :=
  String.join (outcomes.map fun o => o.lineWith "<dur>")

/-- The answer of a `batch_service` request. -/
def batchServiceAnswer (req : Value) : Decode Value := do
  let files ← requestFiles req
  let config ← textFieldD req "config"
  let config := if config.isEmpty then "batch.yaml" else config
  let only ← textsFieldD req "only"
  let maxWorkers ← int64FieldD req "max_workers" 0
  let stopAfter ← match opt req "stop_after_ms" with
    | some v => some <$> integerIn "stop_after_ms" "an int64" 0 int64Max v
    | none => pure none
  let task : Prog Memory (Except Fault (List Batch.Outcome)) := do
    match ← readBatchFile benchDefaults config with
    | .error f => pure (.error f)
    | .ok spec =>
      match spec.select only with
      | .error f => pure (.error f)
      | .ok spec =>
        let spec := if maxWorkers > 0 then { spec with workers := maxWorkers } else spec
        let service ← Service.start benchHost spec none
        match stopAfter with
        | some ms => service.awaitThenStop (Sys.sleep (ms.toNat * 1000))
        | none =>
          let _ ← service.finished.awaitEnd
          service.stop
        pure (.ok ((← service.outcomes).map SessionOutcome.reported))
  let (r, w) := runBench (benchWorld files) task
  match r with
  | some (.ok outcomes) =>
    let failed := (outcomes.filter (!·.ok)).length
    pure (resultValue (.obj [("failed", .nat failed), ("files", filesValue benchMask (workFiles w)),
      ("report", .str (maskedReport outcomes))]))
  | some (.error f) => pure (faultValue benchMask f)
  | none => throw "the batch did not finish"

end PseudoTerm.Bench
