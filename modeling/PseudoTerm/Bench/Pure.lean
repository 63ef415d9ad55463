import PseudoTerm.Bench.Request
import PseudoTerm.Bench.Answer
import PseudoTerm.Setup.Status
import PseudoTerm.Text.ByteCount
import PseudoTerm.Environment
import PseudoTerm.Account
import PseudoTerm.Registry
import PseudoTerm.Relay
import PseudoTerm.WorkerPool
import PseudoTerm.Terminal.Window
import PseudoTerm.Logger

/-!
# Bench requests without a machine

Requests answered by plain functions of the library: window dimensions, byte counts,
environment lists, account lookups, fault values, setup steps, status records, the
registry, the worker pool, the relay and loggers.
-/

namespace PseudoTerm.Bench

/-- Where the user's home directory is shown in answers. -/
def homeMask : Mask := { places := [(Account.administrator.home, "<HOME>")] }

/-- The answer of a fault-value request. -/
def faultReport (outer : Fault) (inner : Fault) : Value :=
  .obj [("message", .str outer.message), ("unwrap", .str inner.message),
    ("errno", match outer.errno? with
      | some e => .nat (e.code % Nat.pow 2 64)
      | none => .null),
    ("is_pair_consumed", .bool outer.isPairConsumed), ("is_closed", .bool outer.isClosed)]

/-- One registry step and its answer. -/
def registryStep (r : Registry String) (step : Value) : Registry String × Value :=
  let attempt : Decode (Registry String × Value) := do
    match ← textField step "do" with
    | "add" =>
      let (id, r') := r.add (← textField step "value")
      pure (r', okValue (.nat id))
    | "get" =>
      let id ← int64Field step "id"
      pure (r, stepValue {} ((r.get id).map Value.str))
    | "delete" =>
      let id ← int64Field step "id"
      match r.delete id with
      | .ok r' => pure (r', okValue .null)
      | .error f => pure (r, faultValue {} f)
    | "len" => pure (r, okValue (.nat r.size))
    | "all" => pure (r, okValue (.arr (r.toList.map fun (i, v) => .arr [.nat i, .str v])))
    | other => throw s!"unknown step \"{other}\""
  match attempt with
  | .ok result => result
  | .error message => (r, refusal message)

/-- Run registry steps in order. -/
def registrySteps (steps : List Value) : List Value :=
  (steps.foldl (fun (r, answers) step =>
    let (r', a) := registryStep r step
    (r', answers ++ [a])) (Registry.empty, [])).2

/-- The sink named by a relay request. -/
def sinkOf (req : Value) : Decode Relay.SinkKind := do
  let limit := (← uint32FieldD req "writer_limit")
  match ← textFieldD req "writer" with
  | "" | "ok" => pure .accepting
  | "short" => pure (.short limit)
  | "fail_after" => pure (.fullAfter limit)
  | "negative" => pure .negative
  | "negative_err" => pure .negativeFailing
  | "overcount" => pure .overcounting
  | other => throw s!"unknown writer \"{other}\""

/-- A relay request: reads from the described source into the described sink. -/
def relayAnswer (req : Value) : Decode Value := do
  let src ← bytesField req "src"
  let chunk := (← uint32FieldD req "chunk")
  let limit ← match opt req "limit" with
    | some v => some <$> integerIn "limit" "an int64" int64Min int64Max v
    | none => pure none
  let final : Fault := match opt req "read_error" with
    | some (.str t) => .text t
    | _ => .endOfStream
  let withLast ← boolFieldD req "error_with_data"
  let kind ← sinkOf req
  let metrics := !(← boolFieldD req "no_metrics")
  let reads := Relay.sourceReads src chunk (Relay.bufferSize limit) limit final withLast
  let (outcome, recorded) := Relay.run kind.sink metrics {} reads
  pure (.obj [("written", .nat outcome.written),
    ("err", match outcome.fault with
      | some f => faultValue {} f
      | none => .null),
    ("chunks", .arr (outcome.chunks.map Value.nat)),
    ("dst", Value.ofBytes recorded.held), ("writer_calls", .nat recorded.calls)])

/-- The answer of a request that needs no machine, when its operation is one of them. -/
def pureAnswer (op : String) (req : Value) : Option (Decode Value) :=
  match op with
  | "clamp_dimension" => some do
    pure (.nat (Terminal.clampDimension (← uint32Field req "value")))
  | "byte_count_si" => some do
    pure (.str (Text.byteCountSI (Int64.ofInt (← int64Field req "value"))))
  | "merge_env" => some do
    pure (Value.strs (Environment.merge (← textsFieldD req "base") (← textsFieldD req "extra")))
  | "lookup_env" => some do
    let found := Environment.lookup (← textsFieldD req "env") (← textField req "key")
    pure (.obj [("value", .str (found.getD "")), ("found", .bool found.isSome)])
  | "expand_user_home" => some do
    let path ← textField req "path"
    pure (.str (homeMask.apply (Account.expandHome Account.administrator.home path)))
  | "user_default_shell" => some do
    pure (.str (Account.userDefaultShell Account.administrator.passwd (← textField req "username")))
  | "allocate_error" => some do
    let cause ← faultField req "err"
    pure (faultReport (.allocate ⟨← int64Field req "step"⟩ cause) cause)
  | "spawn_error" => some do
    let cause ← faultField req "err"
    let step ← intField req "step" "a uint8" 0 255
    pure (faultReport (.spawn ⟨step.toNat.toUInt8⟩ cause) cause)
  | "resize_error" => some do
    let cause ← faultField req "err"
    pure (faultReport (.resize cause) cause)
  | "allocate_step" => some do
    pure (.str (AllocStep.name ⟨← int64Field req "step"⟩))
  | "spawn_step" => some do
    let s : SpawnStep := ⟨(← intField req "step" "a uint8" 0 255).toNat.toUInt8⟩
    pure (.obj [("string", .str s.name), ("valid", .bool s.valid)])
  | "classify" => some do
    let s := (← faultField req "err").startStep
    pure (.obj [("step", .str s.name), ("value", .nat s.byte.toNat)])
  | "encode_status" => some do
    let step ← intField req "step" "a uint8" 0 255
    let r := StatusRecord.ofFailure ⟨step.toNat.toUInt8⟩ (← faultField req "err")
    pure (.str r.hex)
  | "decode_status" => some do
    let hex ← textField req "hex"
    let bytes ← match Text.bytesOfHex? hex.toList with
      | some b => pure b
      | none => throw "hex must be 5 bytes"
    match StatusRecord.ofBytes? bytes with
    | some r =>
      let f := r.toFault
      pure (.obj [("step", .str r.step.normalize.name), ("value", .nat r.step.normalize.byte.toNat),
        ("errno", .nat r.code.toNat), ("message", .str f.message)])
    | none => throw "hex must be 5 bytes"
  | "registry" => some do
    let steps ← match ← need req "steps" with
      | .arr items => pure items
      | _ => throw "field \"steps\" must be a list"
    pure (.arr (registrySteps steps))
  | "pool" => some do
    let workers := WorkerPool.workerCount (← int64Field req "workers")
    let jobs := (← intField req "jobs" "a count" 0 100000).toNat
    let events := WorkerPool.schedule workers jobs
    pure (.obj [("completed", .nat (WorkerPool.finished events).length),
      ("each_once", .bool (WorkerPool.eachOnce jobs events)),
      ("running_after_wait", .nat (WorkerPool.runningAfter events))])
  | "copy" => some (relayAnswer req)
  | "logger_new" => some do
    let given ← textFieldD req "prefix"
    let l := Logger.make given (← textFieldD req "color") true
    pure (.obj [("prefix_has", .bool (l.prefixText == given)), ("flags", .nat l.flags),
      ("discarded", .bool l.discarded)])
  | _ => none

end PseudoTerm.Bench
