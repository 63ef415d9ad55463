import PseudoTerm.Bench.Pure
import PseudoTerm.Bench.Settings
import PseudoTerm.Bench.Pty
import PseudoTerm.Bench.Session
import PseudoTerm.Bench.Batch
import PseudoTerm.Bench.Limits
import PseudoTerm.Bench.Cli

/-!
# Answering bench requests

A request names its operation in the field `op`.  The answer is `{"result": v}` for a
request that ran, the fault object for a request whose operation failed, and a refusal
for a malformed request or an unknown operation.
-/

namespace PseudoTerm.Bench

/-- The complete answer of a request that runs on a machine, when its operation is one
of them. -/
def machineAnswer (op : String) (req : Value) : Option (Decode Value) :=
  match op with
  | "ptysys" => some (ptysysAnswer req)
  | "pty" => some (ptyAnswer req)
  | "session" => some (sessionAnswer req)
  | "manager" => some (managerAnswer req)
  | "batch" => some (batchAnswer req)
  | "session_output" => some (sessionOutputAnswer req)
  | "batch_service" => some (batchServiceAnswer req)
  | "fd_limit" => some (fdLimitAnswer req)
  | "helper_main" => some (helperMainAnswer req)
  | "cli" => some (cliAnswer req)
  | _ => none

/-- The answer to one request. -/
def answer (req : Value) : Value :=
  match req.field? "op" with
  | some (.str op) =>
    match pureAnswer op req with
    | some (.ok v) => .obj [("result", v)]
    | some (.error message) => refusal message
    | none =>
      match settingsAnswer op req with
      | some (.ok v) => v
      | some (.error message) => refusal message
      | none =>
        match machineAnswer op req with
        | some (.ok v) => v
        | some (.error message) => refusal message
        | none => refusal s!"unknown op \"{op}\""
  | _ => refusal "missing field \"op\""

end PseudoTerm.Bench
