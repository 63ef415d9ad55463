import PseudoTerm.Pty.Pair
import PseudoTerm.Control.Writer
import PseudoTerm.Config.Session

/-!
# Sessions

A session is a program running on a terminal of its own.  Starting one allocates a
pair, sizes it as the specification asks, and starts the command on it (through the
setup helper when asked) with the session's environment: the inherited one unless the
session starts clean, overlaid with its own entries, and `TERM` added when none is set.

A thread collects the program when it ends, keeps its exit code (128 and the signal
for a program killed by a signal, -1 when waiting failed) and a failure of waiting,
then lets output drain: reading may go on for half a second more, since programs that
left the session may hold the terminal open for ever.  Only then is the session done.

Signalling or killing a session that is done fails with `session is not running`;
killing sends `KILL` to the session's whole process group, and to the program alone if
that fails.  Copying output relays the terminal into a writer until the terminal hangs
up, and a deadline that passes while output drains ends the copy without a fault.
Closing kills a running session, waits until it is done and closes the terminal.
-/

namespace PseudoTerm.Control

open PseudoTerm.Machine PseudoTerm.Pty PseudoTerm.Config

/-- How long output drains after the program ended, in microseconds. -/
def drainTime : Nat := 500000

namespace Session

/-- Let output drain: reads may go on until the drain time has passed. -/
def drain (s : Session) : Prog Memory Unit := do
  change (fun m => m.modifySession s.key fun st => { st with draining := true }) fun _ => ()
  let now ← Sys.now (μ := Memory)
  let _ ← s.term.setDeadline true (some (now + drainTime))

/-- Collect the program when it ends, then drain and mark the session done. -/
def reap (s : Session) : Prog Memory Unit := do
  let r ← s.child.wait
  let (code, fault) := match r with
    | .ok st => (exitCodeOf st, none)
    | .error f => (-1, some f)
  change (fun m => m.modifySession s.key fun st => { st with exitCode := code, fault }) fun _ => ()
  s.drain
  change (fun m => m.modifySession s.key fun st => { st with done := true }) fun _ => ()

/-- Whether the program has not been collected yet. -/
def running (s : Session) : Prog Memory Bool := inspect fun m => !(m.session s.key).done

/-- Wait until the session is done. -/
def awaitDone (s : Session) : Prog Memory Unit := do
  let _ ← Sys.await fun m => (m.session s.key).done

/-- Wait until the session is done; answers the exit code and a failure of waiting. -/
def wait (s : Session) : Prog Memory (Int × Option Fault) := do
  let m ← Sys.await fun m => (m.session s.key).done
  let st := m.session s.key
  pure (st.exitCode, st.fault)

/-- Change the window size. -/
def resize (s : Session) (cols rows : Nat) : Prog Memory (Except Fault Unit) := s.term.resize cols rows

/-- Send a signal to the program. -/
def signal (s : Session) (sig : Nat) : Prog Memory (Except Fault Unit) := do
  if !(← s.running) then return .error .notRunning
  s.child.signal sig

/-- Kill the session's process group, or the program alone when that fails. -/
def kill (s : Session) : Prog Memory (Except Fault Unit) := do
  if !(← s.running) then return .error .notRunning
  match ← Sys.signal (μ := Memory) (-(s.child.pid : Int)) 9 with
  | .ok () => pure (.ok ())
  | .error _ => s.child.kill

/-- Copy the terminal's output into a writer, sending chunk sizes on `metrics`;
answers the bytes copied and the fault that ended the copy. -/
def copyOutput (s : Session) (w : Writer) (metrics : Option Nat) : Prog Memory (Nat × Option Fault) := do
  let (n, fault) ← relay s.term.read w metrics relayRounds
  let draining ← inspect fun m => (m.session s.key).draining
  match fault with
  | some f => if f.isTimeout && draining then pure (n, none) else pure (n, some f)
  | none => pure (n, none)

/-- Kill a running session, wait until it is done and close the terminal. -/
def close (s : Session) : Prog Memory (Except Fault Unit) := do
  if ← s.running then
    let _ ← s.kill
  s.awaitDone
  s.term.close

end Session

/-- The environment of a session started by a program whose environment is
`inherited`. -/
def sessionEnvironment (spec : SessionSpec) (inherited : List String) : List String :=
  spec.environment inherited

/-- Start a session as `spec` says, for a program that knows itself as `host`. -/
def startSession (host : Host) (spec : SessionSpec) : Prog Memory (Except Fault Session) := do
  match ← allocate with
  | .error f => pure (.error f)
  | .ok pair =>
    match ← pair.resize spec.cols spec.rows with
    | .error f =>
      let _ ← pair.close
      pure (.error f)
    | .ok () =>
      let cmd ← Command.make host.env spec.command spec.args
      let cmd := { cmd with dir := spec.dir, env := some (sessionEnvironment spec host.env) }
      let helper := if spec.execHelper then some host.executable else none
      match ← pair.spawn cmd helper host.env with
      | .error f => pure (.error f)
      | .ok (term, child) =>
        let key ← create fun k m => { m with sessions := m.sessions.insert k {} }
        let started ← Sys.now (μ := Memory)
        let s : Session := { name := spec.name, key, term, child, started }
        Sys.spawnThread s.reap
        pure (.ok s)

end PseudoTerm.Control
