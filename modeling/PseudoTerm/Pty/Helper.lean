import PseudoTerm.Setup.Status
import PseudoTerm.Environment
import PseudoTerm.Machine.World
import PseudoTerm.Machine.Interface

/-!
# The session setup helper

A program that starts others on terminals can run the setup of the child in a helper
process instead of between fork and exec: the helper is started with the target's
path and arguments after its own name, the terminal's child device as its standard
streams, and the number of a status descriptor in the environment variable
`PTYRUN_EXEC_HELPER_FD`.

The helper makes itself a session leader, takes its standard input as controlling
terminal and runs the target with the rest of the arguments (or the target's path
alone), without the variable in its environment.  A failing step is written to the
status descriptor as a five-byte record and the helper ends with status 127; a
successful start closes the descriptor, which is marked to close on exec.  A value of
the variable that is not a decimal number, or a missing target, ends the helper with
status 127 at once.  Without the variable the program goes on as itself.
-/

namespace PseudoTerm.Pty

open PseudoTerm.Machine

variable {μ : Type}

/-- The environment variable naming the status descriptor. -/
def statusVariable : String := "PTYRUN_EXEC_HELPER_FD"

/-- The status a helper ends with after a failure. -/
def helperFailureCode : Nat := 127

/-- A decimal number with an optional sign, within 64 bits. -/
def readSignedDecimal? (s : String) : Option Int :=
  let (negative, digits) := match s.toList with
    | '-' :: r => (true, r)
    | '+' :: r => (false, r)
    | r => (false, r)
  if digits.isEmpty || !digits.all Char.isDigit then none
  else
    let n : Nat := digits.foldl (fun n c => n * 10 + (c.toNat - 48)) 0
    let v : Int := if negative then -(n : Int) else n
    if v < -(Int.pow 2 63 : Int) || v ≥ Int.pow 2 63 then none else some v

/-- Report a failed step on the status descriptor and end. -/
def reportFailure {α : Type} (fd : Int) (step : SpawnStep) (e : Errno) : Prog μ α := do
  if fd ≥ 0 then
    let record := StatusRecord.ofFailure step (.errno e)
    let _ ← Sys.write (μ := μ) fd.toNat ⟨record.bytes.toArray⟩
  Sys.exit helperFailureCode

/-- Run as the setup helper when started as one, and otherwise go on with `program`. -/
def withSetupHelper (inv : Invocation) (program : Prog μ Unit) : Prog μ Unit := do
  let env := Environment.firstOfEachKey inv.env
  match Environment.lookup env statusVariable with
  | none => program
  | some v =>
    match readSignedDecimal? v, inv.args with
    | some fd, _ :: target :: rest =>
      if fd ≥ 0 then
        let _ ← Sys.setCloseOnExec (μ := μ) fd.toNat true
      -- only an entry with a value is the variable; a bare name stays
      let env := env.filter fun e => !(e.contains '=' && Environment.key e == statusVariable)
      match ← Sys.newSession (μ := μ) with
      | .error e => reportFailure fd .createSession e
      | .ok _ =>
        match ← Sys.takeTerminal (μ := μ) 0 false with
        | .error e => reportFailure fd .setControllingTerminal e
        | .ok () =>
          let argv := if rest.isEmpty then [target] else rest
          let e ← Sys.exec (μ := μ) target argv env
          reportFailure fd .startProgram e
    | _, _ => Sys.exit helperFailureCode

end PseudoTerm.Pty
