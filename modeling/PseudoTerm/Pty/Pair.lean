import PseudoTerm.Control.Handle
import PseudoTerm.Pty.Helper
import PseudoTerm.Control.Command

/-!
# Terminal pairs and starting programs on them

Allocating a pair makes a terminal, checks and unlocks its parent side, finds the path
of its child device and opens that; the first failing step is reported with its name,
after closing what was opened.  The child device is found by a lookup the caller can
replace.

A pair is shared by the threads of the program: its record in the shared memory holds
both descriptors, and hands them over once, to the first close or start that asks,
whichever thread it runs on; a resize keeps them from being handed over while it uses
them.  Resizing a consumed pair, or starting a second program, fails with the
consumed-pair fault; closing a consumed pair does nothing.

Starting a program duplicates the child device three times as the program's standard
streams, takes the parent side over as a handle (registering it for waiting, which may
fail) and starts the program as leader of a
new session with the child device as controlling terminal.  The setup is done either
while the child is made, where a failure is known only by its error number (`EPERM`
is charged to making the session, `ENOTTY` to taking the terminal, anything else to
starting the image), or by the setup helper, which reports the exact step on a status
pipe: the end of the pipe with nothing on it means the program started, a record means
the step it names failed, and anything shorter is an error of its own.
-/

namespace PseudoTerm.Pty

open PseudoTerm.Machine PseudoTerm.Control

/-- A terminal pair: its record in the shared memory, and the path of its child device. -/
structure Pair where
  key : Nat
  childPath : String
  deriving DecidableEq, Repr, Inhabited

/-- How the path of a child device is found from its parent side. -/
abbrev ChildLookup := Nat → Prog Memory (Except Fault String)

/-- Close a descriptor, forgetting any failure. -/
def closeQuietly (fd : Nat) : Prog Memory Unit := do
  let _ ← Sys.close (μ := Memory) fd

/-- Allocate a terminal pair, finding the child device with `lookup`. -/
def allocate (lookup : ChildLookup := childPathOf) : Prog Memory (Except Fault Pair) := do
  match ← openParent (μ := Memory) with
  | .error f => pure (.error (.allocate .openParent f))
  | .ok parent =>
    let failAt (step : AllocStep) (f : Fault) : Prog Memory (Except Fault Pair) := do
      closeQuietly parent
      pure (.error (.allocate step f))
    match ← grant (μ := Memory) parent with
    | .error f => failAt .grant f
    | .ok () =>
      match ← unlock (μ := Memory) parent with
      | .error f => failAt .unlock f
      | .ok () =>
        match ← lookup parent with
        | .error f => failAt .childName f
        | .ok path =>
          match ← openChild (μ := Memory) path with
          | .error f => failAt .openChild f
          | .ok child =>
            let key ← create fun k m => { m with pairs := m.pairs.insert k { parent, child } }
            pure (.ok { key, childPath := path })

namespace Pair

/-- Hand both descriptors over, to the first caller that asks and to no other; waits
while a resize uses them. -/
def take (p : Pair) : Prog Memory (Option (Nat × Nat)) := do
  let m ← Sys.await (μ := Memory) (Memory.pairFree p.key) (Memory.claimPair p.key)
  pure <| (m.pairs.get? p.key).bind fun s =>
    if s.takes == 1 then some (s.parent, s.child) else none

/-- Both descriptors, while nobody has taken them. -/
def peek (p : Pair) : Prog Memory (Option (Nat × Nat)) :=
  inspect fun m => (m.pairs.get? p.key).bind fun s =>
    if s.takes == 0 then some (s.parent, s.child) else none

/-- Set the window size before a program starts, each dimension saturated. -/
def resize (p : Pair) (cols rows : Nat) : Prog Memory (Except Fault Unit) := do
  -- while the resize uses the parent side it cannot be handed over
  let m ← Sys.update (μ := Memory) (Memory.beginResize p.key)
  match (m.pairs.get? p.key).filter (·.takes == 0) with
  | none => pure (.error (.resize .pairConsumed))
  | some s =>
    let r ← resizeDescriptor (μ := Memory) s.parent cols rows
    let _ ← Sys.update (μ := Memory) (Memory.endResize p.key)
    match r with
    | .ok () => pure (.ok ())
    | .error f => pure (.error (.resize f))

/-- Release both descriptors of a pair no program started on. -/
def close (p : Pair) : Prog Memory (Except Fault Unit) := do
  match ← p.take with
  | none => pure (.ok ())
  | some (parent, child) =>
    let r1 ← Sys.close (μ := Memory) parent
    let r2 ← Sys.close (μ := Memory) child
    match r1, r2 with
    | .error e, _ => pure (.error (.errno e))
    | _, .error e => pure (.error (.errno e))
    | _, _ => pure (.ok ())

end Pair

/-- Three duplicates of a descriptor, closed on exec; on a failure those made are
closed again. -/
def duplicateStandard (fd : Nat) : Prog Memory (Except Fault (List Nat)) :=
  go 3 []
where
  /-- Make `n` more duplicates after `made`. -/
  go : Nat → List Nat → Prog Memory (Except Fault (List Nat))
    | 0, made => pure (.ok made)
    | n + 1, made => do
      match ← Sys.duplicate (μ := Memory) fd 0 true with
      | .ok d => go n (made ++ [d])
      | .error e =>
        for d in made do closeQuietly d
        pure (.error (.syscall "fcntl" (.errno e)))

/-- The command with the session set up while the child is made: a new session with its
standard input as controlling terminal, and no group or terminal of the caller's. -/
def sessionCommand (cmd : Command) : Command :=
  let base := cmd.setup.getD {}
  { cmd with
    setup := some { base with newSession := true, takeTerminal := true, terminalFd := 0,
                              newGroup := false, dropTerminal := false } }

/-- Start a command with the setup done while the child is made. -/
def startInPlace (cmd : Command) (inherited : List String) : Prog Memory (Except Fault Child) := do
  match ← (sessionCommand cmd).start inherited with
  | .ok child => pure (.ok child)
  | .error f => pure (.error (.spawn f.startStep f))

/-- Read exactly `n` bytes, or up to the end; answers what was read and whether it is
short. -/
def readExactly (fd n : Nat) : Prog Memory (ByteArray × Option Fault) :=
  go (n + 1) .empty
where
  /-- Read after `acc`. -/
  go : Nat → ByteArray → Prog Memory (ByteArray × Option Fault)
    | 0, acc => pure (acc, none)
    | fuel + 1, acc => do
      if acc.size ≥ n then return (acc, none)
      match ← Sys.read (μ := Memory) fd (n - acc.size) with
      | .ok chunk =>
        if chunk.size == 0 then
          pure (acc, some (if acc.size == 0 then .endOfStream else .unexpectedEnd))
        else go fuel (acc ++ chunk)
      | .error e => pure (acc, some (.errno e))

/-- The command that runs `cmd` through the setup helper at `helper`: the helper gets the
target's path and arguments after its own name, the environment `env` with the number of
the status descriptor, the writing end `w` of the status pipe after the further
descriptors, and the setup asked for without the session, which it makes itself. -/
def helperCommand (cmd : Command) (helper : String) (env : List String) (w : Nat) : Command :=
  { cmd with
    path := helper
    args := helper :: cmd.path :: cmd.argv
    env := some (env ++ [statusVariable ++ "=" ++ toString (3 + cmd.extra.length)])
    extra := cmd.extra ++ [w]
    setup := cmd.setup.map fun s =>
      { s with newSession := false, newGroup := false, takeTerminal := false } }

/-- Wait for the report of a started helper on the reading end `r` of the status pipe, and
close it: the end of the pipe with nothing on it means the program started, a record names
the failing step (after collecting the helper), and anything shorter is reported as such
(after killing and collecting the helper). -/
def awaitStatus (child : Child) (r : Nat) : Prog Memory (Except Fault Child) := do
  let (record, problem) ← readExactly r StatusRecord.length
  closeQuietly r
  match problem with
  | some .endOfStream => pure (.ok child)
  | some f =>
    let _ ← child.kill
    let _ ← child.wait
    pure (.error (.spawn .startProgram (.wrap "exec helper status" f)))
  | none =>
    let _ ← child.wait
    match StatusRecord.ofBytes? record.toList with
    | some rec => pure (.error rec.toFault)
    | none => pure (.error (.spawn .startProgram (.wrap "exec helper status" .unexpectedEnd)))

/-- Start a command through the setup helper at `helper`. -/
def startWithHelper (cmd : Command) (helper : String) (inherited : List String) :
    Prog Memory (Except Fault Child) := do
  if let some f := cmd.lookupFault then return .error (.spawn .startProgram f)
  match ← Sys.makePipe (μ := Memory) true with
  | .error e => pure (.error (.spawn .startProgram (.syscall "pipe2" (.errno e))))
  | .ok (r, w) =>
    let cwd ← Sys.workingDirectory (μ := Memory)
    let (env, _) := cmd.environment inherited cwd
    let started ← (helperCommand cmd helper env w).start inherited
    closeQuietly w
    match started with
    | .error f =>
      closeQuietly r
      pure (.error (.spawn .startProgram f))
    | .ok child => awaitStatus child r

/-- Start a command through the setup helper at `helper`, or in place when no helper is
named; an empty path names none. -/
def startCommand (cmd : Command) (helper : Option String) (inherited : List String) :
    Prog Memory (Except Fault Child) :=
  match helper with
  | some path => if path.isEmpty then startInPlace cmd inherited else startWithHelper cmd path inherited
  | none => startInPlace cmd inherited

namespace Pair

/-- Start a command on the pair, through the setup helper at `helper` when one is
named; answers the handle of the parent side and the child. -/
def spawn (p : Pair) (cmd : Command) (helper : Option String) (inherited : List String) :
    Prog Memory (Except Fault (Handle × Child)) := do
  match ← p.take with
  | none => pure (.error .pairConsumed)
  | some (parent, child) =>
    match ← duplicateStandard child with
    | .error f =>
      closeQuietly parent
      closeQuietly child
      pure (.error (.spawn .duplicateStdio f))
    | .ok stdio =>
      let result ← match ← Handle.adopt parent p.childPath with
        | .error f => pure (.error (.spawn .register f))
        | .ok term => do
          match ← startCommand { cmd with stdio } helper inherited with
          | .error f =>
            let _ ← term.close
            pure (.error f)
          | .ok c => pure (.ok (term, c))
      for d in stdio do closeQuietly d
      closeQuietly child
      pure result

end Pair

end PseudoTerm.Pty
