import PseudoTerm.Bench.Session

/-!
# Bench requests about descriptor limits and the setup helper

`fd_limit` lowers the bench's descriptor limit so that exactly `free` more descriptors
can be opened (the bench holds descriptors 0 to 2) and makes one call: opening a
terminal maker, allocating a pair, starting `/bin/true` on a pair (directly or through
the setup helper) or starting a session of it.  Allocating takes two descriptors,
starting three more for the duplicated standard streams and, through the helper, two
for the status pipe.

`helper_main` starts the bench's own program as the setup helper, with a pipe as
descriptor 3 and as standard output, and answers its exit code, what it wrote to the
status pipe and to standard output.
-/

namespace PseudoTerm.Bench

open PseudoTerm.Machine PseudoTerm.Control PseudoTerm.Pty PseudoTerm.Config

/-- Start `/bin/true` on a new pair, through `helper` when given; the child is
collected and the terminal closed afterwards. -/
def spawnTrue (helper : Option String) : Prog Memory (Except Fault Unit) := do
  match ← allocate with
  | .error f => pure (.error f)
  | .ok pair =>
    let cmd ← Command.make driverEnvironment "/bin/true" []
    match ← pair.spawn cmd helper driverEnvironment with
    | .error f => pure (.error f)
    | .ok (term, child) =>
      let _ ← child.wait
      let _ ← term.close
      pure (.ok ())

/-- The call of an `fd_limit` request and its answer on success. -/
def limitedCall (call : String) : Decode (Prog Memory (Except Fault Unit) × String) :=
  match call with
  | "open_master" => pure (do
      match ← openParent (μ := Memory) with
      | .ok fd =>
        closeQuietly fd
        pure (.ok ())
      | .error f => pure (.error f), "opened")
  | "allocate" => pure (do
      match ← allocate with
      | .ok pair =>
        let _ ← pair.close
        pure (.ok ())
      | .error f => pure (.error f), "allocated")
  | "spawn" => pure (spawnTrue none, "spawned")
  | "spawn_helper" => pure (spawnTrue (some driverPath), "spawned")
  | "session" => pure (do
      let spec := SessionSpec.withDefaults benchDefaults { command := "/bin/true" }
      match ← startSession benchHost spec with
      | .ok s =>
        let _ ← s.close
        pure (.ok ())
      | .error f => pure (.error f), "started")
  | other => throw s!"unknown call \"{other}\""

/-- The answer of an `fd_limit` request. -/
def fdLimitAnswer (req : Value) : Decode Value := do
  let free ← intField req "free" "0..12" 0 12
  let (run, done) ← limitedCall (← textField req "call")
  match (runBench (benchWorld [] (some (3 + free.toNat))) run).1 with
  | some (.ok ()) => pure (resultValue (.str done))
  | some (.error f) => pure (faultValue benchMask f)
  | none => throw "the call did not finish"

/-- Read a descriptor to its end. -/
def readToEnd (fd : Nat) (acc : ByteArray) : Nat → Prog Memory ByteArray
  | 0 => pure acc
  | fuel + 1 => do
    match ← Sys.read (μ := Memory) fd 32768 with
    | .ok chunk => if chunk.size == 0 then pure acc else readToEnd fd (acc ++ chunk) fuel
    | .error _ => pure acc

/-- Start the bench's program as the setup helper and collect what it reports. -/
def helperRun (fd : Option String) (args : List String) (newSession ttyInput : Bool) :
    Prog Memory (Except Fault (Int × ByteArray × ByteArray)) := do
  let input ← if ttyInput then
      match ← allocate with
      | .ok pair => pure ((← pair.peek).map (·.2))
      | .error _ => pure none
    else pure (some 0)
  match input, ← Sys.makePipe (μ := Memory) true, ← Sys.makePipe (μ := Memory) true with
  | some stdin, .ok (outRead, outWrite), .ok (statusRead, statusWrite) =>
    let env := driverEnvironment.take 1 ++ (fd.map fun v => [statusVariable ++ "=" ++ v]).getD []
    let cmd : Command :=
      { path := driverPath, args := driverPath :: args, env := some env,
        setup := some { newSession }, stdio := [stdin, outWrite, 2], extra := [statusWrite] }
    let started ← cmd.start driverEnvironment
    closeQuietly outWrite
    closeQuietly statusWrite
    match started with
    | .error f => pure (.error f)
    | .ok child =>
      let out ← readToEnd outRead .empty relayRounds
      let status ← readToEnd statusRead .empty relayRounds
      match ← child.wait with
      | .ok st => pure (.ok (exitCodeOf st, status, out))
      | .error f => pure (.error f)
  | _, _, _ => pure (.error (.text "no descriptors for the helper"))

/-- The answer of a `helper_main` request. -/
def helperMainAnswer (req : Value) : Decode Value := do
  let fd ← match opt req "fd" with
    | some v => some <$> textOf "fd" v
    | none => pure none
  let args ← textsFieldD req "args"
  let newSession ← boolFieldD req "setsid"
  let ttyInput ← boolFieldD req "tty_stdin"
  match (runBench (benchWorld []) (helperRun fd args newSession ttyInput)).1 with
  | some (.ok (code, status, out)) =>
    pure (resultValue (.obj [("exit_code", .int code),
      ("status", .str (Text.hexOfBytes status.toList)), ("stdout", bytesValue benchMask out)]))
  | some (.error f) => pure (faultValue benchMask f)
  | none => throw "the helper did not finish"

end PseudoTerm.Bench
