import PseudoTerm.Bench.Limits
import PseudoTerm.Cli.Program

/-!
# Bench requests running the `ptyrun` program

`cli` runs the program with the request's arguments in the working directory holding
the request's files, with the driver's `PATH` and `SHELL` and the working directory
as `HOME`.  Standard input is the request's `stdin` (or nothing), standard output and
error are collected; standard output may instead be `/dev/full`.

With `tty`, a fresh pseudo terminal of the requested size becomes the program's
controlling terminal (the program starts a session and takes it) and its standard
input and/or error.  The bench then carries out the script on the terminal's parent
side (sleeping, writing, resizing) while everything the terminal prints is read and
dropped; standard error on the terminal is not answered.

The answer shows the working directory as `<CWD>`, and with `mask: "report"` the time
column of batch reports as `<dur>`.
-/

namespace PseudoTerm.Bench

open PseudoTerm.Machine PseudoTerm.Control PseudoTerm.Pty

/-- Where the program's image lies on a bench machine. -/
def programPath : String := "/opt/bench/ptyrun"

/-- The image name of the program. -/
def programImage : String := "ptyrun"

/-- The images of a machine running the program. -/
def programImages (name : String) : Option (Invocation → Prog Memory Unit) :=
  if name == programImage then some Cli.ptyrunProgram else benchImages name

/-- The catalog of a machine running the program. -/
def programCatalog : Catalog Memory := { initial := {}, image := programImages }

/-- The mask of program answers: the working directory. -/
def workMask : Mask := { places := [(workDirectory, "<CWD>")] }

/-- A report line with its time column shown as `<dur>`. -/
def maskReportLine (line : String) : String :=
  match line.splitOn " bytes " with
  | head :: rest@(_ :: _) =>
    let tail := " bytes ".intercalate rest
    let afterSpaces := tail.toList.dropWhile (· == ' ')
    let afterTime := afterSpaces.dropWhile (· != ' ')
    head ++ " bytes <dur>" ++ String.ofList afterTime
  | _ => line

/-- A text with the time column of its report lines shown as `<dur>`. -/
def maskReport (s : String) : String := "\n".intercalate ((s.splitOn "\n").map maskReportLine)

/-- The terminal of a `cli` request. -/
structure TerminalPlan where
  input : Bool := false
  errors : Bool := false
  cols : Nat := 80
  rows : Nat := 24
  script : List Value := []
  deriving Inhabited

/-- The terminal a request asks for. -/
def terminalPlan (v : Value) : Decode TerminalPlan := do
  pure { input := ← boolFieldD v "stdin", errors := ← boolFieldD v "stderr",
         cols := (← intFieldD v "cols" "a uint32" 0 (Int.pow 2 32 - 1) 80).toNat,
         rows := (← intFieldD v "rows" "a uint32" 0 (Int.pow 2 32 - 1) 24).toNat,
         script := ← match opt v "script" with
           | some (.arr xs) => pure xs
           | some _ => throw "field \"script\" must be a list"
           | none => pure [] }

/-- One action of a terminal script, to be carried out on the parent side. -/
def scriptAction (action : Value) : Decode (Nat → Prog Memory Unit) := do
  match opt action "sleep" with
  | some v =>
    let ms ← integerIn "sleep" "at most 500" 0 500 v
    pure fun _ => Sys.sleep (μ := Memory) (ms.toNat * 1000)
  | none =>
    match opt action "write" with
    | some v =>
      let data ← bytesOf "write" v
      pure fun fd => do
        let _ ← Sys.writeAll (μ := Memory) fd ⟨data.toArray⟩
    | none =>
      if ← boolFieldD action "resize" then
        let cols ← intFieldD action "cols" "a uint32" 0 (Int.pow 2 32 - 1) 0
        let rows ← intFieldD action "rows" "a uint32" 0 (Int.pow 2 32 - 1) 0
        pure fun fd => do
          let _ ← resizeDescriptor (μ := Memory) fd cols.toNat rows.toNat
      else throw "unknown terminal action"

/-- Read a descriptor into buffer `buf` until it ends, then count `group` down. -/
def collectInto (fd buf group : Nat) : Prog Memory Unit := do
  let rec go : Nat → Prog Memory Unit
    | 0 => pure ()
    | fuel + 1 => do
      match ← Sys.read (μ := Memory) fd 32768 with
      | .ok chunk =>
        if chunk.size == 0 then pure ()
        else
          change (fun m => { m with buffers := m.buffers.modify buf (· ++ chunk) }) fun _ => ()
          go fuel
      | .error _ => pure ()
  go relayRounds
  closeQuietly fd
  addTo group (-1)

/-- Read and drop what a terminal's parent side prints until it hangs up. -/
def dropOutput (fd : Nat) : Nat → Prog Memory Unit
  | 0 => pure ()
  | fuel + 1 => do
    match ← Sys.read (μ := Memory) fd 4096 with
    | .ok chunk => if chunk.size == 0 then pure () else dropOutput fd fuel
    | .error e =>
      if e == Errno.eagain then
        match ← Sys.awaitReady (μ := Memory) fd true with
        | .closed => pure ()
        | _ => dropOutput fd fuel
      else pure ()

/-- What a program run answers: its exit code, standard output and standard error
(when collected). -/
structure ProgramRun where
  exitCode : Int
  output : ByteArray
  errors : Option ByteArray

/-- Run the program with `args`, the standard input `input`, standard output on
`/dev/full` when `full`, and the terminal `tty`. -/
def runProgram (args : List String) (input : Option ByteArray) (full : Bool) (tty : Option TerminalPlan)
    (script : List (Nat → Prog Memory Unit)) : Prog Memory (Except Fault ProgramRun) := do
  let group ← makeCounter 0
  let outBuf ← makeBuffer
  let errBuf ← makeBuffer
  -- the terminal, sized as asked
  let terminal ← match tty with
    | some plan =>
      match ← allocate with
      | .ok pair =>
        match ← pair.peek with
        | some (parent, child) =>
          let _ ← resizeDescriptor (μ := Memory) parent plan.cols plan.rows
          pure (some (parent, child, plan))
        | none => pure none
      | .error _ => pure none
    | none => pure none
  let ttyInput := terminal.bind fun (_, child, plan) => if plan.input then some child else none
  let ttyErrors := terminal.bind fun (_, child, plan) => if plan.errors then some child else none
  -- standard input
  let stdin ← match ttyInput with
    | some fd => pure (some fd)
    | none =>
      match input with
      | some data =>
        match ← Sys.makePipe (μ := Memory) true with
        | .ok (r, w) =>
          Sys.spawnThread do
            let _ ← Sys.writeAll (μ := Memory) w data
            closeQuietly w
          pure (some r)
        | .error _ => pure none
      | none =>
        match ← Sys.openPath (μ := Memory) "/dev/null" { read := true, closeOnExec := true } 0 with
        | .ok fd => pure (some fd)
        | .error _ => pure none
  -- standard output
  let stdout ← if full then
      match ← Sys.openPath (μ := Memory) "/dev/full" { write := true, closeOnExec := true } 0 with
      | .ok fd => pure (some (fd, none))
      | .error _ => pure none
    else
      match ← Sys.makePipe (μ := Memory) true with
      | .ok (r, w) => pure (some (w, some r))
      | .error _ => pure none
  -- standard error
  let stderr ← match ttyErrors with
    | some fd => pure (some (fd, none))
    | none =>
      match ← Sys.makePipe (μ := Memory) true with
      | .ok (r, w) => pure (some (w, some r))
      | .error _ => pure none
  match stdin, stdout, stderr with
  | some inFd, some (outFd, outRead), some (errFd, errRead) =>
    let env := driverEnvironment ++ ["HOME=" ++ workDirectory]
    let setup : Option Setup := terminal.map fun (_, _, plan) =>
      { newSession := true, takeTerminal := true, terminalFd := if plan.input then 0 else 2 }
    let cmd : Command :=
      { path := programPath, args := programPath :: args, env := some env, setup,
        stdio := [inFd, outFd, errFd] }
    let started ← cmd.start driverEnvironment
    if ttyInput.isNone then closeQuietly inFd
    if outRead.isSome then closeQuietly outFd
    if errRead.isSome then closeQuietly errFd
    if let some (_, child, _) := terminal then closeQuietly child
    for r in [outRead, errRead] do
      if let some fd := r then
        addTo group 1
        Sys.spawnThread (collectInto fd (if some fd == outRead then outBuf else errBuf) group)
    match started with
    | .error f => pure (.error f)
    | .ok child =>
      if let some (parent, _, _) := terminal then
        Sys.spawnThread (dropOutput parent relayRounds)
        for act in script do act parent
      let status ← child.wait
      awaitZero group
      let out ← inspect (·.buffer outBuf)
      let err ← inspect (·.buffer errBuf)
      let code := match status with
        | .ok (.exited c) => (c : Int)
        | _ => -1
      pure (.ok { exitCode := code, output := out, errors := if ttyErrors.isSome then none else some err })
  | _, _, _ => pure (.error (.text "no descriptors for the program"))

/-- The answer of a `cli` request. -/
def cliAnswer (req : Value) : Decode Value := do
  let args ← textsFieldD req "args"
  let files ← requestFiles req
  let input ← match opt req "stdin" with
    | some v => some <$> (do pure (ByteArray.mk (← bytesOf "stdin" v).toArray))
    | none => pure none
  let reportMask := (← textFieldD req "mask") == "report"
  let full := (← textFieldD req "stdout") == "devfull"
  let tty ← match opt req "tty" with
    | some v => some <$> terminalPlan v
    | none => pure none
  let script ← match tty with
    | some plan => plan.script.mapM scriptAction
    | none => pure []
  let (r, w) := runBench (benchWorld files none [(programPath, programImage)])
    (runProgram args input full tty script) programCatalog
  let shown (data : ByteArray) : Value :=
    match String.fromUTF8? data with
    | some s => .str (workMask.apply (if reportMask then maskReport s else s))
    | none => bytesValue workMask data
  match r with
  | some (.ok run) =>
    pure (resultValue (.obj [("exit_code", .int run.exitCode), ("files", filesValue workMask (workFiles w)),
      ("stderr", match run.errors with
        | some e => shown e
        | none => .null),
      ("stdout", if full then .str "" else shown run.output)]))
  | some (.error f) => pure (faultValue workMask f)
  | none => throw "the program did not finish"

end PseudoTerm.Bench
