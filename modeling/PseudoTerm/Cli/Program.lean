import PseudoTerm.Cli.Complete
import PseudoTerm.Session.Service
import PseudoTerm.Pty.Helper
import PseudoTerm.Terminal.Settings
import PseudoTerm.Config.File

/-!
# The `ptyrun` program

The program first checks whether it was started as the session setup helper.  Then it
reads its command line and reports a failure (exit status 1), shows help or the
version, or runs a command:

* `capture` starts the program on a session, copies the session's output to standard
  output or to the file `-o` names (created with its directories before the session
  starts), waits for it and ends with the program's exit code.
* `run` does the same on standard output, relaying standard input to the session.
  When standard input is a terminal, the session takes its size (unless `--cols` or
  `--rows` is given and when the size is known), the terminal is switched to raw mode
  for the run, and every change of its size resizes the session.
* `batch` loads a configuration file, keeps the sessions `--only` names, runs them as a
  service stopped by `INT` or `TERM`, prints the report and ends with status 1 when a
  session failed.
* `help` shows the help of the command its arguments name; `__complete` answers a
  completion request.

A failure after the command line was read is printed as `ptyrun: <reason>` and ends
the program with status 1.  A live byte counter is kept only when standard error is
a terminal, and nothing it draws is part of the program's output.
-/

namespace PseudoTerm.Cli

open PseudoTerm.Machine PseudoTerm.Control PseudoTerm.Config

/-- Write a text to a descriptor, ignoring failures. -/
def writeText (fd : Nat) (text : String) : Prog Memory Unit := do
  let _ ← Sys.writeAll (μ := Memory) fd text.toUTF8

/-- Print a failure and end with status 1. -/
def fatal {α : Type} (f : Fault) : Prog Memory α := do
  writeText 2 (programName ++ ": " ++ f.message ++ "\n")
  Sys.exit 1

/-- Whether a descriptor is a terminal. -/
def isTerminal (fd : Nat) : Prog Memory Bool := do
  match ← Sys.settingsOf (μ := Memory) fd with
  | .ok _ => pure true
  | .error _ => pure false

/-- The exit status of an exit code: its low eight bits. -/
def exitStatus (code : Int) : Nat := (code % 256).toNat

/-- Standard output as a writer. -/
def standardOutput : Writer := Writer.standard 1 "/dev/stdout"

/-- A channel of chunk sizes drained by a thread of its own, when `counting`; answers
the channel and the counter that reaches zero once the thread has drained it. -/
def startCounter (counting : Bool) : Prog Memory (Option (Nat × Nat)) := do
  if !counting then return none
  let ch ← makeChannel progressRoom
  let group ← makeCounter 1
  Sys.spawnThread do
    let rec drainAll : Nat → Prog Memory Unit
      | 0 => pure ()
      | fuel + 1 => do
        match ← receive ch with
        | some _ => drainAll fuel
        | none => pure ()
    drainAll relayRounds
    addTo group (-1)
  pure (some (ch, group))

/-- Close a counter's channel and wait until it is drained. -/
def stopCounter : Option (Nat × Nat) → Prog Memory Unit
  | some (ch, group) => do
    closeChannel ch
    awaitZero group
  | none => pure ()

/-- The observer of a batch's progress: drain each session's chunk sizes. -/
def drainingObserver : ProgressObserver := fun _ ch => do
  let rec drainAll : Nat → Prog Memory Unit
    | 0 => pure ()
    | fuel + 1 => do
      match ← receive ch with
      | some _ => drainAll fuel
      | none => pure ()
  drainAll relayRounds

/-- Run `capture`. -/
def runCapture (host : Host) (d : Defaults) (p : Parsed) (args : List String) : Prog Memory Unit := do
  let spec := sessionOfFlags d { p with positional := args }
  let output := p.text "output"
  let out ← if output.isEmpty then pure (.ok standardOutput)
    else createOutput (Account.expandHome d.user.home output)
  match out with
  | .error f => fatal f
  | .ok w =>
    match ← startSession host spec with
    | .error f => fatal f
    | .ok s =>
      let counter ← startCounter (p.truth "progress" && (← isTerminal 2))
      let _ ← s.copyOutput w (counter.map (·.1))
      stopCounter counter
      let (code, fault) ← s.wait
      if let some f := fault then fatal f
      let _ ← s.close
      let _ ← w.close
      Sys.exit (exitStatus code)

/-- Read standard input for a relay: a chunk, or the end. -/
def readInput (n : Nat) : Prog Memory (Except Fault ByteArray) := do
  match ← Sys.read (μ := Memory) 0 n with
  | .ok chunk => pure (if chunk.size == 0 then .error .endOfStream else .ok chunk)
  | .error e => pure (.error (.errno e))

/-- A session's terminal as a writer. -/
def terminalWriter (s : Session) : Writer :=
  ⟨fun d => do
    let (n, f) ← s.term.write d
    pure (n, f), pure none⟩

/-- Resize the session each time the terminal on standard input changes size, until
`stopped` is set. -/
def followWindow (s : Session) (stopped : Nat) : Nat → Prog Memory Unit
  | 0 => pure ()
  | fuel + 1 => do
    let _ ← Sys.awaitSignal (μ := Memory) [sigwinch]
    if (← inspect (·.counter stopped)) != 0 then return
    match ← Sys.windowOf (μ := Memory) 0 with
    | .ok w =>
      let _ ← s.resize w.cols w.rows
    | .error _ => pure ()
    followWindow s stopped fuel

/-- How many size changes a run follows at most. -/
def windowChanges : Nat := 1000000

/-- Run `run`. -/
def runInteractive (host : Host) (d : Defaults) (p : Parsed) (args : List String) : Prog Memory Unit := do
  let spec := sessionOfFlags d { p with positional := args }
  let interactive ← isTerminal 0
  let spec ← if !p.changed "cols" && !p.changed "rows" && interactive then
      match ← Sys.windowOf (μ := Memory) 0 with
      | .ok w => pure (if w.cols > 0 && w.rows > 0 then { spec with cols := w.cols, rows := w.rows } else spec)
      | .error _ => pure spec
    else pure spec
  match ← startSession host spec with
  | .error f => fatal f
  | .ok s =>
    let saved ← if interactive then
        match ← Sys.settingsOf (μ := Memory) 0 with
        | .error e =>
          let _ ← s.close
          fatal (.errno e)
        | .ok st =>
          match ← Sys.setSettings (μ := Memory) 0 (Terminal.Settings.makeRaw st) with
          | .error e =>
            let _ ← s.close
            fatal (.errno e)
          | .ok () => pure (some st)
      else pure none
    let stopped ← makeCounter 0
    if interactive then
      let _ ← Sys.setDisposition (μ := Memory) sigwinch .catch
      Sys.spawnThread (followWindow s stopped windowChanges)
    Sys.spawnThread do
      let _ ← relay readInput (terminalWriter s) none relayRounds
    let _ ← s.copyOutput standardOutput none
    addTo stopped 1
    let (code, fault) ← s.wait
    if let some st := saved then
      let _ ← Sys.setSettings (μ := Memory) 0 st
    let _ ← s.close
    if let some f := fault then fatal f
    Sys.exit (exitStatus code)

/-- Run `batch`. -/
def runBatchCommand (host : Host) (d : Defaults) (p : Parsed) : Prog Memory Unit := do
  match ← readBatchFile d (p.text "config") with
  | .error f => fatal f
  | .ok spec =>
    match spec.select (p.texts "only") with
    | .error f => fatal f
    | .ok spec =>
      let workers := p.integer "max-workers"
      let spec := if workers > 0 then { spec with workers } else spec
      let bars := p.truth "progress" && (← isTerminal 2)
      let service ← Service.start host spec (if bars then some drainingObserver else none)
      let _ ← Sys.setDisposition (μ := Memory) sigint .catch
      let _ ← Sys.setDisposition (μ := Memory) sigterm .catch
      service.awaitThenStop do
        let _ ← Sys.awaitSignal (μ := Memory) [sigint, sigterm]
      let outcomes ← service.outcomes
      let (text, failed) := Batch.report (outcomes.map SessionOutcome.reported)
      writeText 1 text
      Sys.exit (if failed > 0 then 1 else 0)

/-- The session names of a configuration file, if it can be loaded. -/
def sessionNames (d : Defaults) (path : String) : Prog Memory (Option (List String)) := do
  match ← readBatchFile d path with
  | .ok b => pure (some (b.sessions.map (·.name)))
  | .error _ => pure none

/-- The program, started as `inv`. -/
def ptyrunProgram (inv : Invocation) : Prog Memory Unit :=
  Pty.withSetupHelper inv do
    let env := Environment.firstOfEachKey inv.env
    let host : Host := { env, executable := inv.path }
    let d : Defaults := { shellVariable := (Environment.lookup env "SHELL").filter (!·.isEmpty) }
    let args := inv.args.drop 1
    let withComplete := callsCompletion args
    match request args with
    | .fail n reason =>
      writeText 2 ("Error: " ++ reason ++ "\n" ++ usageText withComplete n ++ "\n")
      Sys.exit 1
    | .help n =>
      writeText 1 (helpText withComplete n)
      Sys.exit 0
    | .version =>
      writeText 1 versionText
      Sys.exit 0
    | .run n p rest called =>
      match n with
      | .root =>
        writeText 1 "invalid subcommand\n"
        Sys.exit 1
      | .help =>
        writeText 1 (helpText withComplete (findCommand withComplete rest).1)
        Sys.exit 0
      | .capture => runCapture host d p rest
      | .run => runInteractive host d p rest
      | .batch => runBatchCommand host d p
      | .complete =>
        let (_, c) ← complete (sessionNames d) rest
        writeText 1 (completionOutput c (called != "__completeNoDesc"))
        writeText 2 (completionErrors c)
        Sys.exit 0
      | _ => Sys.exit 0

end PseudoTerm.Cli
