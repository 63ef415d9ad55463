import PseudoTerm.Bench.Settings
import PseudoTerm.Pty.Pair

/-!
# Bench requests about terminals

`ptysys` exercises the device calls on a new terminal, on descriptors that are not
terminals and on closed ones.  `pty` runs a list of steps on one pair, one handle, one
child and a buffer of output read but not yet answered: allocating (with the child
device lookup replaced when the step asks), resizing and closing the pair, starting a
program on it, writing and reading (until an expected text, to the end, a chunk, under a
context), deadlines, window sizes, signals and waiting.

Waiting steps give up after a time: reading until a text or to the end after two
seconds, a write under a context after 50 milliseconds.
-/

namespace PseudoTerm.Bench

open PseudoTerm.Machine PseudoTerm.Control PseudoTerm.Pty PseudoTerm.Terminal

/-- The mask of terminal answers: the bench's own path. -/
def benchMask : Mask := { places := [(driverPath, "<DRIVER>")] }

/-- A window size as an answer. -/
def windowValue (w : Window) : Value := .arr [.nat w.cols, .nat w.rows]

/-- A result or its fault as an answer, the fault inside the result object. -/
def faultOrNull (r : Except Fault Unit) : Value :=
  match r with
  | .ok () => .null
  | .error f => faultValue benchMask f

/-- The state of a `pty` request. -/
structure PtyState where
  pair : Option Pair := none
  term : Option Handle := none
  child : Option Child := none
  buffer : ByteArray := .empty
  deriving Inhabited

/-- A step whose fields could be read goes on; any other is refused. -/
def withFields {α σ : Type} (d : Decode α) (s : σ) (k : α → Prog Memory (Value × σ)) :
    Prog Memory (Value × σ) :=
  match d with
  | .ok a => k a
  | .error message => pure (refusal message, s)

/-- Microseconds from now, for a number of milliseconds (negative ones lie in the past). -/
def fromNow (ms : Int) : Prog Memory Int := do
  let now ← Sys.now (μ := Memory)
  pure ((now : Int) + ms * 1000)

/-- The context a step asks for: cancelled already, cancelled after `timeout_ms`, or
ending after `timeout_ms` (or `fallback` milliseconds); the background otherwise. -/
def stepContext (step : Value) (fallback : Option Nat) : Decode (Prog Memory Context) := do
  let cancelled ← boolFieldD step "cancelled"
  let cancel ← boolFieldD step "cancel"
  let timeout ← match opt step "timeout_ms" with
    | some v => some <$> (integerIn "timeout_ms" "an int64" 0 int64Max v)
    | none => pure (fallback.map fun n => (n : Int))
  if cancelled then
    pure do
      let c ← Context.withCancel .background
      c.cancel
      pure c
  else if cancel then
    pure do
      let c ← Context.withCancel .background
      c.cancelAfter ((timeout.getD 0).toNat * 1000)
      pure c
  else
    match timeout with
    | some t => pure (Context.withTimeout .background (t.toNat * 1000))
    | none => pure (pure .background)

/-- The first position of `pat` in `data`. -/
def findBytes (data pat : ByteArray) : Option Nat :=
  let d := data.toList
  let p := pat.toList
  (List.range (d.length + 1)).find? fun i => (d.drop i).take p.length == p && i + p.length ≤ d.length

/-- Read under `ctx` until the buffer holds `expect`; answers the bytes through it and
keeps the rest buffered. -/
def readUntil (h : Handle) (ctx : Context) (expect buffer : ByteArray) :
    Nat → Prog Memory (Except Fault ByteArray × ByteArray)
  | 0 => pure (.error .timedOut, buffer)
  | fuel + 1 => do
    match findBytes buffer expect with
    | some i =>
      let stop := i + expect.size
      pure (.ok (buffer.extract 0 stop), buffer.extract stop buffer.size)
    | none =>
      match ← h.readContext ctx 4096 with
      | .ok chunk => readUntil h ctx expect (buffer ++ chunk) fuel
      | .error f => pure (.error f, buffer)

/-- Read under `ctx` until the output ends; answers everything read and the fault that
ended it. -/
def readAll (h : Handle) (ctx : Context) (acc : ByteArray) : Nat → Prog Memory (ByteArray × Fault)
  | 0 => pure (acc, .timedOut)
  | fuel + 1 => do
    match ← h.readContext ctx 32768 with
    | .ok chunk => readAll h ctx (acc ++ chunk) fuel
    | .error f => pure (acc, f)

/-- The most chunks one reading step takes. -/
def readRounds : Nat := 100000

/-- The lookup of the child device an `allocate` step asks for. -/
def lookupOf (step : Value) : Decode ChildLookup := do
  match opt step "child_path" with
  | some v =>
    let path ← textOf "child_path" v
    pure fun _ => pure (.ok path)
  | none =>
    match opt step "child_errno" with
    | some v =>
      let n ← integerIn "child_errno" "a uint64" 0 (Int.pow 2 64 - 1) v
      pure fun _ => pure (.error (.errno ⟨n.toNat⟩))
    | none => pure childPathOf

/-- The command of a `spawn` step and the setup helper it asks for. -/
def spawnCommand (step : Value) : Decode (Prog Memory Command × Option String) := do
  let argv ← textsField step "argv"
  let name ← match argv with
    | n :: _ => pure n
    | [] => throw "field \"argv\" must not be empty"
  let dir ← textFieldD step "dir"
  let env ← match opt step "env" with
    | some v => some <$> textsOf "env" v
    | none => pure none
  let helper ← boolFieldD step "helper"
  let helperPath ← match opt step "helper_path" with
    | some v => some <$> textOf "helper_path" v
    | none => pure none
  let preset ← boolFieldD step "preset_attr"
  let noArgs ← boolFieldD step "no_args"
  let helperChoice := match helperPath with
    | some "" => none
    | some p => some p
    | none => if helper then some driverPath else none
  let make : Prog Memory Command := do
    let base ← if noArgs then pure ({ path := name, args := [] } : Command)
      else Command.make driverEnvironment name argv.tail
    pure { base with dir, env,
                     setup := if preset then some { newGroup := true, dropTerminal := true } else none }
  pure (make, helperChoice)

/-- A step that needs the handle. -/
def withTerm (s : PtyState) (k : Handle → Prog Memory (Value × PtyState)) : Prog Memory (Value × PtyState) :=
  match s.term with
  | some h => k h
  | none => pure (refusal "no terminal: spawn first", s)

/-- A step that needs the child. -/
def withChild (s : PtyState) (k : Child → Prog Memory (Value × PtyState)) : Prog Memory (Value × PtyState) :=
  match s.child with
  | some c => k c
  | none => pure (refusal "no process", s)

/-- A step that needs the pair. -/
def withPair (s : PtyState) (k : Pair → Prog Memory (Value × PtyState)) : Prog Memory (Value × PtyState) :=
  match s.pair with
  | some p => k p
  | none => pure (refusal "no pair: allocate first", s)

/-- The answer of a write: the count, or the fault with the count. -/
def writeValue (n : Nat) (fault : Option Fault) : Value :=
  match fault with
  | none => okValue (.nat n)
  | some f => faultValueWithCount benchMask f n

/-- The answer of a read: the bytes, or the fault with no bytes. -/
def readValue (r : Except Fault ByteArray) : Value :=
  match r with
  | .ok data => okValue (bytesValue benchMask data)
  | .error f => faultValueWithCount benchMask f 0

/-- Carry out one `pty` step. -/
def ptyStep (s : PtyState) (step : Value) : Prog Memory (Value × PtyState) :=
  withFields (textField step "do") s fun
  | "allocate" => withFields (lookupOf step) s fun lookup => do
    match ← allocate lookup with
    | .ok p =>
      let v := Value.obj [("child_path", .str (benchMask.apply p.childPath)),
        ("child_path_prefix", .bool (p.childPath.startsWith childDirectory))]
      pure (okValue v, { s with pair := some p })
    | .error f => pure (faultValue benchMask f, s)
  | "pair_resize" =>
    withFields (do pure (← uint32Field step "cols", ← uint32Field step "rows")) s fun (cols, rows) =>
      withPair s fun p => do
        pure (stepValue benchMask ((← p.resize cols rows).map fun _ => .null), s)
  | "pair_close" => withPair s fun p => do
    let r ← p.close
    pure (stepValue benchMask (r.map fun _ => .null), s)
  | "child_size" => withPair s fun p => do
    match ← Sys.openPath (μ := Memory) p.childPath { read := true, write := true, noControllingTerminal := true } 0 with
    | .error e => pure (faultValue benchMask (.path "open" p.childPath (.errno e)), s)
    | .ok fd =>
      let r ← sizeOfDescriptor (μ := Memory) fd
      closeQuietly fd
      pure (stepValue benchMask (r.map windowValue), s)
  | "spawn" => withFields (spawnCommand step) s fun (make, helper) => withPair s fun p => do
    let cmd ← make
    match ← p.spawn cmd helper driverEnvironment with
    | .ok (h, c) =>
      let v := Value.obj [("name_prefix", .bool (h.childPath.startsWith childDirectory)), ("process", .bool true)]
      pure (okValue v, { s with term := some h, child := some c })
    | .error f => pure (faultValue benchMask f, s)
  | "write" => withFields (do pure (← bytesField step "data", ← boolFieldD step "summary")) s
    fun (data, summary) => withTerm s fun h => do
      let (n, fault) ← h.write ⟨data.toArray⟩
      if summary then
        let someWritten := Value.bool (0 < n && n < data.length)
        match fault with
        | none => pure ((okValue (.bool (n == data.length))).withField "partial" someWritten, s)
        | some f => pure ((faultValueWithCount benchMask f n).withField "partial" someWritten, s)
      else pure (writeValue n fault, s)
  | "write_context" => withFields (do pure (← bytesField step "data", ← stepContext step (some 50))) s
    fun (data, makeContext) => withTerm s fun h => do
      let ctx ← makeContext
      let (n, fault) ← h.writeContext ctx ⟨data.toArray⟩
      pure (writeValue n fault, s)
  | "read_until" =>
    withFields (do pure (← bytesField step "expect", ← int64FieldD step "timeout_ms" 2000)) s
    fun (expect, timeout) => withTerm s fun h => do
      let ctx ← Context.withTimeout .background (timeout.toNat * 1000)
      let (r, rest) ← readUntil h ctx ⟨expect.toArray⟩ s.buffer readRounds
      pure (readValue r, { s with buffer := rest })
  | "read_all" => withFields (int64FieldD step "timeout_ms" 2000) s fun timeout => withTerm s fun h => do
    let ctx ← Context.withTimeout .background (timeout.toNat * 1000)
    let (data, fault) ← readAll h ctx s.buffer readRounds
    let v := Value.obj [("data", bytesValue benchMask data), ("end", faultValue benchMask fault)]
    pure (okValue v, { s with buffer := .empty })
  | "read" =>
    withFields (do pure (← intFieldD step "size" "a uint32" 0 (Int.pow 2 32 - 1) 16,
        ← match opt step "deadline_ms" with
          | some v => some <$> integerIn "deadline_ms" "an int64" int64Min int64Max v
          | none => pure none)) s
    fun (size, deadline) => withTerm s fun h => do
      if let some ms := deadline then
        let _ ← h.setDeadline true (some (← fromNow ms))
      if s.buffer.size > 0 && size > 0 then
        let n := min size.toNat s.buffer.size
        pure (okValue (bytesValue benchMask (s.buffer.extract 0 n)),
          { s with buffer := s.buffer.extract n s.buffer.size })
      else pure (readValue (← h.read size.toNat), s)
  | "read_context" =>
    withFields (do pure (← stepContext step none, ← intFieldD step "size" "a uint32" 0 (Int.pow 2 32 - 1) 16)) s
    fun (makeContext, size) => withTerm s fun h => do
      let ctx ← makeContext
      pure (readValue (← h.readContext ctx size.toNat), s)
  | "set_read_deadline" => withFields (int64Field step "ms") s fun ms => withTerm s fun h => do
    pure (stepValue benchMask ((← h.setDeadline true (some (← fromNow ms))).map fun _ => .null), s)
  | "set_write_deadline" => withFields (int64Field step "ms") s fun ms => withTerm s fun h => do
    pure (stepValue benchMask ((← h.setDeadline false (some (← fromNow ms))).map fun _ => .null), s)
  | "set_deadline" => withFields (int64Field step "ms") s fun ms => withTerm s fun h => do
    pure (stepValue benchMask ((← h.setDeadlines (some (← fromNow ms))).map fun _ => .null), s)
  | "clear_deadline" => withTerm s fun h => do
    pure (stepValue benchMask ((← h.setDeadlines none).map fun _ => .null), s)
  | "resize" =>
    withFields (do pure (← uint32Field step "cols", ← uint32Field step "rows")) s fun (cols, rows) =>
      withTerm s fun h => do
        pure (stepValue benchMask ((← h.resize cols rows).map fun _ => .null), s)
  | "size" => withTerm s fun h => do pure (stepValue benchMask ((← h.size).map windowValue), s)
  | "size_via_syscall_conn" => withTerm s fun h => do
    pure (stepValue benchMask ((← h.sizeOfDescriptorNow).map windowValue), s)
  | "flush" | "close_write" => withTerm s fun _ => pure (okValue .null, s)
  | "close" => withTerm s fun h => do pure (stepValue benchMask ((← h.close).map fun _ => .null), s)
  | "name_prefix" => withTerm s fun h => pure (okValue (.bool (h.childPath.startsWith childDirectory)), s)
  | "signal" => withFields (intField step "signal" "a signal" 0 64) s fun sig => withChild s fun c => do
    pure (stepValue benchMask ((← c.signal sig.toNat).map fun _ => .null), s)
  | "wait" => withChild s fun c => do
    pure (stepValue benchMask ((← c.wait).map fun st => .int (exitCodeOf st)), s)
  | "is_session_leader" => withChild s fun c => do
    match ← Sys.identityOf (μ := Memory) c.pid with
    | .ok ids =>
      pure (okValue (.obj [("pgid_is_pid", .bool (ids.pgid == c.pid)), ("sid_is_pid", .bool (ids.sid == c.pid))]), s)
    | .error e => pure (faultValue benchMask (.errno e), s)
  | "sleep" => withFields (intField step "ms" "at most 500" 0 500) s fun ms => do
    Sys.sleep (μ := Memory) (ms.toNat * 1000)
    pure (okValue .null, s)
  | other => pure (refusal s!"unknown step \"{other}\"", s)

/-- Run `pty` steps in order. -/
def ptySteps : PtyState → List Value → Prog Memory (List Value)
  | _, [] => pure []
  | s, step :: rest => do
    let (v, s') ← ptyStep s step
    let vs ← ptySteps s' rest
    pure (v :: vs)

/-- The answer of a `pty` request. -/
def ptyAnswer (req : Value) : Decode Value := do
  let steps ← match ← need req "steps" with
    | .arr xs => pure xs
    | _ => throw "field \"steps\" must be a list"
  let files ← requestFiles req
  match (runBench (benchWorld files) (ptySteps {} steps)).1 with
  | some answers => pure (resultValue (.arr answers))
  | none => throw "the steps did not finish"

/-- Device calls on a descriptor that is not a terminal's parent side, or a closed one:
`grant`, `unlock`, `child_path`, `resize_fd`, `resize` and `size`. -/
def deviceProbe (fd : Nat) (closed : Bool) : Prog Memory Value := do
  let grantR ← grant (μ := Memory) fd
  let unlockR ← unlock (μ := Memory) fd
  let pathR ← childPathOf (μ := Memory) fd
  let resizeFdR ← resizeDescriptor (μ := Memory) fd 80 24
  let resizeR ← if closed then pure (.error fileClosing) else resizeDescriptor (μ := Memory) fd 80 24
  let sizeR ← if closed then pure (.error fileClosing) else sizeOfDescriptor (μ := Memory) fd
  pure (.obj [("child_path", stepValueBare (pathR.map Value.str)), ("grant", faultOrNull grantR),
    ("resize", faultOrNull resizeR), ("resize_fd", faultOrNull resizeFdR),
    ("size", stepValueBare (sizeR.map windowValue)), ("unlock", faultOrNull unlockR)])
where
  /-- A value or its fault, as a field of the answer. -/
  stepValueBare : Except Fault Value → Value
    | .ok v => v
    | .error f => faultValue benchMask f

/-- The task of a `ptysys` request. -/
def ptysysTask (call : String) (req : Value) : Decode (Prog Memory Value) :=
  match call with
  | "open_master_flags" => pure do
    match ← openParent (μ := Memory) with
    | .error f => pure (faultValue benchMask f)
    | .ok fd =>
      let info ← Sys.describe (μ := Memory) fd
      let g ← grant (μ := Memory) fd
      let u ← unlock (μ := Memory) fd
      closeQuietly fd
      match info with
      | .ok i =>
        pure (resultValue (.obj [("cloexec", .bool i.closeOnExec), ("grant", faultOrNull g),
          ("nonblock", .bool i.nonBlocking), ("rdwr", .bool (i.readable && i.writable)),
          ("unlock", faultOrNull u)]))
      | .error e => pure (faultValue benchMask (.errno e))
  | "open_child" => do
    let path ← textField req "path"
    pure do
      match ← openChild (μ := Memory) path with
      | .ok fd =>
        closeQuietly fd
        pure (resultValue .null)
      | .error f => pure (faultValue benchMask f)
  | "on_nil_file" => pure do
    let invalid := faultValue benchMask (.text "invalid argument")
    pure (resultValue (.obj [("resize", invalid), ("size", invalid)]))
  | "on_devnull" => pure do
    match ← Sys.openPath (μ := Memory) "/dev/null" { read := true, write := true } 0 with
    | .ok fd => resultValue <$> deviceProbe fd false
    | .error e => pure (faultValue benchMask (.errno e))
  | "on_file" => pure do
    match ← Sys.openPath (μ := Memory) "probe.txt" { read := true, write := true, create := true } 0o600 with
    | .ok fd => resultValue <$> deviceProbe fd false
    | .error e => pure (faultValue benchMask (.errno e))
  | "on_closed" => pure do
    match ← Sys.openPath (μ := Memory) "/dev/null" { read := true } 0 with
    | .ok fd =>
      closeQuietly fd
      resultValue <$> deviceProbe fd true
    | .error e => pure (faultValue benchMask (.errno e))
  | "pair_size" => do
    let sizes ← match ← need req "sizes" with
      | .arr xs => xs.mapM fun v => do
        pure (← uint32Field v "cols", ← uint32Field v "rows", ← boolFieldD v "on_child")
      | _ => throw "field \"sizes\" must be a list"
    pure do
      match ← allocate with
      | .error f => pure (faultValue benchMask f)
      | .ok p =>
        match ← p.peek with
        | none => pure (faultValue benchMask .pairConsumed)
        | some (parent, child) =>
          let steps ← sizes.mapM fun (cols, rows, onChild) => do
            let r ← resizeDescriptor (μ := Memory) (if onChild then child else parent) cols rows
            let m ← sizeOfDescriptor (μ := Memory) parent
            let c ← sizeOfDescriptor (μ := Memory) child
            let shown (x : Except Fault Window) : Value := match x with
              | .ok w => windowValue w
              | .error f => faultValue benchMask f
            pure (Value.obj [("child", shown c), ("err", faultOrNull r), ("master", shown m)])
          let _ ← p.close
          pure (resultValue (.obj [("child_path_prefix", .bool (p.childPath.startsWith childDirectory)),
            ("steps", .arr steps)]))
  | other => throw s!"unknown call \"{other}\""

/-- The answer of a `ptysys` request. -/
def ptysysAnswer (req : Value) : Decode Value := do
  let task ← ptysysTask (← textField req "call") req
  match (runBench (benchWorld []) task).1 with
  | some v => pure v
  | none => throw "the call did not finish"

end PseudoTerm.Bench
