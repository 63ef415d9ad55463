import PseudoTerm.Pty.Device
import PseudoTerm.Control.Context

/-!
# The parent side of a running terminal

A handle owns the non-blocking parent side of a terminal whose child device a program
uses.  Reading waits until there is output and answers at most the bytes asked for;
once every opening of the child device is released the output ends (`EOF`).  Writing
hands all its bytes to the terminal's input, going on after each part the kernel takes.
An interrupted call is made again at once, and one that would block waits until the
descriptor is ready.  An empty read or write answers at once.

One read and one write run at a time: each holds the handle's lock for its direction
from start to end, so that concurrent writes never mix their bytes.  Deadlines bound
reading and writing: an operation whose deadline has passed fails with `i/o timeout`
before it tries anything, and one that waits fails when the deadline passes while it
waits.  Failures name the operation and `/dev/ptmx`; once the handle is closed they say
`file already closed`, also for an operation that was waiting when it closed.

An operation under a context gives up when the context ends: a watch moves the
deadline into the past, and once the operation has returned the deadline the owner
set is put back and a timeout caused by the context is reported as the context's
cause.  A context that ended before the operation fails it at once.  The owner's
deadlines are recorded and set, and put back, under a lock of their own.
-/

namespace PseudoTerm.Control

open PseudoTerm.Machine PseudoTerm.Pty PseudoTerm.Terminal

/-- The fault of an operation on a descriptor that is being closed. -/
def fileClosing : Fault := .text "use of closed file"

/-- How many tries of an operation the model follows; the tries after them never answer. -/
def waitLimit : Nat := 1000000

namespace Handle

/-- The fault of a descriptor that cannot be waited on with deadlines. -/
def noDeadline : Fault := .text "file type does not support deadline"

/-- Take over a parent side descriptor.  It is registered for waiting by clearing both
its deadlines; when that fails the descriptor is closed and the handle not made. -/
def adopt (fd : Nat) (childPath : String) : Prog Memory (Except Fault Handle) := do
  let registered ← match ← Sys.setDeadline (μ := Memory) fd true none with
    | .ok () => Sys.setDeadline (μ := Memory) fd false none
    | .error e => pure (.error e)
  match registered with
  | .error _ =>
    let _ ← Sys.close (μ := Memory) fd
    pure (.error noDeadline)
  | .ok () =>
    let key ← create fun k m => { m with handles := m.handles.insert k {} }
    pure (.ok { fd, key, childPath })

/-- Whether the handle is closed. -/
def isClosed (h : Handle) : Prog Memory Bool := inspect fun m => (m.handle h.key).closed

/-- The fault of operation `op`: the cause, or the closed file once the handle is closed. -/
def wrap (h : Handle) (op : String) (cause : Fault) : Prog Memory Fault := do
  let closed ← h.isClosed
  pure (.path op makerPath (if closed then .closed else cause))

/-- The runtime's check before an operation's first try: whether the deadline has passed. -/
def prepare (h : Handle) (reading : Bool) : Prog Memory (Option Fault) := do
  match ← Sys.deadlinePassed (μ := Memory) h.fd reading with
  | .ok true => pure (some .timedOut)
  | .ok false => pure none
  | .error e => pure (some (.errno e))

/-- Wait until the descriptor is ready again after an operation found that it would block;
answers what ended the wait when it did not become ready. -/
def park (h : Handle) (reading : Bool) : Prog Memory (Option Fault) := do
  match ← Sys.awaitReady (μ := Memory) h.fd reading with
  | .ready => pure none
  | .timedOut => pure (some .timedOut)
  | .closed => pure (some .closed)

/-- Run `op` as the runtime runs an operation on a descriptor it polls: under the handle's
lock for the direction, held for the whole operation, and only when the deadline has not
passed.  Taking the lock waits while another operation in that direction holds it and is
refused once the handle is closed; what keeps `op` from running is answered through
`refused`. -/
def poll {α : Type} (h : Handle) (reading : Bool) (refused : Fault → α) (op : Prog Memory α) :
    Prog Memory α := do
  let m ← Sys.await (fun m => (m.handle h.key).closed || !(m.handle h.key).locked reading)
    (Memory.lockHandle h.key reading)
  if (m.handle h.key).closed then return refused .closed
  let result ← do
    match ← h.prepare reading with
    | some cause => pure (refused cause)
    | none => op
  let _ ← Sys.update (Memory.unlockHandle h.key reading)
  pure result

/-- Read at most `max` bytes, trying again after an interruption and waiting until the
descriptor is ready when it would block; answers the answer of the read that ended it, or
what ended a wait.  The tries are never given up: past `fuel` of them the thread stands
still and never answers. -/
def readFrom (h : Handle) (max : Nat) : Nat → Prog Memory (Except Fault (Except Errno ByteArray))
  | 0 => Sys.endThread
  | fuel + 1 => do
    match ← Sys.read (μ := Memory) h.fd max with
    | .error e =>
      if e == Errno.eintr then h.readFrom max fuel
      else if e == Errno.eagain then
        match ← h.park true with
        | none => h.readFrom max fuel
        | some cause => pure (.error cause)
      else pure (.ok (.error e))
    | answer => pure (.ok answer)

/-- Read at most `max` bytes of output. -/
def read (h : Handle) (max : Nat) : Prog Memory (Except Fault ByteArray) :=
  if max == 0 then pure (.ok .empty) else do
    match ← h.poll true .error (h.readFrom max waitLimit) with
    | .error cause => pure (.error (← h.wrap "read" cause))
    | .ok (.error e) =>
      -- a hung up terminal answers `EIO`
      if e == Errno.eio then pure (.error .endOfStream)
      else pure (.error (← h.wrap "read" (.errno e)))
    | .ok (.ok data) => if data.size == 0 then pure (.error .endOfStream) else pure (.ok data)

/-- Hand the kernel the bytes of `data` from offset `done` on: a write that takes some goes
on after them, an interrupted one is tried again, and one that would block waits until the
descriptor is ready.  Answers the bytes taken and what stopped it; nothing when all are
taken.  As for reads, past `fuel` tries the thread stands still and never answers. -/
def writeFrom (h : Handle) (data : ByteArray) (fuel done : Nat) : Prog Memory (Nat × Option Fault) :=
  if data.size ≤ done then pure (done, none)
  else
    match fuel with
    | 0 => Sys.endThread
    | fuel + 1 => do
      match ← Sys.write (μ := Memory) h.fd (data.extract done data.size) with
      | .ok 0 => pure (done, some .unexpectedEnd)
      | .ok n => h.writeFrom data fuel (done + n)
      | .error e =>
        if e == Errno.eintr then h.writeFrom data fuel done
        else if e == Errno.eagain then
          match ← h.park false with
          | none => h.writeFrom data fuel done
          | some cause => pure (done, some cause)
        else pure (done, some (.errno e))

/-- Write all of `data`; answers the bytes written and the fault that stopped it. -/
def write (h : Handle) (data : ByteArray) : Prog Memory (Nat × Option Fault) :=
  if data.size == 0 then pure (0, none) else do
    let (written, cause) ← h.poll false (fun cause => (0, some cause)) (h.writeFrom data waitLimit 0)
    match cause with
    | some cause => pure (written, some (← h.wrap "write" cause))
    | none => pure (written, none)

/-- Hold the lock of the handle's deadlines while `op` runs. -/
def withDeadlines {α : Type} (h : Handle) (op : Prog Memory α) : Prog Memory α := do
  let _ ← Sys.await (fun m => !(m.handle h.key).deadlinesLocked) (Memory.setDeadlinesLocked h.key true)
  let result ← op
  let _ ← Sys.update (Memory.setDeadlinesLocked h.key false)
  pure result

/-- Set the descriptor's deadline for reading (`reading`) or writing. -/
def applyDeadline (h : Handle) (reading : Bool) (at? : Option Int) : Prog Memory (Except Fault Unit) := do
  if ← h.isClosed then return .error fileClosing
  match ← Sys.setDeadline (μ := Memory) h.fd reading at? with
  | .ok () => pure (.ok ())
  | .error _ => pure (.error fileClosing)

/-- Set the deadline of reading (`reading`) or writing, as the owner's choice. -/
def setDeadline (h : Handle) (reading : Bool) (at? : Option Int) : Prog Memory (Except Fault Unit) :=
  h.withDeadlines do
    let _ ← Sys.update (Memory.recordDeadline h.key reading at?)
    h.applyDeadline reading at?

/-- Set both deadlines. -/
def setDeadlines (h : Handle) (at? : Option Int) : Prog Memory (Except Fault Unit) :=
  h.withDeadlines do
    let _ ← Sys.update fun m => Memory.recordDeadline h.key false at? (Memory.recordDeadline h.key true at? m)
    match ← h.applyDeadline true at? with
    | .error f => pure (.error f)
    | .ok () => h.applyDeadline false at?

/-- Run an operation that gives up when `ctx` ends; `reading` says which deadline it
waits under, and `fault` reads the operation's fault off its result. -/
def underContext {α : Type} (h : Handle) (ctx : Context) (reading : Bool)
    (fault : α → Option Fault) (replace : α → Fault → α) (op : Prog Memory α)
    (failed : Fault → α) : Prog Memory α := do
  match ← ctx.cause? with
  | some f => pure (failed f)
  | none =>
    let watch ← ctx.afterEnd do
      let _ ← Sys.setDeadline (μ := Memory) h.fd reading (some 0)
    let result ← op
    if ← watch.stop then pure result
    else
      watch.awaitFired
      -- put back the owner's deadline, which the watch moved into the past
      let _ ← h.withDeadlines do
        let s ← inspect (·.handle h.key)
        Sys.setDeadline (μ := Memory) h.fd reading (if reading then s.readDeadline else s.writeDeadline)
      match fault result with
      | some f =>
        if f.isTimeout then
          match ← ctx.cause? with
          | some cause => pure (replace result cause)
          | none => pure result
        else pure result
      | none => pure result

/-- Read under a context. -/
def readContext (h : Handle) (ctx : Context) (max : Nat) : Prog Memory (Except Fault ByteArray) :=
  h.underContext ctx true
    (fun r => match r with
      | .error f => some f
      | .ok _ => none)
    (fun _ f => .error f) (h.read max) .error

/-- Write under a context. -/
def writeContext (h : Handle) (ctx : Context) (data : ByteArray) : Prog Memory (Nat × Option Fault) :=
  h.underContext ctx false (·.2) (fun r f => (r.1, some f)) (h.write data) fun f => (0, some f)

/-- Set the window size, each dimension saturated. -/
def resize (h : Handle) (cols rows : Nat) : Prog Memory (Except Fault Unit) := do
  if ← h.isClosed then return .error (.resize (.path "resize" makerPath .closed))
  match ← resizeDescriptor (μ := Memory) h.fd cols rows with
  | .ok () => pure (.ok ())
  | .error f => pure (.error (.resize (← h.wrap "resize" f)))

/-- The window size. -/
def size (h : Handle) : Prog Memory (Except Fault Window) := do
  if ← h.isClosed then return .error (.path "size" makerPath .closed)
  match ← sizeOfDescriptor (μ := Memory) h.fd with
  | .ok w => pure (.ok w)
  | .error f => pure (.error (← h.wrap "size" f))

/-- The window size, asked of the descriptor directly. -/
def sizeOfDescriptorNow (h : Handle) : Prog Memory (Except Fault Window) := do
  if ← h.isClosed then return .error fileClosing
  sizeOfDescriptor (μ := Memory) h.fd

/-- Close the handle.  The first close marks it closed and releases the descriptor; every
other close, also one made while the first runs, waits for it and answers what it did. -/
def close (h : Handle) : Prog Memory (Except Fault Unit) := do
  let m ← Sys.update (μ := Memory) (Memory.beginClose h.key)
  if (m.handle h.key).closes == 1 then
    let result : Except Fault Unit ← match ← Sys.close (μ := Memory) h.fd with
      | .ok () => pure (.ok ())
      | .error e => pure (.error (.path "close" makerPath (.errno e)))
    let _ ← Sys.update (μ := Memory) (Memory.finishClose h.key result)
    pure result
  else
    let m ← Sys.await (μ := Memory) fun m => (m.handle h.key).closeResult.isSome
    pure ((m.handle h.key).closeResult.getD (.ok ()))

end Handle

end PseudoTerm.Control
