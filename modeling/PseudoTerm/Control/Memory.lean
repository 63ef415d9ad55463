import PseudoTerm.Fault
import PseudoTerm.Registry
import PseudoTerm.Machine.Interface

/-!
# The memory the threads of a controlling program share

A program that controls terminals runs several threads at once: one copies output,
one waits for a child, one fires when a time runs out.  They share records kept in
tables under keys handed out from one counter, so that every key is unique:

* cancellation contexts, each with the cause it ended with and the context it hangs
  from;
* watches, callbacks registered to run once a context ends;
* channels of numbers with a bounded buffer, and counters;
* children the program started, and whether it has already collected them;
* terminal pairs not yet started on: their descriptors, handed out once;
* terminal handles: whether closed, the deadlines their owner set, and their locks;
* sessions: whether their program is done, how it ended, whether output is draining;
* registries of sessions, byte buffers used as sinks, and the outcomes of batch runs.

The identities of children, terminal handles and sessions are plain records naming
their entries in these tables, so they can be copied between threads and stored.

Each record changes only through the named transitions below, and a thread applies
one transition in one step of the machine, so no other thread sees half of it.
-/

namespace PseudoTerm.Control

open PseudoTerm.Machine

/-- Entries under keys. -/
abbrev Table (α : Type) := List (Nat × α)

namespace Table

variable {α : Type}

/-- The entry under a key. -/
def get? (t : Table α) (k : Nat) : Option α := t.lookup k

/-- Store an entry under a new key. -/
def insert (t : Table α) (k : Nat) (a : α) : Table α := t ++ [(k, a)]

/-- Change the entry under a key, when there is one. -/
def modify (t : Table α) (k : Nat) (f : α → α) : Table α :=
  t.map fun e => if e.1 == k then (e.1, f e.2) else e

/-- Remove the entry under a key. -/
def erase (t : Table α) (k : Nat) : Table α := t.filter (·.1 != k)

end Table

/-- A cancellation context: why it ended (nothing while it goes on), and the context
whose end ends it too. -/
structure ContextState where
  cause : Option Fault := none
  parent : Option Nat := none
  deriving Inhabited

/-- The life of a callback registered to run once a context ends: waiting, kept from
running, running, or run to its end. -/
inductive WatchPhase where
  | armed
  | stopped
  | running
  | fired
  deriving DecidableEq, Repr, Inhabited

/-- A channel of numbers: the buffered items in order, how many fit, whether it is
closed, and the numbers handed to receivers not yet picked up (by the receiver's
ticket; nothing for a receiver that met the end). -/
structure Channel where
  items : List Int := []
  capacity : Nat
  closed : Bool := false
  handed : List (Nat × Option Int) := []
  deriving Inhabited

/-- A started child: still to be collected, or collected by a wait. -/
inductive ChildPhase where
  | live
  | collected
  deriving DecidableEq, Repr, Inhabited

/-- A terminal handle: how many closes of it have begun (the first one releases the
descriptor, the others wait for it), what that close answered once it is done, the
deadlines its owner set, in microseconds of the machine clock, and which of its locks are
held: one for each direction, held by the read or write under way, and one held while the
owner's deadlines change. -/
structure HandleState where
  closes : Nat := 0
  closeResult : Option (Except Fault Unit) := none
  readDeadline : Option Int := none
  writeDeadline : Option Int := none
  readLocked : Bool := false
  writeLocked : Bool := false
  deadlinesLocked : Bool := false
  deriving Inhabited

/-- Whether a close of the handle has begun. -/
def HandleState.closed (s : HandleState) : Bool := s.closes != 0

/-- Whether the handle's lock for reading (`reading`) or for writing is held. -/
def HandleState.locked (s : HandleState) (reading : Bool) : Bool :=
  if reading then s.readLocked else s.writeLocked

/-- Take or release the handle's lock for reading (`reading`) or for writing. -/
def HandleState.setLocked (s : HandleState) (reading held : Bool) : HandleState :=
  if reading then { s with readLocked := held } else { s with writeLocked := held }

/-- A terminal pair no program has started on yet: its parent and child descriptors, how
many times they were asked for (only the first ask receives them), and how many resizes
are using them meanwhile (asking waits until none is). -/
structure PairState where
  parent : Nat
  child : Nat
  takes : Nat := 0
  resizing : Nat := 0
  deriving DecidableEq, Repr, Inhabited

/-- A session: whether its program was collected, the code it ended with, a failure of
waiting for it, and whether its output is draining. -/
structure SessionState where
  done : Bool := false
  exitCode : Int := -1
  fault : Option Fault := none
  draining : Bool := false
  deriving Inhabited

/-- How a session of a batch ended: its name, exit code (-1 when it did not run to
the end), the bytes of output copied, the time it took, and its failure. -/
structure SessionOutcome where
  name : String
  exitCode : Int := -1
  bytes : Nat := 0
  duration : Nat := 0
  fault : Option Fault := none
  deriving Inhabited

/-- A started child: its number, its record in the shared memory, and the caller's
descriptor holding on to it. -/
structure Child where
  pid : Nat
  key : Nat
  handle : Nat
  deriving DecidableEq, Repr, Inhabited

/-- The parent side of a terminal with a program on its child device: the descriptor,
its record in the shared memory, and the path of the child device. -/
structure Handle where
  fd : Nat
  key : Nat
  childPath : String
  deriving DecidableEq, Repr, Inhabited

/-- A program running on a terminal of its own: its name, its record in the shared
memory, the terminal's handle, the child, and the clock time it started at. -/
structure Session where
  name : String
  key : Nat
  term : Handle
  child : Child
  started : Nat
  deriving DecidableEq, Repr, Inhabited

/-- The shared memory of a controlling program. -/
structure Memory where
  next : Nat := 1
  contexts : Table ContextState := []
  watches : Table WatchPhase := []
  channels : Table Channel := []
  counters : Table Int := []
  children : Table ChildPhase := []
  pairs : Table PairState := []
  handles : Table HandleState := []
  sessions : Table SessionState := []
  registries : Table (Registry Session) := []
  buffers : Table ByteArray := []
  outcomes : Table SessionOutcome := []
  deriving Inhabited

namespace Memory

/-- Take the next key. -/
def take (m : Memory) : Memory := { m with next := m.next + 1 }

/-- End context `k` with `cause`, unless it has ended already, and with it every context
that hangs from it. -/
def endContext (m : Memory) (k : Nat) (cause : Fault) : Memory :=
  go (m.contexts.length + 1) [k] m
where
  /-- End the contexts of the work list and queue their children. -/
  go : Nat → List Nat → Memory → Memory
    | 0, _, m => m
    | _, [], m => m
    | fuel + 1, k :: rest, m =>
      match m.contexts.get? k with
      | some c =>
        if c.cause.isSome then go fuel rest m
        else
          let m := { m with contexts := m.contexts.modify k fun c => { c with cause := some cause } }
          let children := m.contexts.filterMap fun (j, c) => if c.parent == some k then some j else none
          go fuel (rest ++ children) m
      | none => go fuel rest m

/-- The cause context `k` ended with. -/
def causeOf (m : Memory) (k : Nat) : Option Fault := (m.contexts.get? k).bind (·.cause)

/-- The phase of watch `k`. -/
def phaseOf (m : Memory) (k : Nat) : WatchPhase := (m.watches.get? k).getD .stopped

/-- Set the phase of watch `k`. -/
def setPhase (m : Memory) (k : Nat) (p : WatchPhase) : Memory :=
  { m with watches := m.watches.modify k fun _ => p }

/-- Change channel `k`. -/
def modifyChannel (m : Memory) (k : Nat) (f : Channel → Channel) : Memory :=
  { m with channels := m.channels.modify k f }

/-- The value of counter `k`. -/
def counter (m : Memory) (k : Nat) : Int := (m.counters.get? k).getD 0

/-- Add to counter `k`. -/
def addCounter (m : Memory) (k : Nat) (d : Int) : Memory :=
  { m with counters := m.counters.modify k (· + d) }

/-- Change the record of terminal pair `k`. -/
def modifyPair (m : Memory) (k : Nat) (f : PairState → PairState) : Memory :=
  { m with pairs := m.pairs.modify k f }

/-- Whether no resize uses the descriptors of pair `k`. -/
def pairFree (k : Nat) (m : Memory) : Bool := (m.pairs.get? k).all (·.resizing == 0)

/-- Ask for the descriptors of pair `k`: one more ask. -/
def claimPair (k : Nat) (m : Memory) : Memory :=
  m.modifyPair k fun s => { s with takes := s.takes + 1 }

/-- Begin a resize of pair `k`, unless its descriptors were asked for. -/
def beginResize (k : Nat) (m : Memory) : Memory :=
  m.modifyPair k fun s => if s.takes == 0 then { s with resizing := s.resizing + 1 } else s

/-- End a resize of pair `k`. -/
def endResize (k : Nat) (m : Memory) : Memory :=
  m.modifyPair k fun s => { s with resizing := s.resizing - 1 }

/-- The state of terminal handle `k`. -/
def handle (m : Memory) (k : Nat) : HandleState := (m.handles.get? k).getD {}

/-- Change terminal handle `k`. -/
def modifyHandle (m : Memory) (k : Nat) (f : HandleState → HandleState) : Memory :=
  { m with handles := m.handles.modify k f }

/-- Begin a close of handle `k`: one more close. -/
def beginClose (k : Nat) (m : Memory) : Memory :=
  m.modifyHandle k fun s => { s with closes := s.closes + 1 }

/-- Record what the close of handle `k` answered. -/
def finishClose (k : Nat) (result : Except Fault Unit) (m : Memory) : Memory :=
  m.modifyHandle k fun s => { s with closeResult := some result }

/-- Take the lock of handle `k` for reading (`reading`) or for writing, unless a close of
the handle has begun. -/
def lockHandle (k : Nat) (reading : Bool) (m : Memory) : Memory :=
  if (m.handle k).closed then m else m.modifyHandle k (·.setLocked reading true)

/-- Release the lock of handle `k` for reading (`reading`) or for writing. -/
def unlockHandle (k : Nat) (reading : Bool) (m : Memory) : Memory :=
  m.modifyHandle k (·.setLocked reading false)

/-- Take or release the lock of the deadlines of handle `k`. -/
def setDeadlinesLocked (k : Nat) (held : Bool) (m : Memory) : Memory :=
  m.modifyHandle k fun s => { s with deadlinesLocked := held }

/-- Record the deadline the owner of handle `k` set for reading (`reading`) or writing. -/
def recordDeadline (k : Nat) (reading : Bool) (at? : Option Int) (m : Memory) : Memory :=
  m.modifyHandle k fun s => if reading then { s with readDeadline := at? } else { s with writeDeadline := at? }

/-- The state of session `k`. -/
def session (m : Memory) (k : Nat) : SessionState := (m.sessions.get? k).getD {}

/-- Change session `k`. -/
def modifySession (m : Memory) (k : Nat) (f : SessionState → SessionState) : Memory :=
  { m with sessions := m.sessions.modify k f }

/-- Registry `k`. -/
def registry (m : Memory) (k : Nat) : Registry Session := (m.registries.get? k).getD {}

/-- Change registry `k`. -/
def modifyRegistry (m : Memory) (k : Nat) (f : Registry Session → Registry Session) : Memory :=
  { m with registries := m.registries.modify k f }

/-- The bytes of buffer `k`. -/
def buffer (m : Memory) (k : Nat) : ByteArray := (m.buffers.get? k).getD .empty

end Memory

/-- Apply a transition to the shared memory and read something off the result. -/
def change {α : Type} (f : Memory → Memory) (read : Memory → α) : Prog Memory α := do
  let m ← Sys.update f
  pure (read m)

/-- Read the shared memory. -/
def inspect {α : Type} (read : Memory → α) : Prog Memory α := change id read

/-- Make a new record: `make k m` stores it under the fresh key `k`, which is answered. -/
def create (make : Nat → Memory → Memory) : Prog Memory Nat :=
  change (fun m => make m.next m.take) (·.next - 1)

end PseudoTerm.Control
