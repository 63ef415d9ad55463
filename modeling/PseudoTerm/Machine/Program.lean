import PseudoTerm.Errno
import PseudoTerm.Machine.Signal
import PseudoTerm.Terminal.Window
import PseudoTerm.Terminal.Settings

/-!
# Programs and their requests

A running program is a resumption: either it has finished, or it waits for the answer
to one request to the machine and knows how to go on from every possible answer.  The
type of the answer depends on the request, so a program never has to handle an answer
of the wrong shape.

The requests are those of a Unix-like machine: descriptors (open, read, write,
duplicate, pipes), terminal controls (window size, settings, controlling terminal),
the file tree, processes (fork, exec, a fork-and-exec that sets up a session and
descriptors in one step, exit, wait, signals, sessions and groups), time, threads of
one process, and the memory `μ` the threads of a process share.

Threads share their process's memory through two requests: `update` changes it and
`await` waits until it satisfies a condition and then changes it, in one step; channels,
latches and locks are built from them.
-/

namespace PseudoTerm.Machine

open PseudoTerm.Terminal

/-- How a path is opened. -/
structure OpenFlags where
  read : Bool := true
  write : Bool := false
  create : Bool := false
  truncate : Bool := false
  append : Bool := false
  exclusive : Bool := false
  closeOnExec : Bool := false
  nonBlocking : Bool := false
  noControllingTerminal : Bool := false
  directory : Bool := false
  deriving DecidableEq, Repr, Inhabited

/-- The kind of a file. -/
inductive FileKind where
  | regular
  | directory
  | symlink
  | characterDevice
  | pipe
  deriving DecidableEq, Repr, Inhabited

/-- What the file tree tells about a file. -/
structure FileStatus where
  kind : FileKind
  mode : Nat
  size : Nat
  deriving DecidableEq, Repr, Inhabited

/-- What a descriptor's flags tell. -/
structure DescriptorInfo where
  readable : Bool
  writable : Bool
  nonBlocking : Bool
  closeOnExec : Bool
  append : Bool
  deriving DecidableEq, Repr, Inhabited

/-- The identities of a process. -/
structure Ids where
  pid : Nat
  ppid : Nat
  pgid : Nat
  sid : Nat
  deriving DecidableEq, Repr, Inhabited

/-- How a process ended. -/
inductive ExitStatus where
  | exited (code : Nat)
  | killed (signal : Nat)
  deriving DecidableEq, Repr, Inhabited

/-- The children a wait is for. -/
inductive WaitTarget where
  | any
  | child (pid : Nat)
  | group (pgid : Nat)
  deriving DecidableEq, Repr, Inhabited

/-- A program started in one step: the child is set up in order (new session, new
group, working directory, descriptors, giving up and taking a controlling terminal)
and then runs the image; the first failing step is the answer.  The caller needs room
for three descriptors meanwhile, and keeps one of them as a handle on the child: the
answer is the child's number and the handle's descriptor. -/
structure LaunchPlan where
  path : String
  args : List String
  env : List String
  dir : Option String := none
  /-- Descriptor `i` of the child is the caller's descriptor at index `i`. -/
  files : List Nat
  newSession : Bool := false
  newGroup : Bool := false
  dropTerminal : Bool := false
  /-- The child descriptor that becomes the controlling terminal. -/
  takeTerminal : Option Nat := none
  deriving Repr, Inhabited

/-- How a wait for readiness ended. -/
inductive Readiness where
  | ready
  | timedOut
  | closed
  deriving DecidableEq, Repr, Inhabited

/-- A request to the machine. -/
inductive Request (μ : Type) where
  | openPath (path : String) (flags : OpenFlags) (mode : Nat)
  | close (fd : Nat)
  | read (fd : Nat) (max : Nat)
  | write (fd : Nat) (data : ByteArray)
  | duplicate (fd least : Nat) (closeOnExec : Bool)
  | duplicateTo (fd target : Nat)
  | setCloseOnExec (fd : Nat) (on : Bool)
  | describe (fd : Nat)
  | makePipe (closeOnExec : Bool)
  | terminalNumber (fd : Nat)
  | setLock (fd : Nat) (locked : Bool)
  | windowOf (fd : Nat)
  | setWindow (fd : Nat) (w : Window)
  | settingsOf (fd : Nat)
  | setSettings (fd : Nat) (s : Settings)
  | takeTerminal (fd : Nat) (steal : Bool)
  | dropTerminal (fd : Nat)
  | foregroundOf (fd : Nat)
  | setForeground (fd : Nat) (pgid : Nat)
  | status (path : String) (follow : Bool)
  | statusOf (fd : Nat)
  | canExecute (path : String)
  | listDirectory (path : String)
  | makeDirectory (path : String) (mode : Nat)
  | removeEntry (path : String) (directory : Bool)
  | rename (source target : String)
  | makeLink (target path : String) (symbolic : Bool)
  | setMode (path : String) (mode : Nat)
  | readLink (path : String)
  | changeDirectory (path : String)
  | workingDirectory
  | fork
  | exec (path : String) (args env : List String)
  | launch (plan : LaunchPlan)
  | exit (code : Nat)
  | endThread
  | startThread
  | wait (target : WaitTarget) (noHang : Bool)
  | signal (target : Int) (sig : Nat)
  | identity
  | identityOf (pid : Nat)
  | newSession
  | setGroup (pid pgid : Nat)
  | setDisposition (sig : Nat) (d : Disposition)
  | awaitSignal (sigs : List Nat)
  | fileLimit
  | setFileLimit (n : Nat)
  | now
  | sleepUntil (t : Nat)
  | setDeadline (fd : Nat) (reading : Bool) (at? : Option Int)
  | deadlinePassed (fd : Nat) (reading : Bool)
  | awaitReady (fd : Nat) (reading : Bool)
  | update (f : μ → μ)
  | await (ready : μ → Bool) (f : μ → μ)

/-- The type of the answer to a request. -/
def Request.Answer {μ : Type} : Request μ → Type
  | .openPath .. => Except Errno Nat
  | .close _ => Except Errno Unit
  | .read .. => Except Errno ByteArray
  | .write .. => Except Errno Nat
  | .duplicate .. => Except Errno Nat
  | .duplicateTo .. => Except Errno Unit
  | .setCloseOnExec .. => Except Errno Unit
  | .describe _ => Except Errno DescriptorInfo
  | .makePipe _ => Except Errno (Nat × Nat)
  | .terminalNumber _ => Except Errno Nat
  | .setLock .. => Except Errno Unit
  | .windowOf _ => Except Errno Window
  | .setWindow .. => Except Errno Unit
  | .settingsOf _ => Except Errno Settings
  | .setSettings .. => Except Errno Unit
  | .takeTerminal .. => Except Errno Unit
  | .dropTerminal _ => Except Errno Unit
  | .foregroundOf _ => Except Errno Nat
  | .setForeground .. => Except Errno Unit
  | .status .. => Except Errno FileStatus
  | .statusOf _ => Except Errno FileStatus
  | .canExecute _ => Except Errno Unit
  | .listDirectory _ => Except Errno (List String)
  | .makeDirectory .. => Except Errno Unit
  | .removeEntry .. => Except Errno Unit
  | .rename .. => Except Errno Unit
  | .makeLink .. => Except Errno Unit
  | .setMode .. => Except Errno Unit
  | .readLink _ => Except Errno String
  | .changeDirectory _ => Except Errno Unit
  | .workingDirectory => String
  | .fork => Except Errno Nat
  | .exec .. => Errno
  | .launch _ => Except Errno (Nat × Nat)
  | .exit _ => Empty
  | .endThread => Empty
  | .startThread => Bool
  | .wait .. => Except Errno (Option (Nat × ExitStatus))
  | .signal .. => Except Errno Unit
  | .identity => Ids
  | .identityOf _ => Except Errno Ids
  | .newSession => Except Errno Nat
  | .setGroup .. => Except Errno Unit
  | .setDisposition .. => Except Errno Disposition
  | .awaitSignal _ => Nat
  | .fileLimit => Nat
  | .setFileLimit _ => Except Errno Unit
  | .now => Nat
  | .sleepUntil _ => Unit
  | .setDeadline .. => Except Errno Unit
  | .deadlinePassed .. => Except Errno Bool
  | .awaitReady .. => Readiness
  | .update _ => μ
  | .await .. => μ

/-- A program with shared memory `μ` and result `α`. -/
inductive Prog (μ : Type) (α : Type) where
  | pure (a : α)
  | call (r : Request μ) (next : r.Answer → Prog μ α)

namespace Prog

variable {μ α β : Type}

/-- Run one program and go on with another from its result. -/
def bind : Prog μ α → (α → Prog μ β) → Prog μ β
  | .pure a, f => f a
  | .call r next, f => .call r (fun x => (next x).bind f)

instance : Monad (Prog μ) where
  pure := .pure
  bind := bind

instance : Inhabited (Prog μ Unit) := ⟨.pure ()⟩

/-- A program that makes one request and answers its answer. -/
def lift (r : Request μ) : Prog μ r.Answer := .call r .pure

end Prog

end PseudoTerm.Machine
