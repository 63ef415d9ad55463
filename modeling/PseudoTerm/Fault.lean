import PseudoTerm.Errno
import PseudoTerm.Setup.Step
import PseudoTerm.Text.Quoted

/-!
# Faults

A `Fault` is the cause of a failed operation, as a chain: an outer cause names what was
being done (opening a path, a system call, starting a program, a setup step) and wraps
the inner cause, down to an error number or a plain text.  The message of a chain is
read from the outside in, each layer adding its words before the inner message.

Questions asked about a chain look through every layer: the first error number, the
first setup step, and whether a given sentinel cause (a closed file, a consumed pair, an
expired deadline) occurs anywhere in it.
-/

namespace PseudoTerm

/-- The cause of a failed operation. -/
inductive Fault where
  /-- A system call failed with an error number. -/
  | errno (e : Errno)
  /-- A cause given only by its text. -/
  | text (message : String)
  /-- An operation on a named path failed: `op path: cause`. -/
  | path (op path : String) (cause : Fault)
  /-- A named system call failed: `name: cause`. -/
  | syscall (name : String) (cause : Fault)
  /-- A program could not be found or started: `exec: "name": cause`. -/
  | exec (name : String) (cause : Fault)
  /-- A cause with words put before it: `context: cause`. -/
  | wrap (context : String) (cause : Fault)
  /-- The file was closed before the operation. -/
  | closed
  /-- The pseudo terminal pair was already spawned on or released. -/
  | pairConsumed
  /-- No item has the requested id. -/
  | notFound
  /-- The session's program has already exited. -/
  | notRunning
  /-- The stream ended. -/
  | endOfStream
  /-- The stream ended inside a record. -/
  | unexpectedEnd
  /-- The operation was cancelled. -/
  | canceled
  /-- The operation's time ran out. -/
  | deadlineExceeded
  /-- A descriptor deadline passed while waiting. -/
  | timedOut
  /-- No directory of the search path holds the program. -/
  | notInSearchPath
  /-- A writer accepted fewer bytes than it was given. -/
  | shortWrite
  /-- A step of allocating a pseudo terminal failed. -/
  | allocate (step : AllocStep) (cause : Fault)
  /-- A step of starting a program on a pseudo terminal failed. -/
  | spawn (step : SpawnStep) (cause : Fault)
  /-- Changing the window size failed. -/
  | resize (cause : Fault)
  deriving Repr, Inhabited, DecidableEq

namespace Fault

/-- The text of an allocation failure for its step. -/
def allocateText (step : AllocStep) (inner : String) : String :=
  match step.index with
  | 0 => "failed to open new pseudo terminal: " ++ inner
  | 1 => "failed to grant permissions on child terminal device: " ++ inner
  | 2 => "failed to unlock child terminal device: " ++ inner
  | 3 => "failed to get name of child terminal device: " ++ inner
  | 4 => "failed to open child terminal device: " ++ inner
  | _ => "failed to allocate pseudo terminal (" ++ step.name ++ "): " ++ inner

/-- The text of a spawn failure for its step. -/
def spawnText (step : SpawnStep) (inner : String) : String :=
  match step.byte.toNat with
  | 1 => "failed to duplicate file descriptor for standard I/O stream: " ++ inner
  | 2 => "failed to create new process group: " ++ inner
  | 3 => "failed to set controlling terminal for new process group: " ++ inner
  | 4 => "failed to spawn child process: " ++ inner
  | 5 => "failed to register pseudo terminal file descriptor with the runtime poller: " ++ inner
  | _ => "failed to spawn (" ++ step.name ++ "): " ++ inner

/-- The message of a fault, outer layers first. -/
def message : Fault → String
  | errno e => e.text
  | text s => s
  | path op p cause => op ++ " " ++ p ++ ": " ++ cause.message
  | syscall name cause => name ++ ": " ++ cause.message
  | exec name cause => "exec: " ++ Text.quote name ++ ": " ++ cause.message
  | wrap context cause => context ++ ": " ++ cause.message
  | closed => "file already closed"
  | pairConsumed => "pty pair already consumed"
  | notFound => "item not found"
  | notRunning => "session is not running"
  | endOfStream => "EOF"
  | unexpectedEnd => "unexpected EOF"
  | canceled => "context canceled"
  | deadlineExceeded => "context deadline exceeded"
  | timedOut => "i/o timeout"
  | notInSearchPath => "executable file not found in $PATH"
  | shortWrite => "short write"
  | allocate step cause => allocateText step cause.message
  | spawn step cause => spawnText step cause.message
  | resize cause => "failed to resize terminal device: " ++ cause.message

/-- The cause directly inside a layer, if the layer wraps one. -/
def inner? : Fault → Option Fault
  | path _ _ cause => some cause
  | syscall _ cause => some cause
  | exec _ cause => some cause
  | wrap _ cause => some cause
  | allocate _ cause => some cause
  | spawn _ cause => some cause
  | resize cause => some cause
  | _ => none

/-- The first error number in the chain, outermost first. -/
def errno? : Fault → Option Errno
  | errno e => some e
  | path _ _ cause => cause.errno?
  | syscall _ cause => cause.errno?
  | exec _ cause => cause.errno?
  | wrap _ cause => cause.errno?
  | allocate _ cause => cause.errno?
  | spawn _ cause => cause.errno?
  | resize cause => cause.errno?
  | _ => none

/-- Whether some layer of the chain satisfies `p`. -/
def occurs (p : Fault → Bool) : Fault → Bool
  | f@(path _ _ cause) => p f || occurs p cause
  | f@(syscall _ cause) => p f || occurs p cause
  | f@(exec _ cause) => p f || occurs p cause
  | f@(wrap _ cause) => p f || occurs p cause
  | f@(allocate _ cause) => p f || occurs p cause
  | f@(spawn _ cause) => p f || occurs p cause
  | f@(resize cause) => p f || occurs p cause
  | f => p f

/-- Whether the chain holds the closed-file cause. -/
def isClosed (f : Fault) : Bool := f.occurs (· == closed)

/-- Whether the chain holds the consumed-pair cause. -/
def isPairConsumed (f : Fault) : Bool := f.occurs (· == pairConsumed)

/-- Whether the chain holds an expired descriptor deadline. -/
def isTimeout (f : Fault) : Bool := f.occurs (· == timedOut)

/-- The first setup step named in the chain, as its name. -/
def stepName? : Fault → Option String
  | allocate step _ => some step.name
  | spawn step _ => some step.name
  | path _ _ cause => cause.stepName?
  | syscall _ cause => cause.stepName?
  | exec _ cause => cause.stepName?
  | wrap _ cause => cause.stepName?
  | resize cause => cause.stepName?
  | _ => none

/-- The step charged with a failure to start a program when only its error number is
known: `EPERM` comes from creating the session, `ENOTTY` from taking the controlling
terminal, and everything else (no error number included) from starting the program. -/
def startStep (f : Fault) : SpawnStep :=
  match f.errno? with
  | some e =>
    if e == Errno.eperm then .createSession
    else if e == Errno.enotty then .setControllingTerminal
    else .startProgram
  | none => .startProgram

end Fault

end PseudoTerm
