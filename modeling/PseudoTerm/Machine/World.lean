import PseudoTerm.Machine.Tree
import PseudoTerm.Terminal.Line

/-!
# The state of a machine

A machine holds processes, the open files their descriptors refer to, pipes, pseudo
terminals, the file tree and a clock in microseconds.

Each process has identities (its own number, its parent's, its group's and its
session's), a controlling terminal, a descriptor table, a working directory, how it
treats each signal, the caught signals waiting for it, and its threads, which share
its memory.  An ended process stays as a zombie until its parent waits for it; the
children of an ended process pass to process 1, which waits for them at once.

An open file is shared by every descriptor that refers to it and is released when the
last one goes.  Releasing the last opening of a terminal's child side lets the parent
side read the end of the output; releasing the parent side hangs the terminal up: the
session leader gets `HUP` and `CONT`, and the child side reads nothing and refuses
writes from then on.

Signals sent while a request is carried out wait in a queue and are delivered right
after it, in order.
-/

namespace PseudoTerm.Machine

open PseudoTerm.Terminal

/-- What an open file refers to. -/
inductive Endpoint where
  | node (n : Nat)
  | null
  | zero
  | full
  | random
  | parentSide (t : Nat)
  | childSide (t : Nat)
  | pipeReader (p : Nat)
  | pipeWriter (p : Nat)
  | descriptors
  | terminals
  | processHandle (pid : Nat)
  deriving DecidableEq, Repr, Inhabited

/-- An open file. -/
structure OpenFile where
  endpoint : Endpoint
  readable : Bool
  writable : Bool
  append : Bool := false
  nonBlocking : Bool := false
  offset : Nat := 0
  refs : Nat := 1
  deriving Repr, Inhabited

/-- A descriptor: the open file it refers to, whether it closes on exec, and the
deadlines of waiting for it. -/
structure Descriptor where
  file : Nat
  closeOnExec : Bool := false
  readDeadline : Option Int := none
  writeDeadline : Option Int := none
  deriving Repr, Inhabited

/-- A pipe. -/
structure Pipe where
  buffer : ByteArray := .empty
  readers : Nat := 0
  writers : Nat := 0
  deriving Inhabited

/-- The bytes a pipe holds before its writers wait. -/
def pipeCapacity : Nat := 65536

/-- A pseudo terminal. -/
structure Pty where
  /-- Its number among the terminal child devices. -/
  index : Nat
  line : Line := .fresh .initial
  window : Window := {}
  locked : Bool := true
  parentOpen : Bool := true
  /-- Openings of the child side not yet released. -/
  childOpens : Nat := 0
  /-- The child side was released since it was last opened. -/
  childClosed : Bool := false
  /-- The parent side was released: the child side is hung up. -/
  hungUp : Bool := false
  session : Option Nat := none
  foreground : Option Nat := none
  deriving Inhabited

/-- A thread: its number and the rest of its program. -/
structure Thread (μ : Type) where
  id : Nat
  prog : Prog μ Unit

/-- Whether a process runs, is stopped, or has ended. -/
inductive Life where
  | running
  | stopped
  | zombie (s : ExitStatus)
  deriving DecidableEq, Repr, Inhabited

/-- A process. -/
structure Process (μ : Type) where
  pid : Nat
  ppid : Nat
  pgid : Nat
  sid : Nat
  terminal : Option Nat := none
  fds : List (Nat × Descriptor) := []
  cwd : String := "/"
  dispositions : List (Nat × Disposition) := []
  pending : List Nat := []
  life : Life := .running
  threads : List (Thread μ) := []
  memory : μ
  fileLimit : Nat := 1024
  /-- The thread whose end ends the process. -/
  leader : Nat := 0
  /-- The path of the image it runs. -/
  image : String := ""

/-- The programs a machine can run, by image name, and the memory a new image
starts with. -/
structure Invocation where
  path : String
  args : List String
  env : List String
  deriving Repr, Inhabited

/-- The images a machine knows. -/
structure Catalog (μ : Type) where
  initial : μ
  image : String → Option (Invocation → Prog μ Unit)

/-- A machine. -/
structure World (μ : Type) where
  now : Nat := 0
  processes : List (Process μ) := []
  files : List (Nat × OpenFile) := []
  pipes : List (Nat × Pipe) := []
  ptys : List Pty := []
  tree : Tree := {}
  nextPid : Nat := 100
  nextFile : Nat := 1
  nextPipe : Nat := 1
  nextThread : Nat := 1
  /-- Signals to deliver after the current request: process and signal. -/
  signalQueue : List (Nat × Nat) := []

/-- Whether a process is alive (running or stopped). -/
def Process.alive {μ : Type} (p : Process μ) : Bool :=
  match p.life with
  | .zombie _ => false
  | _ => true

namespace World

variable {μ : Type}

/-- The process numbered `pid`. -/
def proc? (w : World μ) (pid : Nat) : Option (Process μ) := w.processes.find? (·.pid == pid)

/-- Change process `pid`. -/
def modifyProc (w : World μ) (pid : Nat) (f : Process μ → Process μ) : World μ :=
  { w with processes := w.processes.map fun (p : Process μ) => if p.pid == pid then f p else p }

/-- Forget process `pid`. -/
def dropProc (w : World μ) (pid : Nat) : World μ :=
  { w with processes := w.processes.filter (·.pid != pid) }

/-- The descriptor `fd` of process `pid`. -/
def descriptor? (w : World μ) (pid fd : Nat) : Option Descriptor :=
  (w.proc? pid).bind fun p => p.fds.lookup fd

/-- The open file numbered `id`. -/
def file? (w : World μ) (id : Nat) : Option OpenFile := w.files.lookup id

/-- Change open file `id`. -/
def modifyFile (w : World μ) (id : Nat) (f : OpenFile → OpenFile) : World μ :=
  { w with files := w.files.map fun (i, o) => if i == id then (i, f o) else (i, o) }

/-- The pseudo terminal numbered `t`. -/
def pty? (w : World μ) (t : Nat) : Option Pty := w.ptys.find? (·.index == t)

/-- Change pseudo terminal `t`. -/
def modifyPty (w : World μ) (t : Nat) (f : Pty → Pty) : World μ :=
  { w with ptys := w.ptys.map fun x => if x.index == t then f x else x }

/-- The pipe numbered `p`. -/
def pipe? (w : World μ) (p : Nat) : Option Pipe := w.pipes.lookup p

/-- Change pipe `p`. -/
def modifyPipe (w : World μ) (p : Nat) (f : Pipe → Pipe) : World μ :=
  { w with pipes := w.pipes.map fun (i, x) => if i == p then (i, f x) else (i, x) }

/-- The open file that descriptor `fd` of process `pid` refers to. -/
def openFileOf? (w : World μ) (pid fd : Nat) : Option (Nat × OpenFile) := do
  let d ← w.descriptor? pid fd
  let o ← w.file? d.file
  pure (d.file, o)

/-- Queue a signal for a process. -/
def queueSignal (w : World μ) (pid sig : Nat) : World μ :=
  { w with signalQueue := w.signalQueue ++ [(pid, sig)] }

/-- Queue a signal for every live member of a process group. -/
def queueGroupSignal (w : World μ) (pgid sig : Nat) : World μ :=
  (w.processes.filter (fun p => p.pgid == pgid && p.alive)).foldl
    (fun w p => w.queueSignal p.pid sig) w

/-- Register a new open file; answers its number. -/
def addFile (w : World μ) (o : OpenFile) : Nat × World μ :=
  (w.nextFile, { w with files := w.files ++ [(w.nextFile, o)], nextFile := w.nextFile + 1 })

/-- The lowest descriptor number of a process at or above `least` that is free. -/
def freeDescriptor (p : Process μ) (least : Nat) : Nat :=
  go (p.fds.length + 1) least
where
  /-- Try `n`, then the numbers after it. -/
  go : Nat → Nat → Nat
    | 0, n => n
    | fuel + 1, n => if (p.fds.lookup n).isSome then go fuel (n + 1) else n

/-- Give process `pid` a descriptor for open file `file`, at the lowest free number not
below `least`; too many open files when that number reaches the process's limit. -/
def bindDescriptor (w : World μ) (pid least file : Nat) (closeOnExec : Bool) :
    Except Errno (Nat × World μ) :=
  match w.proc? pid with
  | none => .error Errno.esrch
  | some p =>
    let fd := freeDescriptor p least
    if fd ≥ p.fileLimit then .error Errno.emfile
    else
      let d : Descriptor := { file, closeOnExec }
      let fds := ((fd, d) :: p.fds).mergeSort (fun a b => a.1 ≤ b.1)
      .ok (fd, w.modifyProc pid fun p => { p with fds })

/-- How many descriptors process `pid` can still open. -/
def room (w : World μ) (pid : Nat) : Nat :=
  match w.proc? pid with
  | none => 0
  | some p =>
    let limit := p.fileLimit
    (List.range limit).countP (fun n => (p.fds.lookup n).isNone)

/-- The effects of opening an endpoint once more. -/
def opened (w : World μ) : Endpoint → World μ
  | .childSide t => w.modifyPty t fun x => { x with childOpens := x.childOpens + 1, childClosed := false }
  | .pipeReader p => w.modifyPipe p fun x => { x with readers := x.readers + 1 }
  | .pipeWriter p => w.modifyPipe p fun x => { x with writers := x.writers + 1 }
  | _ => w

/-- Forget a pseudo terminal both of whose sides are released. -/
def collectPty (w : World μ) (t : Nat) : World μ :=
  match w.pty? t with
  | some x => if !x.parentOpen && x.childOpens == 0 then { w with ptys := w.ptys.filter (·.index != t) } else w
  | none => w

/-- Hang up the child side of a terminal whose parent side was released: the session
leader gets `HUP` and `CONT`, and the session loses the terminal. -/
def hangUp (w : World μ) (t : Nat) : World μ :=
  match w.pty? t with
  | none => w
  | some x =>
    let w := w.modifyPty t fun x => { x with parentOpen := false, hungUp := true, session := none, foreground := none }
    match x.session with
    | none => w
    | some sid =>
      let w := match w.proc? sid with
        | some leader => if leader.alive then (w.queueSignal sid sighup).queueSignal sid sigcont else w
        | none => w
      { w with processes := w.processes.map fun (p : Process μ) =>
          if p.sid == sid && p.terminal == some t then { p with terminal := none } else p }

/-- The effects of releasing an endpoint's last opening. -/
def released (w : World μ) : Endpoint → World μ
  | .childSide t =>
    let w := w.modifyPty t fun x =>
      let opens := x.childOpens - 1
      { x with childOpens := opens, childClosed := x.childClosed || opens == 0 }
    w.collectPty t
  | .parentSide t => (w.hangUp t).collectPty t
  | .pipeReader p =>
    let w := w.modifyPipe p fun x => { x with readers := x.readers - 1 }
    match w.pipe? p with
    | some x => if x.readers == 0 && x.writers == 0 then { w with pipes := w.pipes.filter (·.1 != p) } else w
    | none => w
  | .pipeWriter p =>
    let w := w.modifyPipe p fun x => { x with writers := x.writers - 1 }
    match w.pipe? p with
    | some x => if x.readers == 0 && x.writers == 0 then { w with pipes := w.pipes.filter (·.1 != p) } else w
    | none => w
  | _ => w

/-- Drop one reference to an open file, releasing it with the last. -/
def unref (w : World μ) (id : Nat) : World μ :=
  match w.file? id with
  | none => w
  | some o =>
    if o.refs ≤ 1 then
      let w := { w with files := w.files.filter (·.1 != id) }
      w.released o.endpoint
    else w.modifyFile id fun o => { o with refs := o.refs - 1 }

/-- Add one reference to an open file. -/
def addRef (w : World μ) (id : Nat) : World μ := w.modifyFile id fun o => { o with refs := o.refs + 1 }

/-- Close descriptor `fd` of process `pid`. -/
def closeDescriptor (w : World μ) (pid fd : Nat) : Except Errno (World μ) :=
  match w.descriptor? pid fd with
  | none => .error Errno.ebadf
  | some d =>
    let w := w.modifyProc pid fun p => { p with fds := p.fds.filter (·.1 != fd) }
    .ok (w.unref d.file)

/-- A session leader gives up its controlling terminal: when it ends, the terminal's
foreground group gets `HUP`; the session's processes lose the terminal. -/
def disassociate (w : World μ) (sid t : Nat) (ending : Bool) : World μ :=
  match w.pty? t with
  | none => w
  | some x =>
    let w := match x.foreground with
      | some g =>
        let w := w.queueGroupSignal g sighup
        if ending then w else w.queueGroupSignal g sigcont
      | none => w
    let w := w.modifyPty t fun x => { x with session := none, foreground := none }
    { w with processes := w.processes.map fun (p : Process μ) => if p.sid == sid then { p with terminal := none } else p }

/-- End process `pid` with a status: its descriptors are closed, a session leader's
terminal is let go, its children pass to process 1, and it waits as a zombie for its
parent (or vanishes, when its parent is process 1). -/
def finish (w : World μ) (pid : Nat) (status : ExitStatus) : World μ :=
  match w.proc? pid with
  | none => w
  | some p =>
    if !p.alive then w
    else
      let w := w.modifyProc pid fun p => { p with fds := [], threads := [], life := .zombie status, pending := [] }
      let w := p.fds.foldl (fun w (_, d) => w.unref d.file) w
      let w := if p.pid == p.sid then
          match p.terminal with
          | some t => w.disassociate p.sid t true
          | none => w
        else w
      -- children pass to process 1, which takes their ended ones at once
      let orphans := w.processes.filter (·.ppid == pid)
      let w := orphans.foldl (fun w c =>
        if c.alive then w.modifyProc c.pid fun c => { c with ppid := 1 } else w.dropProc c.pid) w
      let w := if p.ppid == 1 then w.dropProc pid else w
      w.queueSignal p.ppid sigchld

/-- How process `pid` treats signal `sig`. -/
def dispositionOf (p : Process μ) (sig : Nat) : Disposition :=
  (p.dispositions.lookup sig).getD .byDefault

/-- Deliver one signal to a process. -/
def deliver (w : World μ) (pid sig : Nat) : World μ :=
  match w.proc? pid with
  | none => w
  | some p =>
    if !p.alive || sig == 0 then w
    else
      let d := if signalChoosable sig then dispositionOf p sig else .byDefault
      -- continuing happens whatever the disposition
      let w := if sig == sigcont && p.life == .stopped then w.modifyProc pid fun p => { p with life := .running } else w
      match d with
      | .ignore => w
      | .catch => w.modifyProc pid fun p => { p with pending := p.pending ++ [sig] }
      | .byDefault =>
        match defaultEffect sig with
        | .terminate => w.finish pid (.killed sig)
        | .stop => w.modifyProc pid fun p => { p with life := .stopped }
        | .resume => w
        | .drop => w

/-- Deliver every queued signal, and the ones their delivery queues in turn. -/
def deliverQueued (w : World μ) : World μ :=
  go (w.processes.length * 8 + 16) w
where
  /-- One signal per round. -/
  go : Nat → World μ → World μ
    | 0, w => { w with signalQueue := [] }
    | fuel + 1, w =>
      match w.signalQueue with
      | [] => w
      | (pid, sig) :: rest => go fuel ({ w with signalQueue := rest }.deliver pid sig)

end World

end PseudoTerm.Machine
