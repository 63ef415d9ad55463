import PseudoTerm.Machine.World

/-!
# Carrying out requests

Each request of a process is carried out against the machine, or found unable to go
on yet.  Descriptor numbers are the lowest free ones, and a process at its descriptor
limit gets `EMFILE` before anything else happens.

Reading blocks on an empty pipe with writers, on a terminal side with nothing to read,
and a blocking write on a full pipe or on a terminal whose output is stopped; a
non-blocking descriptor answers `EAGAIN` instead.  The parent side of a terminal reads
what the child side wrote, and `EIO` once nothing is left and every opening of the
child side is released.  The child side reads typed input through the line
discipline, and reads nothing once the terminal is hung up.

A child side opened by a session leader without a controlling terminal becomes its
controlling terminal, unless the opening says otherwise or the terminal belongs to a
session already.
-/

namespace PseudoTerm.Machine

open PseudoTerm.Terminal

namespace World

variable {μ : Type}

/-- The lowest pseudo terminal number not in use. -/
def freePtyIndex (w : World μ) : Nat :=
  go (w.ptys.length + 1) 0
where
  /-- Try `n`, then the numbers after it. -/
  go : Nat → Nat → Nat
    | 0, n => n
    | fuel + 1, n => if (w.pty? n).isSome then go fuel (n + 1) else n

/-- Make the child side of terminal `t` the controlling terminal of process `pid`, if
it is a session leader without one and the terminal belongs to no session. -/
def adoptTerminal (w : World μ) (pid t : Nat) : World μ :=
  match w.proc? pid, w.pty? t with
  | some p, some x =>
    if p.pid == p.sid && p.terminal.isNone && x.session.isNone then
      let w := w.modifyPty t fun x => { x with session := some p.sid, foreground := some p.pgid }
      w.modifyProc pid fun p => { p with terminal := some t }
    else w
  | _, _ => w

/-- Open an endpoint for process `pid` and bind it to the lowest free descriptor. -/
def openEndpoint (w : World μ) (pid : Nat) (e : Endpoint) (flags : OpenFlags) :
    Except Errno (Nat × World μ) :=
  let file : OpenFile :=
    { endpoint := e, readable := flags.read, writable := flags.write, append := flags.append,
      nonBlocking := flags.nonBlocking }
  let (id, w) := w.addFile file
  let w := w.opened e
  match w.bindDescriptor pid 0 id flags.closeOnExec with
  | .ok r => .ok r
  | .error err => .error err

/-- Open the child side of terminal `t`. -/
def openChildSide (w : World μ) (pid t : Nat) (flags : OpenFlags) : Except Errno (Nat × World μ) :=
  match w.pty? t with
  | none => .error Errno.enoent
  | some x =>
    if x.locked || !x.parentOpen then .error Errno.eio
    else do
      let (fd, w) ← w.openEndpoint pid (.childSide t) flags
      pure (fd, if flags.noControllingTerminal then w else w.adoptTerminal pid t)

/-- Open a path for process `pid`. -/
def openPath (w : World μ) (pid : Nat) (path : String) (flags : OpenFlags) (mode : Nat) :
    Except Errno (Nat × World μ) := do
  let p ← (w.proc? pid).elim (.error Errno.esrch) .ok
  if freeDescriptor p 0 ≥ p.fileLimit then throw Errno.emfile
  match w.tree.locate p.cwd path with
  | .error e =>
    if e == Errno.enoent && flags.create then
      let (dir, name) ← w.tree.parentOf p.cwd path
      let (tree, n) := w.tree.attach dir name (.file .empty (mode - (mode &&& 0o022)))
      { w with tree }.openEndpoint pid (.node n) flags
    else throw e
  | .ok place =>
    if flags.create && flags.exclusive then throw Errno.eexist
    match place with
    | .terminal t => w.openChildSide pid t flags
    | .descriptor fd =>
      match w.openFileOf? pid fd with
      | none => throw Errno.enoent
      | some (_, o) =>
        match o.endpoint with
        | .childSide t => w.openChildSide pid t flags
        | .parentSide _ => throw Errno.eio
        | e => w.openEndpoint pid e flags
    | .node n =>
      match w.tree.get? n with
      | some (.directory ..) =>
        if flags.write then throw Errno.eisdir
        else w.openEndpoint pid (.node n) ({ flags with write := false } : OpenFlags)
      | some (.file _ m) =>
        if flags.directory then throw Errno.enotdir
        let w := if flags.truncate && flags.write then { w with tree := w.tree.set n (.file .empty m) } else w
        w.openEndpoint pid (.node n) flags
      | some (.program ..) =>
        if flags.directory then throw Errno.enotdir
        if flags.write then throw ⟨26⟩
        w.openEndpoint pid (.node n) flags
      | some (.link _) => throw ⟨40⟩
      | some (.device d) =>
        match d with
        | .null => w.openEndpoint pid .null flags
        | .zero => w.openEndpoint pid .zero flags
        | .full => w.openEndpoint pid .full flags
        | .random => w.openEndpoint pid .random flags
        | .terminalMaker =>
          let t := w.freePtyIndex
          let w := { w with ptys := w.ptys ++ [({ index := t } : Pty)] }
          w.openEndpoint pid (.parentSide t) flags
        | .ownTerminal =>
          match p.terminal with
          | some t => w.openChildSide pid t ({ flags with noControllingTerminal := true } : OpenFlags)
          | none => throw Errno.enxio
        | .terminalDirectory => w.openEndpoint pid .terminals ({ flags with write := false } : OpenFlags)
        | .descriptorDirectory => w.openEndpoint pid .descriptors ({ flags with write := false } : OpenFlags)
      | none => throw Errno.enoent

/-- Some pseudo-random bytes, the same ones every time. -/
def noise (n : Nat) : ByteArray :=
  ⟨(List.range n).toArray.map fun i => ((i * 2654435761 + 40503) % 251).toUInt8⟩

/-- The outcome of trying a request that may have to wait: its answer and the new
machine, or nothing yet. -/
abbrev Try (μ α : Type) := Option (α × World μ)

/-- Read at most `max` bytes from descriptor `fd` of process `pid`. -/
def readFd (w : World μ) (pid fd max : Nat) : Try μ (Except Errno ByteArray) :=
  match w.openFileOf? pid fd with
  | none => some (.error Errno.ebadf, w)
  | some (id, o) =>
    let blockOr (w : World μ) : Try μ (Except Errno ByteArray) :=
      if o.nonBlocking then some (.error Errno.eagain, w) else none
    if !o.readable then some (.error Errno.ebadf, w)
    else match o.endpoint with
    | .node n =>
      match w.tree.get? n with
      | some (.file data _) =>
        let chunk := data.extract o.offset (o.offset + max)
        some (.ok chunk, w.modifyFile id fun o => { o with offset := o.offset + chunk.size })
      | some (.program ..) => some (.ok .empty, w)
      | _ => some (.error Errno.eisdir, w)
    | .null => some (.ok .empty, w)
    | .zero | .full => some (.ok ⟨Array.replicate (min max 65536) 0⟩, w)
    | .random => some (.ok (noise (min max 65536)), w)
    | .parentSide t =>
      match w.pty? t with
      | none => some (.error Errno.eio, w)
      | some x =>
        if max == 0 then some (.ok .empty, w)
        else if x.line.output.size > 0 then
          let (data, line) := x.line.takeOutput max
          some (.ok data, w.modifyPty t fun x => { x with line })
        else if x.childClosed then some (.error Errno.eio, w)
        else blockOr w
    | .childSide t =>
      match w.pty? t with
      | none => some (.ok .empty, w)
      | some x =>
        if x.hungUp || max == 0 then some (.ok .empty, w)
        else if x.line.inputReady max then
          let (data, line) := x.line.takeInput max
          some (.ok data, w.modifyPty t fun x => { x with line })
        else blockOr w
    | .pipeReader p =>
      match w.pipe? p with
      | none => some (.ok .empty, w)
      | some x =>
        if max == 0 then some (.ok .empty, w)
        else if x.buffer.size > 0 then
          let n := min max x.buffer.size
          let data := x.buffer.extract 0 n
          some (.ok data, w.modifyPipe p fun x => { x with buffer := x.buffer.extract n x.buffer.size })
        else if x.writers == 0 then some (.ok .empty, w)
        else blockOr w
    | .pipeWriter _ => some (.error Errno.ebadf, w)
    | .descriptors | .terminals => some (.error Errno.eisdir, w)
    | .processHandle _ => some (.error Errno.einval, w)

/-- Write bytes to descriptor `fd` of process `pid`; a pipe takes what fits. -/
def writeFd (w : World μ) (pid fd : Nat) (data : ByteArray) : Try μ (Except Errno Nat) :=
  match w.openFileOf? pid fd with
  | none => some (.error Errno.ebadf, w)
  | some (id, o) =>
    let blockOr (w : World μ) : Try μ (Except Errno Nat) :=
      if o.nonBlocking then some (.error Errno.eagain, w) else none
    if !o.writable then some (.error Errno.ebadf, w)
    else if data.size == 0 then some (.ok 0, w)
    else match o.endpoint with
    | .node n =>
      match w.tree.get? n with
      | some (.file old m) =>
        let pos := if o.append then old.size else o.offset
        let before := old.extract 0 pos
        let pad : ByteArray := ⟨Array.replicate (pos - old.size) 0⟩
        let after := old.extract (pos + data.size) old.size
        let updated := before ++ pad ++ data ++ after
        let w := { w with tree := w.tree.set n (.file updated m) }
        some (.ok data.size, w.modifyFile id fun o => { o with offset := pos + data.size })
      | _ => some (.error Errno.ebadf, w)
    | .null | .zero | .random => some (.ok data.size, w)
    | .full => some (.error Errno.enospc, w)
    | .parentSide t =>
      match w.pty? t with
      | none => some (.error Errno.eio, w)
      | some x =>
        let (line, signals) := x.line.receive data
        let w := w.modifyPty t fun x => { x with line }
        let w := match x.foreground with
          | some g => signals.foldl (fun w s => w.queueGroupSignal g s) w
          | none => w
        some (.ok data.size, w)
    | .childSide t =>
      match w.pty? t with
      | none => some (.error Errno.eio, w)
      | some x =>
        if x.hungUp then some (.error Errno.eio, w)
        else if x.line.stopped then blockOr w
        else some (.ok data.size, w.modifyPty t fun x => { x with line := x.line.transmit data })
    | .pipeWriter p =>
      match w.pipe? p with
      | none => some (.error Errno.epipe, w)
      | some x =>
        if x.readers == 0 then some (.error Errno.epipe, w.queueSignal pid sigpipe)
        else
          let space := pipeCapacity - x.buffer.size
          if space == 0 then blockOr w
          else
            let n := min space data.size
            some (.ok n, w.modifyPipe p fun x => { x with buffer := x.buffer ++ data.extract 0 n })
    | _ => some (.error Errno.ebadf, w)

/-- Duplicate descriptor `fd` to the lowest free number not below `least`. -/
def duplicate (w : World μ) (pid fd least : Nat) (closeOnExec : Bool) : Except Errno (Nat × World μ) :=
  match w.descriptor? pid fd with
  | none => .error Errno.ebadf
  | some d => do
    let (n, w) ← w.bindDescriptor pid least d.file closeOnExec
    pure (n, w.addRef d.file)

/-- Make descriptor `target` refer to what `fd` refers to, closing it first. -/
def duplicateTo (w : World μ) (pid fd target : Nat) : Except Errno (World μ) :=
  match w.descriptor? pid fd, w.proc? pid with
  | some d, some p =>
    if fd == target then .ok w
    else if target ≥ p.fileLimit then .error Errno.ebadf
    else
      let w := match w.closeDescriptor pid target with
        | .ok w => w
        | .error _ => w
      let w := w.modifyProc pid fun p =>
        { p with fds := ((target, ({ file := d.file } : Descriptor)) :: p.fds).mergeSort (fun a b => a.1 ≤ b.1) }
      .ok (w.addRef d.file)
  | _, _ => .error Errno.ebadf

/-- Make a pipe; answers its reading and writing descriptors. -/
def makePipe (w : World μ) (pid : Nat) (closeOnExec : Bool) : Except Errno ((Nat × Nat) × World μ) :=
  if w.room pid < 2 then .error Errno.emfile
  else do
    let p := w.nextPipe
    let w := { w with pipes := w.pipes ++ [(p, ({ readers := 1, writers := 1 } : Pipe))], nextPipe := p + 1 }
    let (r, w) := w.addFile { endpoint := .pipeReader p, readable := true, writable := false }
    let (wr, w) := w.addFile { endpoint := .pipeWriter p, readable := false, writable := true }
    let (rfd, w) ← w.bindDescriptor pid 0 r closeOnExec
    let (wfd, w) ← w.bindDescriptor pid 0 wr closeOnExec
    pure ((rfd, wfd), w)

/-- The terminal a descriptor refers to, and whether it is the parent side. -/
def terminalOf (w : World μ) (pid fd : Nat) : Except Errno (Nat × Bool) :=
  match w.openFileOf? pid fd with
  | none => .error Errno.ebadf
  | some (_, o) =>
    match o.endpoint with
    | .parentSide t => .ok (t, true)
    | .childSide t =>
      match w.pty? t with
      | some x => if x.hungUp then .error Errno.eio else .ok (t, false)
      | none => .error Errno.eio
    | _ => .error Errno.enotty

/-- Change the window size of a terminal; a change sends `WINCH` to its foreground
group. -/
def resizeTerminal (w : World μ) (t : Nat) (win : Window) : World μ :=
  match w.pty? t with
  | none => w
  | some x =>
    if x.window == win then w
    else
      let w := w.modifyPty t fun x => { x with window := win }
      match x.foreground with
      | some g => w.queueGroupSignal g sigwinch
      | none => w

/-- Take a terminal as controlling terminal (stealing it from another session when
asked, as the administrator may). -/
def takeTerminal (w : World μ) (pid fd : Nat) (steal : Bool) : Except Errno (World μ) := do
  let (t, parent) ← w.terminalOf pid fd
  let p ← (w.proc? pid).elim (.error Errno.esrch) .ok
  let x ← (w.pty? t).elim (.error Errno.eio) .ok
  if parent then throw Errno.eperm
  if p.pid == p.sid && x.session == some p.sid then return w
  if p.pid != p.sid || p.terminal.isSome then throw Errno.eperm
  let w ← match x.session with
    | some other =>
      if steal then
        pure { w with processes := w.processes.map fun (q : Process μ) =>
          if q.sid == other then { q with terminal := none } else q }
      else throw Errno.eperm
    | none => pure w
  let w := w.modifyPty t fun x => { x with session := some p.sid, foreground := some p.pgid }
  pure (w.modifyProc pid fun p => { p with terminal := some t })

/-- Give up the controlling terminal that a descriptor refers to. -/
def dropTerminal (w : World μ) (pid fd : Nat) : Except Errno (World μ) := do
  let (t, _) ← w.terminalOf pid fd
  let p ← (w.proc? pid).elim (.error Errno.esrch) .ok
  if p.terminal != some t then throw Errno.enotty
  if p.pid == p.sid then pure (w.disassociate p.sid t false)
  else pure (w.modifyProc pid fun p => { p with terminal := none })

/-- The status of what a place is. -/
def placeStatus (w : World μ) (pid : Nat) : Place → Except Errno FileStatus
  | .node n => match w.tree.get? n with
    | some node => .ok node.status
    | none => .error Errno.enoent
  | .terminal t => if (w.pty? t).isSome then .ok ⟨.characterDevice, 0o620, 0⟩ else .error Errno.enoent
  | .descriptor fd =>
    match w.openFileOf? pid fd with
    | none => .error Errno.enoent
    | some (_, o) =>
      match o.endpoint with
      | .node n => match w.tree.get? n with
        | some node => .ok node.status
        | none => .error Errno.enoent
      | .pipeReader _ | .pipeWriter _ => .ok ⟨.pipe, 0o600, 0⟩
      | .descriptors | .terminals => .ok ⟨.directory, 0o500, 0⟩
      | _ => .ok ⟨.characterDevice, 0o666, 0⟩

/-- The status of what a descriptor refers to. -/
def descriptorStatus (w : World μ) (pid fd : Nat) : Except Errno FileStatus :=
  if (w.descriptor? pid fd).isNone then .error Errno.ebadf
  else w.placeStatus pid (.descriptor fd)

/-- The names in a directory. -/
def listDirectory (w : World μ) (pid : Nat) (path : String) : Except Errno (List String) := do
  let p ← (w.proc? pid).elim (.error Errno.esrch) .ok
  if freeDescriptor p 0 ≥ p.fileLimit then throw Errno.emfile
  match ← w.tree.locate p.cwd path with
  | .node n =>
    match w.tree.get? n with
    | some (.directory entries _) => pure (entries.map (·.1))
    | some (.device .terminalDirectory) =>
      pure ("ptmx" :: (w.ptys.filter (!·.locked)).map (fun x => toString x.index))
    | some (.device .descriptorDirectory) =>
      -- the listing itself holds the lowest free descriptor
      let listed := (p.fds.map (·.1)) ++ [freeDescriptor p 0]
      pure ((listed.mergeSort (· ≤ ·)).map toString)
    | _ => throw Errno.enotdir
  | _ => throw Errno.enotdir

/-- Whether a node can be run: a program image or a file with an execute bit. -/
def nodeRunnable (w : World μ) (n : Nat) : Except Errno Unit :=
  match w.tree.get? n with
  | some (.program _ m) => if m &&& 0o111 != 0 then .ok () else .error Errno.eacces
  | some (.file _ m) => if m &&& 0o111 != 0 then .ok () else .error Errno.eacces
  | some _ => .error Errno.eacces
  | none => .error Errno.enoent

/-- The node a place runs, when it can be run. -/
def runnableNode (w : World μ) (pid : Nat) (place : Place) : Except Errno Nat :=
  match place with
  | .node n => (w.nodeRunnable n).map fun _ => n
  | .descriptor fd =>
    match w.openFileOf? pid fd with
    | some (_, { endpoint := .node n, .. }) => (w.nodeRunnable n).map fun _ => n
    | some _ => .error Errno.eacces
    | none => .error Errno.enoent
  | .terminal _ => .error Errno.eacces

/-- Change the working directory. -/
def changeDirectory (w : World μ) (pid : Nat) (path : String) : Except Errno (World μ) := do
  let p ← (w.proc? pid).elim (.error Errno.esrch) .ok
  match ← w.tree.locate p.cwd path with
  | .node n =>
    match w.tree.get? n with
    | some node =>
      if node.isDirectory then
        pure (w.modifyProc pid fun p => { p with cwd := Path.clean (Tree.fullPath p.cwd path) })
      else throw Errno.enotdir
    | none => throw Errno.enoent
  | _ => throw Errno.enotdir

/-- Make a directory. -/
def makeDirectory (w : World μ) (pid : Nat) (path : String) (mode : Nat) : Except Errno (World μ) := do
  let p ← (w.proc? pid).elim (.error Errno.esrch) .ok
  match w.tree.locate p.cwd path false with
  | .ok _ => throw Errno.eexist
  | .error e =>
    if e != Errno.enoent then throw e
    let (dir, name) ← w.tree.parentOf p.cwd path
    let (tree, _) := w.tree.attach dir name (.directory [] (mode - (mode &&& 0o022)))
    pure { w with tree }

/-- The node a path names, without following a link as its last element. -/
def entryNode (w : World μ) (cwd path : String) : Except Errno Nat := do
  match ← w.tree.locate cwd path false with
  | .node n => pure n
  | _ => throw Errno.eperm

/-- Whether node `n` is a directory. -/
def nodeIsDirectory (w : World μ) (n : Nat) : Bool := ((w.tree.get? n).map Node.isDirectory).getD false

/-- Remove the entry of a path: with `directory` an empty directory (not `.` nor the
root), else anything but a directory. -/
def removeEntry (w : World μ) (pid : Nat) (path : String) (directory : Bool) : Except Errno (World μ) := do
  let p ← (w.proc? pid).elim (.error Errno.esrch) .ok
  let n ← w.entryNode p.cwd path
  if directory then
    if !w.nodeIsDirectory n then throw Errno.enotdir
    if (Path.elements path).getLast? == some "." then throw Errno.einval
    if n == 0 then throw ⟨16⟩
    match w.tree.get? n with
    | some (.directory entries _) => if !entries.isEmpty then throw ⟨39⟩
    | _ => throw ⟨16⟩
  else if w.nodeIsDirectory n then throw Errno.eisdir
  let (dir, name) ← w.tree.parentOf p.cwd path
  pure { w with tree := w.tree.dropEntry dir name }

/-- Give an entry another path.  What the target names is replaced: a directory only by
a directory, and only when empty; a directory cannot move below itself. -/
def rename (w : World μ) (pid : Nat) (source target : String) : Except Errno (World μ) := do
  let p ← (w.proc? pid).elim (.error Errno.esrch) .ok
  let n ← w.entryNode p.cwd source
  let last := (Path.elements source).getLast?
  if last == some "." || last == some ".." || n == 0 then throw ⟨16⟩
  let (sdir, sname) ← w.tree.parentOf p.cwd source
  let (ddir, dname) ← w.tree.parentOf p.cwd target
  let moving := w.nodeIsDirectory n
  match w.tree.locate p.cwd target false with
  | .ok (.node m) =>
    if m == n then return w
    if moving then
      if !w.nodeIsDirectory m then throw Errno.enotdir
      match w.tree.get? m with
      | some (.directory entries _) => if !entries.isEmpty then throw ⟨39⟩
      | _ => throw ⟨16⟩
    else if w.nodeIsDirectory m then throw Errno.eisdir
  | .ok _ => throw Errno.eperm
  | .error e => if e != Errno.enoent then throw e
  if moving && w.tree.holds (w.tree.nodes.size + 1) n ddir then throw Errno.einval
  let tree := (w.tree.dropEntry ddir dname).dropEntry sdir sname
  pure { w with tree := tree.addEntry ddir dname n }

/-- Make a link at `path`: a symbolic one holding `target`, or a further name of what
`target` names (not of a directory). -/
def makeLink (w : World μ) (pid : Nat) (target path : String) (symbolic : Bool) : Except Errno (World μ) := do
  let p ← (w.proc? pid).elim (.error Errno.esrch) .ok
  match w.tree.locate p.cwd path false with
  | .ok _ => throw Errno.eexist
  | .error e => if e != Errno.enoent then throw e
  let (dir, name) ← w.tree.parentOf p.cwd path
  if symbolic then
    let (tree, _) := w.tree.attach dir name (.link target)
    pure { w with tree }
  else
    let n ← w.entryNode p.cwd target
    if w.nodeIsDirectory n then throw Errno.eperm
    pure { w with tree := w.tree.addEntry dir name n }

/-- Set the permission bits of what a path names. -/
def setMode (w : World μ) (pid : Nat) (path : String) (mode : Nat) : Except Errno (World μ) := do
  let p ← (w.proc? pid).elim (.error Errno.esrch) .ok
  match ← w.tree.locate p.cwd path with
  | .node n => pure { w with tree := w.tree.setMode n (mode % 0o10000) }
  | _ => pure w

/-- The text of the symbolic link a path names. -/
def readLink (w : World μ) (pid : Nat) (path : String) : Except Errno String := do
  let p ← (w.proc? pid).elim (.error Errno.esrch) .ok
  let n ← w.entryNode p.cwd path
  match w.tree.get? n with
  | some (.link target) => pure target
  | _ => throw Errno.einval

/-- Take an ended child for a wait; answers nothing yet when none has ended. -/
def reap (w : World μ) (pid : Nat) (target : WaitTarget) (noHang : Bool) :
    Try μ (Except Errno (Option (Nat × ExitStatus))) :=
  let fits (c : Process μ) : Bool :=
    c.ppid == pid && match target with
      | .any => true
      | .child k => c.pid == k
      | .group g => c.pgid == g
  let children := w.processes.filter fits
  if children.isEmpty then some (.error Errno.echild, w)
  else
    match children.find? (!·.alive) with
    | some c =>
      match c.life with
      | .zombie s => some (.ok (some (c.pid, s)), w.dropProc c.pid)
      | _ => none
    | none => if noHang then some (.ok none, w) else none

/-- Send a signal: to one process, to the caller's group, to every process, or to a
group given negated. -/
def sendSignal (w : World μ) (pid : Nat) (target : Int) (sig : Nat) : Except Errno (World μ) := do
  if sig > maxSignal then throw Errno.einval
  let p ← (w.proc? pid).elim (.error Errno.esrch) .ok
  if target > 0 then
    match w.proc? target.toNat with
    | some _ => pure (w.queueSignal target.toNat sig)
    | none => throw Errno.esrch
  else
    let group : Option Nat := if target == 0 then some p.pgid else if target == -1 then none else some (-target).toNat
    let members := w.processes.filter fun q =>
      q.alive && match group with
        | some g => q.pgid == g
        | none => q.pid != 1 && q.pid != pid
    if members.isEmpty then throw Errno.esrch
    pure (members.foldl (fun w q => w.queueSignal q.pid sig) w)

/-- Start a new session led by the caller. -/
def newSession (w : World μ) (pid : Nat) : Except Errno (World μ) :=
  if w.processes.any (fun q => q.pgid == pid) then .error Errno.eperm
  else .ok (w.modifyProc pid fun p => { p with sid := pid, pgid := pid, terminal := none })

/-- Move a process into a process group of its session. -/
def setGroup (w : World μ) (pid target pgid : Nat) : Except Errno (World μ) := do
  let target := if target == 0 then pid else target
  let pgid := if pgid == 0 then target else pgid
  let me ← (w.proc? pid).elim (.error Errno.esrch) .ok
  let q ← (w.proc? target).elim (.error Errno.esrch) .ok
  if q.pid != pid && q.ppid != pid then throw Errno.esrch
  if q.sid != me.sid then throw Errno.eperm
  if q.pid == q.sid then throw Errno.eperm
  if pgid != target && !w.processes.any (fun r => r.pgid == pgid && r.sid == me.sid) then
    throw Errno.eperm
  pure (w.modifyProc target fun q => { q with pgid })

/-- Whether a descriptor's deadline for reading or writing has passed. -/
def deadlinePassed (w : World μ) (pid fd : Nat) (reading : Bool) : Except Errno Bool :=
  match w.descriptor? pid fd with
  | none => .error Errno.ebadf
  | some d =>
    match (if reading then d.readDeadline else d.writeDeadline) with
    | some t => .ok (t ≤ w.now)
    | none => .ok false

/-- Whether a read or write on a descriptor would go on without waiting. -/
def readyFor (w : World μ) (pid fd : Nat) (reading : Bool) : Bool :=
  match w.openFileOf? pid fd with
  | none => true
  | some (_, o) =>
    match o.endpoint with
    | .parentSide t =>
      match w.pty? t with
      | some x => !reading || x.line.output.size > 0 || x.childClosed
      | none => true
    | .childSide t =>
      match w.pty? t with
      | some x => x.hungUp || (if reading then x.line.inputReady 1 else !x.line.stopped)
      | none => true
    | .pipeReader p =>
      match w.pipe? p with
      | some x => x.buffer.size > 0 || x.writers == 0
      | none => true
    | .pipeWriter p =>
      match w.pipe? p with
      | some x => x.buffer.size < pipeCapacity || x.readers == 0
      | none => true
    | _ => true

/-- Wait until a descriptor is ready, its deadline passes, or it is closed. -/
def awaitReady (w : World μ) (pid fd : Nat) (reading : Bool) : Option Readiness :=
  match w.descriptor? pid fd with
  | none => some .closed
  | some d =>
    let deadline := if reading then d.readDeadline else d.writeDeadline
    match deadline with
    | some t => if t ≤ w.now then some .timedOut else if w.readyFor pid fd reading then some .ready else none
    | none => if w.readyFor pid fd reading then some .ready else none

/-- The time at which a waiting descriptor's deadline passes. -/
def readyDeadline (w : World μ) (pid fd : Nat) (reading : Bool) : Option Nat :=
  match w.descriptor? pid fd with
  | some d =>
    match (if reading then d.readDeadline else d.writeDeadline) with
    | some t => some t.toNat
    | none => none
  | none => none

end World

end PseudoTerm.Machine
