import PseudoTerm.Machine.Calls

/-!
# Running a machine

Threads take turns: in each round every thread that can go on carries out up to a
quantum of requests, in the order of processes and of their threads, and the signals
a request sends are delivered right after it.  When no thread can go on, the clock
moves to the next time something waits for (the end of a sleep, a deadline) and the
rounds start again.

An outside task (the bench that drives a machine, a user at a terminal) runs as a
thread of a chosen process but only takes a step when nothing else can: the programs
it watches are fast and it is slow.  Running the task ends when it finishes, when its
process ends or replaces its image, when nothing can ever happen again, or when the
clock passes a limit.

Programs are started from images: a program image of the catalog, or a file that
starts with `#!` and names its interpreter (and one optional argument), which is run
with the file's path after it.  Any other file cannot be run (`ENOEXEC`).
-/

namespace PseudoTerm.Machine

namespace Prog

/-- Run a program and forget its result. -/
def discard {μ β : Type} (p : Prog μ β) : Prog μ Unit := p.bind fun _ => .pure ()

end Prog

/-- What one request of a thread led to. -/
inductive Step (μ β : Type) where
  /-- The thread has to wait. -/
  | blocked
  /-- The thread goes on with this program. -/
  | resumed (w : World μ) (p : Prog μ β)
  /-- The thread is gone: it ended, or its process ended or ran another image. -/
  | ended (w : World μ)

namespace World

variable {μ : Type}

/-- The deepest chain of interpreters a program start follows. -/
def interpreterDepth : Nat := 4

/-- The interpreter line of a script, split into the interpreter and its argument. -/
def interpreterLine (data : ByteArray) : Option (String × Option String) :=
  if data.size ≥ 2 && data.get! 0 == 35 && data.get! 1 == 33 then
    let line := (data.extract 2 data.size).toList.takeWhile (· != 10)
    let text := String.fromUTF8? ⟨line.toArray⟩ |>.getD ""
    let text := text.trimAscii.toString
    let interp := String.ofList (text.toList.takeWhile (fun c => c != ' ' && c != '\t'))
    let rest := (String.ofList (text.toList.dropWhile (fun c => c != ' ' && c != '\t'))).trimAscii.toString
    if interp.isEmpty then none else some (interp, if rest.isEmpty then none else some rest)
  else none

/-- The program a path starts, with its arguments and environment. -/
def imageFor (cat : Catalog μ) (w : World μ) (pid : Nat) :
    Nat → String → List String → List String → Except Errno (Prog μ Unit)
  | depth, path, args, env => do
    let p ← (w.proc? pid).elim (.error Errno.esrch) .ok
    let place ← w.tree.locate p.cwd path
    let n ← w.runnableNode pid place
    match w.tree.get? n with
    | some (.program image _) =>
      match cat.image image with
      | some run => pure (run ⟨path, args, env⟩)
      | none => throw Errno.enoexec
    | some (.file data _) =>
      match interpreterLine data, depth with
      | some (interp, arg), depth + 1 =>
        imageFor cat w pid depth interp ([interp] ++ arg.toList ++ [path] ++ args.drop 1) env
      | some _, 0 => throw ⟨40⟩
      | none, _ => throw Errno.enoexec
    | _ => throw Errno.eacces

/-- Replace the image of process `pid`: descriptors marked close-on-exec close, caught
signals go back to their default, the memory starts afresh and one thread runs the
new program. -/
def replaceImage (cat : Catalog μ) (w : World μ) (pid : Nat) (path : String) (prog : Prog μ Unit) :
    World μ :=
  match w.proc? pid with
  | none => w
  | some p =>
    let closing := p.fds.filter (·.2.closeOnExec)
    let w := closing.foldl (fun w (fd, _) => (w.closeDescriptor pid fd).toOption.getD w) w
    let tid := w.nextThread
    let w := { w with nextThread := tid + 1 }
    w.modifyProc pid fun p =>
      { p with threads := [⟨tid, prog⟩], leader := tid, memory := cat.initial, image := path,
               dispositions := p.dispositions.filter (·.2 == .ignore) }

/-- A copy of process `pid` running `prog` as its only thread; answers the copy's
number. -/
def forkProcess (w : World μ) (pid : Nat) (prog : Prog μ Unit) : Nat × World μ :=
  match w.proc? pid with
  | none => (0, w)
  | some p =>
    let child := w.nextPid
    let tid := w.nextThread
    let c : Process μ :=
      { p with pid := child, ppid := pid, threads := [⟨tid, prog⟩], leader := tid, pending := [],
               life := .running }
    let w := { w with processes := w.processes ++ [c], nextPid := child + 1, nextThread := tid + 1 }
    (child, p.fds.foldl (fun w (_, d) => w.addRef d.file) w)

/-- Start a program in one step, as the plan says. -/
def launch (cat : Catalog μ) (w : World μ) (pid : Nat) (plan : LaunchPlan) :
    Except Errno (Nat × Nat) × World μ :=
  match w.proc? pid with
  | none => (.error Errno.esrch, w)
  | some p =>
    if w.room pid < 3 then (.error Errno.emfile, w)
    else
      let sources := plan.files.map fun fd => w.descriptor? pid fd
      if sources.any (·.isNone) then (.error Errno.ebadf, w)
      else
        let child := w.nextPid
        let fds : List (Nat × Descriptor) :=
          (sources.filterMap id).zipIdx.map fun (d, i) => (i, { file := d.file })
        let c : Process μ :=
          { pid := child, ppid := pid, pgid := p.pgid, sid := p.sid, terminal := p.terminal,
            fds, cwd := p.cwd, dispositions := p.dispositions.filter (·.2 == .ignore),
            memory := cat.initial, fileLimit := p.fileLimit, image := plan.path }
        let w := { w with processes := w.processes ++ [c], nextPid := child + 1 }
        let w := fds.foldl (fun w (_, d) => w.addRef d.file) w
        let setUp : Except Errno (Prog μ Unit × World μ) := do
          let w ← if plan.newSession then w.newSession child else pure w
          let w ← if plan.newGroup then w.setGroup child child child else pure w
          let w ← match plan.dir with
            | some d => w.changeDirectory child d
            | none => pure w
          let w ← if plan.dropTerminal then w.dropTerminal child 0 else pure w
          let w ← match plan.takeTerminal with
            | some fd => w.takeTerminal child fd true
            | none => pure w
          let prog ← w.imageFor cat child interpreterDepth plan.path plan.args plan.env
          pure (prog, w)
        match setUp with
        | .ok (prog, w) =>
          let w := w.replaceImage cat child plan.path prog
          let (h, w) := w.addFile { endpoint := .processHandle child, readable := true, writable := false }
          match w.bindDescriptor pid 0 h true with
          | .ok (hfd, w) => (.ok (child, hfd), w)
          | .error e => (.error e, w)
        | .error e =>
          -- the child reports the failure and ends; the caller takes it at once
          let failed := (w.finish child (.exited 253)).dropProc child
          (.error e, failed)

/-- The identities of a process. -/
def idsOf (p : Process μ) : Ids := ⟨p.pid, p.ppid, p.pgid, p.sid⟩

/-- Answer a request that cannot wait. -/
def answerWith {β α : Type} (w : World μ) (r : Except Errno (α × World μ))
    (next : Except Errno α → Prog μ β) : Step μ β :=
  match r with
  | .ok (a, w') => .resumed w' (next (.ok a))
  | .error e => .resumed w (next (.error e))

/-- Answer a request that changes the machine and has nothing to tell. -/
def answerUnit {β : Type} (w : World μ) (r : Except Errno (World μ))
    (next : Except Errno Unit → Prog μ β) : Step μ β :=
  match r with
  | .ok w' => .resumed w' (next (.ok ()))
  | .error e => .resumed w (next (.error e))

/-- Answer a request that may have to wait. -/
def answerTry {β α : Type} (r : Try μ α) (next : α → Prog μ β) : Step μ β :=
  match r with
  | some (a, w') => .resumed w' (next a)
  | none => .blocked

/-- Carry out one request of thread `tid` of process `pid`. -/
def handle {β : Type} (cat : Catalog μ) (w : World μ) (pid tid : Nat) :
    (r : Request μ) → (r.Answer → Prog μ β) → Step μ β
  | .openPath path flags mode, next => answerWith w (w.openPath pid path flags mode) next
  | .close fd, next => answerUnit w (w.closeDescriptor pid fd) next
  | .read fd max, next => answerTry (w.readFd pid fd max) next
  | .write fd data, next => answerTry (w.writeFd pid fd data) next
  | .duplicate fd least coe, next => answerWith w (w.duplicate pid fd least coe) next
  | .duplicateTo fd target, next => answerUnit w (w.duplicateTo pid fd target) next
  | .setCloseOnExec fd on, next =>
    match w.descriptor? pid fd with
    | none => .resumed w (next (.error Errno.ebadf))
    | some _ =>
      let w := w.modifyProc pid fun p =>
        { p with fds := p.fds.map fun (n, d) => if n == fd then (n, { d with closeOnExec := on }) else (n, d) }
      .resumed w (next (.ok ()))
  | .describe fd, next =>
    match w.descriptor? pid fd, w.openFileOf? pid fd with
    | some d, some (_, o) =>
      .resumed w (next (.ok ⟨o.readable, o.writable, o.nonBlocking, d.closeOnExec, o.append⟩))
    | _, _ => .resumed w (next (.error Errno.ebadf))
  | .makePipe coe, next => answerWith w (w.makePipe pid coe) next
  | .terminalNumber fd, next =>
    match w.terminalOf pid fd with
    | .ok (t, true) => .resumed w (next (.ok t))
    | .ok (_, false) => .resumed w (next (.error Errno.enotty))
    | .error e => .resumed w (next (.error e))
  | .setLock fd locked, next =>
    match w.terminalOf pid fd with
    | .ok (t, true) => .resumed (w.modifyPty t fun x => { x with locked }) (next (.ok ()))
    | .ok (_, false) => .resumed w (next (.error Errno.enotty))
    | .error e => .resumed w (next (.error e))
  | .windowOf fd, next =>
    match w.terminalOf pid fd with
    | .ok (t, _) =>
      match w.pty? t with
      | some x => .resumed w (next (.ok x.window))
      | none => .resumed w (next (.error Errno.eio))
    | .error e => .resumed w (next (.error e))
  | .setWindow fd win, next =>
    match w.terminalOf pid fd with
    | .ok (t, _) => .resumed (w.resizeTerminal t win) (next (.ok ()))
    | .error e => .resumed w (next (.error e))
  | .settingsOf fd, next =>
    match w.terminalOf pid fd with
    | .ok (_, true) => .resumed w (next (.ok .passThrough))
    | .ok (t, false) =>
      match w.pty? t with
      | some x => .resumed w (next (.ok x.line.settings))
      | none => .resumed w (next (.error Errno.eio))
    | .error e => .resumed w (next (.error e))
  | .setSettings fd s, next =>
    match w.terminalOf pid fd with
    | .ok (_, true) => .resumed w (next (.ok ()))
    | .ok (t, false) => .resumed (w.modifyPty t fun x => { x with line := x.line.configure s }) (next (.ok ()))
    | .error e => .resumed w (next (.error e))
  | .takeTerminal fd steal, next => answerUnit w (w.takeTerminal pid fd steal) next
  | .dropTerminal fd, next => answerUnit w (w.dropTerminal pid fd) next
  | .foregroundOf fd, next =>
    match w.terminalOf pid fd, w.proc? pid with
    | .ok (t, false), some p =>
      if p.terminal == some t then
        .resumed w (next (.ok ((w.pty? t).bind (·.foreground) |>.getD 0)))
      else .resumed w (next (.error Errno.enotty))
    | .ok (_, true), _ => .resumed w (next (.error Errno.enotty))
    | .error e, _ => .resumed w (next (.error e))
    | _, none => .resumed w (next (.error Errno.esrch))
  | .setForeground fd g, next =>
    match w.terminalOf pid fd, w.proc? pid with
    | .ok (t, false), some p =>
      if p.terminal != some t then .resumed w (next (.error Errno.enotty))
      else if !w.processes.any (fun q => q.pgid == g && q.sid == p.sid) then
        .resumed w (next (.error Errno.eperm))
      else .resumed (w.modifyPty t fun x => { x with foreground := some g }) (next (.ok ()))
    | .ok (_, true), _ => .resumed w (next (.error Errno.enotty))
    | .error e, _ => .resumed w (next (.error e))
    | _, none => .resumed w (next (.error Errno.esrch))
  | .status path follow, next =>
    match w.proc? pid with
    | some p =>
      .resumed w (next (w.tree.locate p.cwd path follow >>= w.placeStatus pid))
    | none => .resumed w (next (.error Errno.esrch))
  | .statusOf fd, next => .resumed w (next (w.descriptorStatus pid fd))
  | .canExecute path, next =>
    match w.proc? pid with
    | some p => .resumed w (next ((w.tree.locate p.cwd path >>= w.runnableNode pid).map fun _ => ()))
    | none => .resumed w (next (.error Errno.esrch))
  | .listDirectory path, next => .resumed w (next (w.listDirectory pid path))
  | .makeDirectory path mode, next => answerUnit w (w.makeDirectory pid path mode) next
  | .removeEntry path directory, next => answerUnit w (w.removeEntry pid path directory) next
  | .rename source target, next => answerUnit w (w.rename pid source target) next
  | .makeLink target path symbolic, next => answerUnit w (w.makeLink pid target path symbolic) next
  | .setMode path mode, next => answerUnit w (w.setMode pid path mode) next
  | .readLink path, next => .resumed w (next (w.readLink pid path))
  | .changeDirectory path, next => answerUnit w (w.changeDirectory pid path) next
  | .workingDirectory, next => .resumed w (next ((w.proc? pid).map (·.cwd) |>.getD "/"))
  | .fork, next =>
    let (child, w) := w.forkProcess pid (next (.ok 0)).discard
    .resumed w (next (.ok child))
  | .exec path args env, next =>
    match w.imageFor cat pid interpreterDepth path args env with
    | .ok prog => .ended (w.replaceImage cat pid path prog)
    | .error e => .resumed w (next e)
  | .launch plan, next =>
    let (r, w) := w.launch cat pid plan
    .resumed w (next r)
  | .exit code, _ => .ended (w.finish pid (.exited (code % 256)))
  | .endThread, _ =>
    let w := w.modifyProc pid fun p => { p with threads := p.threads.filter (·.id != tid) }
    match w.proc? pid with
    | some p => if p.leader == tid then .ended (w.finish pid (.exited 0)) else .ended w
    | none => .ended w
  | .startThread, next =>
    let t := w.nextThread
    let w := { w with nextThread := t + 1 }
    let w := w.modifyProc pid fun p => { p with threads := p.threads ++ [⟨t, (next true).discard⟩] }
    .resumed w (next false)
  | .wait target noHang, next => answerTry (w.reap pid target noHang) next
  | .signal target sig, next => answerUnit w (w.sendSignal pid target sig) next
  | .identity, next => .resumed w (next ((w.proc? pid).map idsOf |>.getD ⟨pid, 0, 0, 0⟩))
  | .identityOf other, next =>
    match w.proc? other with
    | some q => .resumed w (next (.ok (idsOf q)))
    | none => .resumed w (next (.error Errno.esrch))
  | .newSession, next =>
    match w.newSession pid with
    | .ok w' => .resumed w' (next (.ok pid))
    | .error e => .resumed w (next (.error e))
  | .setGroup target g, next => answerUnit w (w.setGroup pid target g) next
  | .setDisposition sig d, next =>
    if sig == 0 || sig > maxSignal || !signalChoosable sig then .resumed w (next (.error Errno.einval))
    else
      match w.proc? pid with
      | some p =>
        let old := dispositionOf p sig
        let w := w.modifyProc pid fun p =>
          { p with dispositions := (sig, d) :: p.dispositions.filter (·.1 != sig),
                   pending := if d == .catch then p.pending else p.pending.filter (· != sig) }
        .resumed w (next (.ok old))
      | none => .resumed w (next (.error Errno.esrch))
  | .awaitSignal sigs, next =>
    match w.proc? pid with
    | some p =>
      match p.pending.find? (sigs.contains ·) with
      | some s =>
        let w := w.modifyProc pid fun p => { p with pending := p.pending.erase s }
        .resumed w (next s)
      | none => .blocked
    | none => .blocked
  | .fileLimit, next => .resumed w (next (((w.proc? pid).map (·.fileLimit)).getD (0 : Nat)))
  | .setFileLimit n, next => .resumed (w.modifyProc pid fun p => { p with fileLimit := n }) (next (.ok ()))
  | .now, next => .resumed w (next w.now)
  | .sleepUntil t, next => if t ≤ w.now then .resumed w (next ()) else .blocked
  | .setDeadline fd reading at?, next =>
    match w.descriptor? pid fd with
    | none => .resumed w (next (.error Errno.ebadf))
    | some _ =>
      let w := w.modifyProc pid fun p =>
        { p with fds := p.fds.map fun (n, d) =>
            if n != fd then (n, d)
            else if reading then (n, { d with readDeadline := at? })
            else (n, { d with writeDeadline := at? }) }
      .resumed w (next (.ok ()))
  | .deadlinePassed fd reading, next => .resumed w (next (w.deadlinePassed pid fd reading))
  | .awaitReady fd reading, next =>
    match w.awaitReady pid fd reading with
    | some r => .resumed w (next r)
    | none => .blocked
  | .update f, next =>
    match w.proc? pid with
    | some p =>
      let m := f p.memory
      .resumed (w.modifyProc pid fun p => { p with memory := m }) (next m)
    | none => .blocked
  | .await ready f, next =>
    match w.proc? pid with
    | some p =>
      if ready p.memory then
        let m := f p.memory
        .resumed (w.modifyProc pid fun p => { p with memory := m }) (next m)
      else .blocked
    | none => .blocked

/-- The time a waiting request can go on by the clock alone. -/
def wakeTime (w : World μ) (pid : Nat) : Request μ → Option Nat
  | .sleepUntil t => some t
  | .awaitReady fd reading => w.readyDeadline pid fd reading
  | _ => none

/-- Whether thread `tid` of process `pid` still exists. -/
def threadOf? (w : World μ) (pid tid : Nat) : Option (Thread μ) := do
  let p ← w.proc? pid
  if p.life != .running then none
  p.threads.find? (·.id == tid)

/-- Set the program of a thread. -/
def setThread (w : World μ) (pid tid : Nat) (prog : Prog μ Unit) : World μ :=
  w.modifyProc pid fun p => { p with threads := p.threads.map fun t => if t.id == tid then { t with prog } else t }

/-- Let thread `tid` of process `pid` carry out its next request; nothing when it has to
wait. -/
def stepThread (cat : Catalog μ) (w : World μ) (pid tid : Nat) : Option (World μ) :=
  match w.threadOf? pid tid with
  | none => none
  | some th =>
    match th.prog with
    | .pure () =>
      let isLeader := (w.proc? pid).map (·.leader == tid) |>.getD true
      let w := w.modifyProc pid fun p => { p with threads := p.threads.filter (·.id != tid) }
      some (if isLeader then w.finish pid (.exited 0) else w).deliverQueued
    | .call r next =>
      match w.handle cat pid tid r next with
      | .blocked => none
      | .resumed w' p => some (w'.setThread pid tid p).deliverQueued
      | .ended w' => some w'.deliverQueued

/-- The threads of the machine in turn order. -/
def threadOrder (w : World μ) : List (Nat × Nat) :=
  w.processes.flatMap fun p => if p.life == .running then p.threads.map fun t => (p.pid, t.id) else []

/-- The most requests a thread carries out in one turn. -/
def quantum : Nat := 64

/-- Give one thread a turn of up to `n` requests; answers how many it carried out. -/
def turn (cat : Catalog μ) (pid tid : Nat) : Nat → World μ → World μ × Nat
  | 0, w => (w, 0)
  | n + 1, w =>
    match w.stepThread cat pid tid with
    | none => (w, 0)
    | some w' =>
      let (w'', k) := turn cat pid tid n w'
      (w'', k + 1)

/-- One round: every thread gets a turn; answers the requests carried out. -/
def round (cat : Catalog μ) (w : World μ) : World μ × Nat :=
  w.threadOrder.foldl (fun (acc : World μ × Nat) (pid, tid) =>
    let (w, k) := turn cat pid tid quantum acc.1
    (w, acc.2 + k)) (w, 0)

/-- Rounds until no thread can go on, within a budget of requests; answers the budget
left. -/
def settle (cat : Catalog μ) : Nat → World μ → World μ × Nat
  | 0, w => (w, 0)
  | fuel + 1, w =>
    match w.round cat with
    | (w', 0) => (w', fuel + 1)
    | (w', k + 1) => settle cat (fuel - k) w'
  termination_by fuel => fuel
  decreasing_by omega

/-- The next time at which a waiting thread can go on by the clock alone. -/
def nextWake (w : World μ) (extra : Option Nat) : Option Nat :=
  let times := w.processes.flatMap fun p =>
    if p.life != .running then []
    else p.threads.filterMap fun t =>
      match t.prog with
      | .call r _ => w.wakeTime p.pid r
      | .pure _ => none
  let times := times ++ extra.toList
  let future := times.filter (· > w.now)
  future.min?

end World

/-- How running an outside task ended. -/
inductive TaskEnd (α : Type) where
  | finished (a : α)
  /-- The task's process ended or ran another image. -/
  | gone
  /-- Nothing can ever happen again. -/
  | stuck
  /-- The clock passed the limit, or the request budget ran out. -/
  | overtime
  deriving Inhabited

namespace World

variable {μ : Type}

/-- Run the machine with an outside task in process `pid`, until the task ends, within
a budget of requests and up to the clock time `deadline`. -/
def runTask {α : Type} (cat : Catalog μ) (pid : Nat) (deadline : Nat) :
    Nat → World μ → Prog μ α → World μ × TaskEnd α
  | 0, w, _ => (w, .overtime)
  | fuel + 1, w, task =>
    let (w, left) := w.settle cat (fuel + 1)
    if left == 0 then (w, .overtime)
    else
      match task with
      | .pure a => (w, .finished a)
      | .call r next =>
        match w.proc? pid with
        | none => (w, .gone)
        | some p =>
          if !p.alive then (w, .gone)
          else
            match w.handle cat pid 0 r next with
            | .resumed w' task' => runTask cat pid deadline (min fuel (left - 1)) w'.deliverQueued task'
            | .ended w' => (w'.deliverQueued, .gone)
            | .blocked =>
              match w.nextWake (w.wakeTime pid r) with
              | some t =>
                if t > deadline then ({ w with now := deadline }, .overtime)
                else runTask cat pid deadline (min fuel (left - 1)) { w with now := t } task
              | none => (w, .stuck)
  termination_by fuel => fuel
  decreasing_by all_goals omega

end World

end PseudoTerm.Machine
