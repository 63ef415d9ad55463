import PseudoTerm.Machine.Program

/-!
# The programming interface of a machine

One function per request, with the answer's type spelled out, and the few loops that
every program needs: writing all of a buffer (a pipe may take part of it at a time),
reading to the end of a stream, and sleeping for a duration.
-/

namespace PseudoTerm.Machine.Sys

open PseudoTerm.Terminal

variable {μ : Type}

/-- Open a path. -/
def openPath (path : String) (flags : OpenFlags) (mode : Nat := 0o666) : Prog μ (Except Errno Nat) :=
  Prog.lift (.openPath path flags mode)

/-- Close a descriptor. -/
def close (fd : Nat) : Prog μ (Except Errno Unit) := Prog.lift (.close fd)

/-- Read at most `max` bytes. -/
def read (fd max : Nat) : Prog μ (Except Errno ByteArray) := Prog.lift (.read fd max)

/-- Write bytes; a pipe may take only part of them. -/
def write (fd : Nat) (data : ByteArray) : Prog μ (Except Errno Nat) := Prog.lift (.write fd data)

/-- Duplicate a descriptor to the lowest free number not below `least`. -/
def duplicate (fd least : Nat) (closeOnExec : Bool := false) : Prog μ (Except Errno Nat) :=
  Prog.lift (.duplicate fd least closeOnExec)

/-- Make `target` refer to what `fd` refers to. -/
def duplicateTo (fd target : Nat) : Prog μ (Except Errno Unit) := Prog.lift (.duplicateTo fd target)

/-- Mark a descriptor to close, or not, when an image is replaced. -/
def setCloseOnExec (fd : Nat) (on : Bool) : Prog μ (Except Errno Unit) := Prog.lift (.setCloseOnExec fd on)

/-- The flags of a descriptor. -/
def describe (fd : Nat) : Prog μ (Except Errno DescriptorInfo) := Prog.lift (.describe fd)

/-- Make a pipe: its reading and writing descriptors. -/
def makePipe (closeOnExec : Bool := false) : Prog μ (Except Errno (Nat × Nat)) := Prog.lift (.makePipe closeOnExec)

/-- The number of the terminal whose parent side a descriptor is. -/
def terminalNumber (fd : Nat) : Prog μ (Except Errno Nat) := Prog.lift (.terminalNumber fd)

/-- Lock or unlock a terminal's child side against opening. -/
def setLock (fd : Nat) (locked : Bool) : Prog μ (Except Errno Unit) := Prog.lift (.setLock fd locked)

/-- The window size of a terminal. -/
def windowOf (fd : Nat) : Prog μ (Except Errno Window) := Prog.lift (.windowOf fd)

/-- Set the window size of a terminal. -/
def setWindow (fd : Nat) (w : Window) : Prog μ (Except Errno Unit) := Prog.lift (.setWindow fd w)

/-- The settings of a terminal. -/
def settingsOf (fd : Nat) : Prog μ (Except Errno Settings) := Prog.lift (.settingsOf fd)

/-- Change the settings of a terminal. -/
def setSettings (fd : Nat) (s : Settings) : Prog μ (Except Errno Unit) := Prog.lift (.setSettings fd s)

/-- Take a terminal as controlling terminal. -/
def takeTerminal (fd : Nat) (steal : Bool) : Prog μ (Except Errno Unit) := Prog.lift (.takeTerminal fd steal)

/-- Give up the controlling terminal. -/
def dropTerminal (fd : Nat) : Prog μ (Except Errno Unit) := Prog.lift (.dropTerminal fd)

/-- The foreground process group of the controlling terminal. -/
def foregroundOf (fd : Nat) : Prog μ (Except Errno Nat) := Prog.lift (.foregroundOf fd)

/-- Set the foreground process group of the controlling terminal. -/
def setForeground (fd pgid : Nat) : Prog μ (Except Errno Unit) := Prog.lift (.setForeground fd pgid)

/-- The status of a path; `follow` says whether a last link is followed. -/
def status (path : String) (follow : Bool := true) : Prog μ (Except Errno FileStatus) :=
  Prog.lift (.status path follow)

/-- The status of what a descriptor refers to. -/
def statusOf (fd : Nat) : Prog μ (Except Errno FileStatus) := Prog.lift (.statusOf fd)

/-- Whether a path can be run. -/
def canExecute (path : String) : Prog μ (Except Errno Unit) := Prog.lift (.canExecute path)

/-- The names in a directory. -/
def listDirectory (path : String) : Prog μ (Except Errno (List String)) := Prog.lift (.listDirectory path)

/-- Make a directory. -/
def makeDirectory (path : String) (mode : Nat := 0o777) : Prog μ (Except Errno Unit) :=
  Prog.lift (.makeDirectory path mode)

/-- Remove the entry of a path: an empty directory when `directory`, else anything but a
directory. -/
def removeEntry (path : String) (directory : Bool := false) : Prog μ (Except Errno Unit) :=
  Prog.lift (.removeEntry path directory)

/-- Give an entry another path, replacing what is there. -/
def rename (source target : String) : Prog μ (Except Errno Unit) := Prog.lift (.rename source target)

/-- Make a link at `path`: a symbolic one holding `target`, or another name of `target`. -/
def makeLink (target path : String) (symbolic : Bool) : Prog μ (Except Errno Unit) :=
  Prog.lift (.makeLink target path symbolic)

/-- Set the permission bits of a path. -/
def setMode (path : String) (mode : Nat) : Prog μ (Except Errno Unit) := Prog.lift (.setMode path mode)

/-- The text of a symbolic link. -/
def readLink (path : String) : Prog μ (Except Errno String) := Prog.lift (.readLink path)

/-- Change the working directory. -/
def changeDirectory (path : String) : Prog μ (Except Errno Unit) := Prog.lift (.changeDirectory path)

/-- The working directory. -/
def workingDirectory : Prog μ String := Prog.lift .workingDirectory

/-- Fork: the child's number in the parent, zero in the child. -/
def fork : Prog μ (Except Errno Nat) := Prog.lift .fork

/-- Run another image in this process; answers only on failure. -/
def exec (path : String) (args env : List String) : Prog μ Errno := Prog.lift (.exec path args env)

/-- Start a program in one step: its number and a handle descriptor. -/
def launch (plan : LaunchPlan) : Prog μ (Except Errno (Nat × Nat)) := Prog.lift (.launch plan)

/-- End the process. -/
def exit {α : Type} (code : Nat) : Prog μ α := do
  let e ← Prog.lift (μ := μ) (.exit code)
  nomatch e

/-- End the calling thread. -/
def endThread {α : Type} : Prog μ α := do
  let e ← Prog.lift (μ := μ) .endThread
  nomatch e

/-- Start a thread running `body` next to the caller. -/
def spawnThread (body : Prog μ Unit) : Prog μ Unit := do
  let inNew : Bool ← Prog.lift (μ := μ) .startThread
  if inNew then
    body
    endThread
  else pure ()

/-- Wait for a child. -/
def wait (target : WaitTarget) (noHang : Bool := false) : Prog μ (Except Errno (Option (Nat × ExitStatus))) :=
  Prog.lift (.wait target noHang)

/-- Send a signal. -/
def signal (target : Int) (sig : Nat) : Prog μ (Except Errno Unit) := Prog.lift (.signal target sig)

/-- The caller's identities. -/
def identity : Prog μ Ids := Prog.lift .identity

/-- Another process's identities. -/
def identityOf (pid : Nat) : Prog μ (Except Errno Ids) := Prog.lift (.identityOf pid)

/-- Start a new session. -/
def newSession : Prog μ (Except Errno Nat) := Prog.lift .newSession

/-- Move a process into a process group. -/
def setGroup (pid pgid : Nat) : Prog μ (Except Errno Unit) := Prog.lift (.setGroup pid pgid)

/-- Choose how to treat a signal; answers the former choice. -/
def setDisposition (sig : Nat) (d : Disposition) : Prog μ (Except Errno Disposition) :=
  Prog.lift (.setDisposition sig d)

/-- Wait for one of the caught signals. -/
def awaitSignal (sigs : List Nat) : Prog μ Nat := Prog.lift (.awaitSignal sigs)

/-- The descriptor limit. -/
def fileLimit : Prog μ Nat := Prog.lift .fileLimit

/-- Set the descriptor limit. -/
def setFileLimit (n : Nat) : Prog μ (Except Errno Unit) := Prog.lift (.setFileLimit n)

/-- The clock, in microseconds. -/
def now : Prog μ Nat := Prog.lift .now

/-- Sleep until a time. -/
def sleepUntil (t : Nat) : Prog μ Unit := Prog.lift (.sleepUntil t)

/-- Sleep for a number of microseconds. -/
def sleep (micros : Nat) : Prog μ Unit := do
  let t ← now
  sleepUntil (t + micros)

/-- Set a descriptor's deadline for reading or writing. -/
def setDeadline (fd : Nat) (reading : Bool) (at? : Option Int) : Prog μ (Except Errno Unit) :=
  Prog.lift (.setDeadline fd reading at?)

/-- Whether a descriptor's deadline has passed. -/
def deadlinePassed (fd : Nat) (reading : Bool) : Prog μ (Except Errno Bool) :=
  Prog.lift (.deadlinePassed fd reading)

/-- Wait until a descriptor is ready, its deadline passes, or it is closed. -/
def awaitReady (fd : Nat) (reading : Bool) : Prog μ Readiness := Prog.lift (.awaitReady fd reading)

/-- Change the shared memory; answers the new memory. -/
def update (f : μ → μ) : Prog μ μ := Prog.lift (.update f)

/-- The shared memory. -/
def memory : Prog μ μ := update id

/-- Wait until the shared memory satisfies `ready`, then change it. -/
def await (ready : μ → Bool) (f : μ → μ := id) : Prog μ μ := Prog.lift (.await ready f)

/-- Write all of `data`, a part at a time; answers the bytes written and the error that
stopped it, if any. -/
def writeAll (fd : Nat) (data : ByteArray) : Prog μ (Nat × Option Errno) :=
  go (data.size + 1) 0
where
  /-- Write from offset `done`. -/
  go : Nat → Nat → Prog μ (Nat × Option Errno)
    | 0, done => pure (done, none)
    | fuel + 1, done =>
      if done ≥ data.size then pure (done, none)
      else do
        match ← write fd (data.extract done data.size) with
        | .ok 0 => pure (done, none)
        | .ok n => go fuel (done + n)
        | .error e => pure (done, some e)

/-- Write a text. -/
def print (fd : Nat) (s : String) : Prog μ Unit := do
  let _ ← writeAll fd s.toUTF8

/-- Read until the end of the stream, in chunks, at most `limit` chunks. -/
def readToEnd (fd : Nat) (limit : Nat := 100000) : Prog μ (ByteArray × Option Errno) :=
  go limit .empty
where
  /-- Read one chunk after `acc`. -/
  go : Nat → ByteArray → Prog μ (ByteArray × Option Errno)
    | 0, acc => pure (acc, none)
    | fuel + 1, acc => do
      match ← read fd 65536 with
      | .ok chunk => if chunk.size == 0 then pure (acc, none) else go fuel (acc ++ chunk)
      | .error e => pure (acc, some e)

end PseudoTerm.Machine.Sys
