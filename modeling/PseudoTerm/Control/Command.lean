import PseudoTerm.Control.Memory
import PseudoTerm.Path
import PseudoTerm.Environment
import PseudoTerm.Machine.Program

/-!
# Commands and the children they start

A command describes a program to start: the path of its image, its argument list, its
environment (the caller's when none is given), its working directory, the caller's
descriptors that become the child's standard streams and further descriptors, and how
the child is set up before its image runs (a new session, a new process group, giving
up its controlling terminal, taking one of its descriptors as controlling terminal).

A name without a slash is looked up in the directories of the caller's `PATH` when the
command is made; a failed lookup is kept and reported when the command is started.
An environment keeps the last entry of each key, in the order of those last entries;
an entry holding a NUL byte is refused.  A command with a working directory and no
environment of its own gets `PWD` set to that directory.

Starting a command that asks for no setup checks its working directory first, so that
a missing directory is reported as such; any failure of the child before its image
runs is reported as the failure to start the image (`fork/exec path: …`).

A started child is collected once by waiting for it; signalling a collected child
fails with `os: process already finished`.
-/

namespace PseudoTerm.Control

open PseudoTerm.Machine

/-- What a controlling program knows of itself: its environment and the path of its
own image. -/
structure Host where
  env : List String
  executable : String
  deriving Repr, Inhabited

/-- How a child is set up before its image runs. -/
structure Setup where
  newSession : Bool := false
  newGroup : Bool := false
  dropTerminal : Bool := false
  takeTerminal : Bool := false
  /-- The child descriptor that becomes the controlling terminal. -/
  terminalFd : Nat := 0
  deriving DecidableEq, Repr, Inhabited

/-- A program to start. -/
structure Command where
  path : String
  args : List String
  env : Option (List String) := none
  dir : String := ""
  /-- Why the program could not be found, when it could not. -/
  lookupFault : Option Fault := none
  /-- The setup the caller asked for; none when it asked for nothing. -/
  setup : Option Setup := none
  /-- The caller's descriptors for the child's standard input, output and error. -/
  stdio : List Nat := []
  /-- Further caller descriptors, the child's from 3 on. -/
  extra : List Nat := []
  deriving Repr, Inhabited

/-- The fault of signalling a child that was collected. -/
def processDone : Fault := .text "os: process already finished"

/-- The fault of an environment entry holding a NUL byte. -/
def environmentNul : Fault := .text "exec: environment variable contains NUL"

/-- The key of an environment entry for keeping the last of each: the text before the
first `=` after the first character. -/
def entryKey? (kv : String) : Option String :=
  let cs := kv.toList
  match cs with
  | '=' :: rest =>
    match rest.idxOf? '=' with
    | some i => some (String.ofList (cs.take (i + 1)))
    | none => some ""
  | _ =>
    match cs.idxOf? '=' with
    | some i => some (String.ofList (cs.take i))
    | none => none

/-- An environment with only the last entry of each key, in order; entries without `=`
stay (empty ones go), and entries holding a NUL byte go and are reported. -/
def dedupEnvironment (env : List String) : List String × Bool :=
  let step (acc : List String × List String × Bool) (kv : String) :=
    let (out, seen, nul) := acc
    if kv.contains (Char.ofNat 0) then (out, seen, true)
    else
      match entryKey? kv with
      | none => (if kv.isEmpty then out else kv :: out, seen, nul)
      | some k => if seen.contains k then (out, seen, nul) else (kv :: out, k :: seen, nul)
  let (out, _, nul) := env.reverse.foldl step ([], [], false)
  (out, nul)

/-- The directories of a search path; an empty element is the working directory. -/
def searchDirectories (path : String) : List String :=
  if path.isEmpty then [] else (path.splitOn ":").map fun d => if d.isEmpty then "." else d

/-- Why a path cannot be run, if it cannot. -/
def findExecutable (path : String) : Prog Memory (Option Fault) := do
  match ← Sys.status (μ := Memory) path with
  | .error e => pure (some (.path "stat" path (.errno e)))
  | .ok st =>
    if st.kind == .directory then pure (some (.errno Errno.eisdir))
    else
      match ← Sys.canExecute (μ := Memory) path with
      | .ok () => pure none
      | .error e => pure (some (.errno e))

/-- Find a program: a name with a slash is taken as it is, any other is looked for in
the directories of `PATH`; answers the path found (empty when none) and the fault. -/
def lookPath (env : List String) (file : String) : Prog Memory (String × Option Fault) := do
  if file.contains '/' then
    match ← findExecutable file with
    | none => pure (file, none)
    | some f => pure ("", some (.exec file f))
  else
    let dirs := searchDirectories ((Environment.lookup env "PATH").getD "")
    let rec go : List String → Prog Memory (String × Option Fault)
      | [] => pure ("", some (.exec file .notInSearchPath))
      | dir :: rest => do
        let candidate := Path.join [dir, file]
        match ← findExecutable candidate with
        | none =>
          if Path.isAbsolute candidate then pure (candidate, none)
          else pure (candidate, some (.exec file (.text "cannot run executable found relative to current directory")))
        | some _ => go rest
    go dirs

namespace Command

/-- The command running `name` with `args`; a name that is its own last element is
looked up on the search path of `env`. -/
def make (env : List String) (name : String) (args : List String) : Prog Memory Command := do
  let c : Command := { path := name, args := name :: args }
  if Path.base name == name then
    let (found, fault) ← lookPath env name
    pure { c with path := if found.isEmpty then name else found, lookupFault := fault }
  else pure c

/-- The argument list the child gets: the command's, or its path alone. -/
def argv (c : Command) : List String := if c.args.isEmpty then [c.path] else c.args

/-- The environment the child gets, and whether an entry was refused: the command's
own, or the caller's with `PWD` for a working directory of its own. -/
def environment (c : Command) (inherited : List String) (cwd : String) : List String × Bool :=
  match c.env with
  | some env => dedupEnvironment env
  | none =>
    let env := if c.dir.isEmpty then inherited else inherited ++ ["PWD=" ++ Path.absolute cwd c.dir]
    dedupEnvironment env

/-- Whether a text holds a NUL byte. -/
def hasNul (s : String) : Bool := s.contains (Char.ofNat 0)

/-- The plan the command is launched with, in the environment `env`: its standard streams
and further descriptors in order, and the setup it asked for (none when it asked for
nothing). -/
def launchPlan (c : Command) (env : List String) : LaunchPlan :=
  let setup := c.setup.getD {}
  { path := c.path, args := c.argv, env, dir := if c.dir.isEmpty then none else some c.dir,
    files := c.stdio ++ c.extra, newSession := setup.newSession, newGroup := setup.newGroup,
    dropTerminal := setup.dropTerminal,
    takeTerminal := if setup.takeTerminal then some setup.terminalFd else none }

/-- Launch the command's plan in the environment `env` and record the child; a path,
argument or directory holding a NUL byte is refused before. -/
def launchIn (c : Command) (env : List String) : Prog Memory (Except Fault Child) := do
  let startFault (e : Errno) : Fault := .path "fork/exec" c.path (.errno e)
  if hasNul c.path || c.argv.any hasNul || hasNul c.dir then return .error (startFault Errno.einval)
  match ← Sys.launch (μ := Memory) (c.launchPlan env) with
  | .error e => pure (.error (startFault e))
  | .ok (pid, handle) =>
    let key ← create fun k m => { m with children := m.children.insert k .live }
    pure (.ok { pid, key, handle })

/-- Start the command; answers the child. -/
def start (c : Command) (inherited : List String) : Prog Memory (Except Fault Child) := do
  if c.path.isEmpty && c.lookupFault.isNone then return .error (.text "exec: no command")
  if let some f := c.lookupFault then return .error f
  let cwd ← Sys.workingDirectory (μ := Memory)
  let (env, refused) := c.environment inherited cwd
  if refused then return .error environmentNul
  if c.setup.isNone && !c.dir.isEmpty then
    match ← Sys.status (μ := Memory) c.dir with
    | .error e => return .error (.path "chdir" c.dir (.errno e))
    | .ok _ => pure ()
  c.launchIn env

end Command

namespace Child

/-- Whether the child was collected. -/
def collected (c : Child) : Prog Memory Bool := inspect fun m => m.children.get? c.key == some .collected

/-- Wait for the child to end and collect it; answers how it ended. -/
def wait (c : Child) : Prog Memory (Except Fault ExitStatus) := do
  if ← c.collected then return .error (.syscall "wait" (.errno Errno.echild))
  match ← Sys.wait (μ := Memory) (.child c.pid) with
  | .ok (some (_, status)) =>
    let _ ← Sys.close (μ := Memory) c.handle
    change (fun m => { m with children := m.children.modify c.key fun _ => .collected }) fun _ => ()
    pure (.ok status)
  | .ok none => pure (.error (.syscall "waitid" (.errno Errno.echild)))
  | .error e => pure (.error (.syscall "waitid" (.errno e)))

/-- Send a signal to the child. -/
def signal (c : Child) (sig : Nat) : Prog Memory (Except Fault Unit) := do
  if ← c.collected then return .error processDone
  match ← Sys.signal (μ := Memory) c.pid sig with
  | .ok () => pure (.ok ())
  | .error e =>
    if e == Errno.esrch then pure (.error processDone)
    else pure (.error (.syscall "pidfd_send_signal" (.errno e)))

/-- Kill the child. -/
def kill (c : Child) : Prog Memory (Except Fault Unit) := c.signal 9

end Child

/-- The exit code of an ending: its code, or 128 and the signal that killed it. -/
def exitCodeOf : ExitStatus → Int
  | .exited n => n
  | .killed s => 128 + s

end PseudoTerm.Control
