import PseudoTerm.Shell.Parse
import PseudoTerm.Shell.Redirect
import PseudoTerm.Shell.Format
import PseudoTerm.Shell.Test
import PseudoTerm.Shell.Options
import PseudoTerm.Path

/-!
# Running shell commands

A command runs in the shell's own process where it can: builtins, functions,
conditionals, loops, groups.  A program runs in a child that replaces its image, and a
subshell, a background job, each stage of a pipeline and each command substitution run
in a copy of the shell.  The last command a shell (or a copy) runs is a tail command:
when it starts a program and no trap actions are set, the shell replaces itself with
the program instead of waiting for a child.

A background job ignores interrupt and quit signals and reads from `/dev/null`.  The
shell waits for a foreground job by reaping children in the order they end, keeping
what it learns about the others for `wait`; when the job's last process to end was
killed by a signal other than an interrupt or a broken pipe, the shell writes the
signal's description on its error output.

A program's name without a slash is looked up in `PATH`: the first regular file of
that name is run, and a missing one is reported as `not found` with status 127,
without starting anything.  A file the machine will not run (`ENOEXEC`) is run as a
script of `/bin/sh`.  A failed start reports `not found` (status 127) or the reason
(status 126).

Every recursive step spends fuel: one unit per nesting level, loop round, function call
or evaluated text.
-/

namespace PseudoTerm.Shell

open PseudoTerm.Machine ShellM

variable {μ : Type}

/-- The special builtins: their assignments stay and their errors end the shell. -/
def specialBuiltins : List String :=
  [".", ":", "break", "continue", "eval", "exec", "exit", "export", "readonly", "return", "set",
   "shift", "times", "trap", "unset"]

/-- The other builtins. -/
def regularBuiltins : List String :=
  ["[", "alias", "cd", "command", "echo", "false", "getopts", "hash", "jobs", "kill", "local",
   "printf", "pwd", "read", "test", "true", "type", "ulimit", "umask", "unalias", "wait"]

/-- Whether trap actions are set. -/
def ShellState.haveTraps (s : ShellState) : Bool := s.traps.any (fun (_, a) => !a.isEmpty)

/-- The search path. -/
def ShellState.searchPath (s : ShellState) : List String :=
  ((s.get? "PATH").getD "/usr/local/sbin:/usr/local/bin:/usr/sbin:/usr/bin:/sbin:/bin").splitOn ":"

/-- A path in a directory of the search path; the empty directory is the current one. -/
def inDirectory (dir name : String) : String := if dir.isEmpty then name else dir ++ "/" ++ name

/-- Decode the bytes a program wrote, as text (bytes that are not text stand for the
characters of the same number). -/
def decodeOutput (b : ByteArray) : String :=
  match String.fromUTF8? b with
  | some s => s
  | none => String.ofList (b.toList.map fun x => Char.ofNat x.toNat)

/-- A signal named as the shell names them (case aside, without `SIG`), or by number;
with `exitToo`, `EXIT` is signal zero. -/
def decodeSignal (s : String) (exitToo : Bool) : Option Nat :=
  if !s.isEmpty && s.all Char.isDigit then
    let n := s.toNat!
    if n ≤ maxSignal && (n != 0 || exitToo) then some n else none
  else if exitToo && s.toUpper == "EXIT" then some 0
  else (signalNames.idxOf? s.toUpper).map (· + 1)

/-- Run shell code and then `after`, also when the code ends abruptly. -/
def ensuring {α : Type} (body : ShellM μ α) (after : ShellM μ Unit) : ShellM μ α := do
  let r ← tryCatch (do let a ← body; pure (Except.ok a)) (fun f => pure (Except.error f))
  after
  match r with
  | .ok a => pure a
  | .error f => throw f

/-- Look a program up: its path, or nothing when no regular file of that name is on the
search path. -/
def locateProgram (name : String) : ShellM μ (Option String) := do
  if name.contains '/' then return some name
  let dirs := (← get).searchPath
  for dir in dirs do
    let full := inDirectory dir name
    match ← sys (Sys.status (μ := μ) full) with
    | .ok st => if st.kind == .regular then return some full
    | .error _ => pure ()
  return none

/-- Replace the shell by a program; answers only when that failed, having reported it,
with the status to end with. -/
def replaceShell (args : List String) (env : List String) : ShellM μ Nat := do
  let name := args.head?.getD ""
  let dirs := (← get).searchPath
  let candidates := if name.contains '/' then [name] else dirs.map (inDirectory · name)
  let mut err := Errno.enoent
  for c in candidates do
    let e ← sys (Sys.exec (μ := μ) c args env)
    let e ← if e == Errno.enoexec then sys (Sys.exec (μ := μ) "/bin/sh" ("/bin/sh" :: c :: args.drop 1) env)
      else pure e
    if name.contains '/' || (e != Errno.enoent && e != Errno.enotdir) then err := e
  let missing := err == Errno.enoent || err == Errno.enotdir
  let code := if missing || err == ⟨40⟩ || err == ⟨36⟩ then 127 else 126
  let why := if missing then "not found" else err.sentence
  complain s!"{name}: {why}"
  return code

/-- Reap children until all of `pids` have ended; answers how each ended, and the one
that ended last. -/
def reapAll (pids : List Nat) : ShellM μ (List (Nat × ExitStatus) × Option ExitStatus) := do
  let mut last : Option ExitStatus := none
  for _ in [0:100000] do
    let s ← get
    if pids.all (fun p => s.reaped.any (·.1 == p)) then break
    match ← sys (Sys.wait (μ := μ) .any) with
    | .ok (some (pid, st)) =>
      modify fun s => { s with reaped := s.reaped ++ [(pid, st)] }
      if pids.contains pid then last := some st
    | _ => break
  let s ← get
  let found := pids.filterMap fun p => (s.reaped.find? (·.1 == p))
  set { s with reaped := s.reaped.filter (fun (p, _) => !pids.contains p),
               jobs := s.jobs.filter (fun p => !pids.contains p) }
  return (found, last)

/-- Wait for a foreground job: its status is that of its last process. -/
def waitForeground (pids : List Nat) : ShellM μ Nat := do
  let (found, last) ← reapAll pids
  match last with
  | some (.killed sig) =>
    if sig != sigint && sig != sigpipe then say 2 (signalText sig ++ "\n")
  | _ => pure ()
  match pids.getLast? with
  | some p =>
    match found.find? (·.1 == p) with
    | some (_, st) => return exitCode st
    | none => return 127
  | none => return 0

/-- A number argument of a builtin. -/
def numberArg (cmd s : String) : ShellM μ Nat := do
  if !s.isEmpty && s.all Char.isDigit then return s.toNat!
  fail s!"{cmd}: Illegal number: {s}"

/-- Write the bytes of a builtin to its output; answers its status. -/
def emit (cmd : String) (data : ByteArray) : ShellM μ Nat := do
  if data.size == 0 then return 0
  let (_, err) ← sys (Sys.writeAll (μ := μ) 1 data)
  match err with
  | none => return 0
  | some _ =>
    complain s!"{cmd}: I/O error"
    return 1

/-- `read`: one line from standard input into variables. -/
def readBuiltin (args : List String) : ShellM μ Nat := do
  let (raw, names) := match args with
    | "-r" :: rest => (true, rest)
    | rest => (false, rest)
  if names.isEmpty then fail "read: arg count"
  -- bytes of the line, each with whether a backslash protected it
  let mut line : Array (UInt8 × Bool) := #[]
  let mut ended := false
  let mut escaped := false
  for _ in [0:1000000] do
    match ← sys (Sys.read (μ := μ) 0 1) with
    | .ok chunk =>
      if chunk.size == 0 then break
      let b := chunk.get! 0
      if escaped then
        escaped := false
        if b != 10 then line := line.push (b, true)
      else if b == 10 then
        ended := true
        break
      else if b == 92 && !raw then escaped := true
      else line := line.push (b, false)
    | .error _ => break
  let s ← get
  let ifs := s.ifs.toList
  let isIfs (b : UInt8 × Bool) := !b.2 && ifs.contains (Char.ofNat b.1.toNat)
  let isBlankIfs (b : UInt8 × Bool) := isIfs b && (b.1 == 32 || b.1 == 9 || b.1 == 10)
  let text (bs : List (UInt8 × Bool)) : String := decodeOutput ⟨(bs.map (·.1)).toArray⟩
  let mut rest := line.toList.dropWhile isBlankIfs
  let mut idx := 0
  for name in names do
    idx := idx + 1
    if idx == names.length then
      let trimmed := (rest.reverse.dropWhile isBlankIfs).reverse
      modify fun s => s.set name (text trimmed)
    else
      let field := rest.takeWhile (fun b => !isIfs b)
      let after := rest.drop field.length
      -- one separator, with the blanks of IFS around it
      let after := after.dropWhile isBlankIfs
      let after := match after with
        | b :: more => if isIfs b && !isBlankIfs b then more.dropWhile isBlankIfs else b :: more
        | [] => []
      modify fun s => s.set name (text field)
      rest := after
  return (if ended then 0 else 1)

/-- `kill`: send a signal to processes. -/
def killBuiltin (args : List String) : ShellM μ Nat := do
  let usage := "kill: Usage: kill [-s sigspec | -signum | -sigspec] [pid | job]... or\nkill -l [exitstatus]"
  match args with
  | [] => fail usage
  | ["-l"] =>
    say 1 ("0\n" ++ String.join ((List.range maxSignal).map fun i => listedSignalName (i + 1) ++ "\n"))
    return 0
  | ["-l", n] =>
    let v ← numberArg "kill" n
    let v := if v > 128 then v - 128 else v
    if 0 < v && v ≤ maxSignal then say 1 (listedSignalName v ++ "\n"); return 0
    else fail s!"kill: invalid signal number or exit status: {n}"
  | _ =>
    let (sigText, pids) : Option String × List String := match args with
      | "-s" :: s :: rest => (some s, rest)
      | "-n" :: s :: rest => (some s, rest)
      | "--" :: rest => (none, rest)
      | a :: rest =>
        if a.startsWith "-" && a.length > 1 && !(a.drop 1).all Char.isDigit then (some (a.drop 1).toString, rest)
        else if a.startsWith "-" && a.length > 1 then
          -- a number after a dash names a signal when pids follow
          if rest.isEmpty then (none, a :: rest) else (some (a.drop 1).toString, rest)
        else (none, a :: rest)
      | [] => (none, [])
    let sig ← match sigText with
      | none => pure sigterm
      | some t =>
        match decodeSignal t false with
        | some n => pure n
        | none => fail s!"kill: invalid signal number or name: {t}"
    if pids.isEmpty then fail usage
    let mut status := 0
    for p in pids do
      let target : Int ← if p.startsWith "-" then do
          let v ← numberArg "kill" (p.drop 1).toString
          pure (-(v : Int))
        else do
          let v ← numberArg "kill" p
          pure (v : Int)
      match ← sys (Sys.signal (μ := μ) target sig) with
      | .ok () => pure ()
      | .error e =>
        complain s!"kill: {e.sentence}\n"
        status := 1
    return status

/-- `trap`: set, reset or list the actions for signals. -/
def trapBuiltin (args : List String) : ShellM μ Nat := do
  match args with
  | [] =>
    let s ← get
    for (sig, action) in s.traps do
      let name := if sig == 0 then "EXIT" else (signalName? sig).getD (toString sig)
      say 1 s!"trap -- '{action}' {name}\n"
    return 0
  | first :: rest =>
    let (action, sigs) : Option String × List String :=
      if rest.isEmpty || (decodeSignal first true).isSome then (none, first :: rest)
      else (if first == "-" then none else some first, rest)
    let mut status := 0
    for t in sigs do
      match decodeSignal t true with
      | none =>
        complain s!"trap: {t}: bad trap"
        status := 1
      | some sig =>
        modify fun s => { s with traps := s.traps.filter (·.1 != sig) }
        match action with
        | none =>
          if sig != 0 then
            let _ ← sys (Sys.setDisposition (μ := μ) sig .byDefault)
        | some a =>
          modify fun s => { s with traps := s.traps ++ [(sig, a)] }
          if sig != 0 then
            let _ ← sys (Sys.setDisposition (μ := μ) sig (if a.isEmpty then .ignore else .catch))
    return status

/-- `wait`: wait for background jobs. -/
def waitBuiltin (args : List String) : ShellM μ Nat := do
  match args with
  | [] =>
    let jobs := (← get).jobs
    let _ ← reapAll jobs
    return 0
  | _ =>
    let mut status := 0
    for a in args do
      let pid ← numberArg "wait" a
      let s ← get
      if s.jobs.contains pid || s.reaped.any (·.1 == pid) then
        let (found, _) ← reapAll [pid]
        status := match found with
          | [(_, st)] => exitCode st
          | _ => 127
      else status := 127
    return status

/-- `cd`: change the working directory. -/
def cdBuiltin (args : List String) : ShellM μ Nat := do
  let args := args.filter (fun a => a != "-L" && a != "-P")
  let s ← get
  let (dir, announce) ← match args with
    | [] =>
      match s.get? "HOME" with
      | some h => pure (h, false)
      | none => fail "cd: HOME not set"
    | ["-"] => pure ((s.get? "OLDPWD").getD s.cwd, true)
    | d :: _ => pure (d, false)
  let target := Path.clean (if dir.startsWith "/" then dir else s.cwd ++ "/" ++ dir)
  match ← sys (Sys.changeDirectory (μ := μ) target) with
  | .ok () =>
    modify fun s => ((s.set "OLDPWD" s.cwd true).set "PWD" target true) |> fun s => { s with cwd := target }
    if announce then say 1 (target ++ "\n")
    return 0
  | .error _ => fail s!"cd: can't cd to {dir}"

/-- `export`, `readonly` and `local`: set and mark variables. -/
def exportBuiltin (cmd : String) (exporting : Bool) (args : List String) : ShellM μ Nat := do
  let names := args.filter (· != "-p")
  if names.isEmpty then
    let s ← get
    for (n, v) in s.vars do
      if v.exported || !exporting then say 1 s!"{cmd} {n}='{v.value}'\n"
    return 0
  for a in names do
    match a.splitOn "=" with
    | [n] =>
      if !isVarName n then fail s!"{cmd}: {n}: bad variable name"
      if exporting then modify fun s => s.markExported n
    | n :: rest =>
      if !isVarName n then fail s!"{cmd}: {n}: bad variable name"
      modify fun s => s.set n ("=".intercalate rest) exporting
    | [] => pure ()
  return 0

/-- `set`: options and positional parameters. -/
def setBuiltin (args : List String) : ShellM μ Nat := do
  match args with
  | [] =>
    let s ← get
    let sorted := s.vars.toArray.qsort (fun a b => a.1 < b.1)
    for (n, v) in sorted do say 1 s!"{n}='{v.value}'\n"
    return 0
  | _ =>
    let rec opts : List String → ShellM μ (Option (List String))
      | [] => pure none
      | "--" :: rest => pure (some rest)
      | a :: rest =>
        if (a.startsWith "-" || a.startsWith "+") && a.length > 1 then do
          if (a.drop 1).contains 'e' then modify fun s => { s with errexit := a.startsWith "-" }
          opts rest
        else pure (some (a :: rest))
    match ← opts args with
    | some params => modify fun s => { s with params }
    | none => pure ()
    return 0

/-- `type`: how names would be run. -/
def typeBuiltin (args : List String) : ShellM μ Nat := do
  let mut status := 0
  for a in args do
    let s ← get
    if specialBuiltins.contains a then say 1 s!"{a} is a special shell builtin\n"
    else if s.functions.any (·.1 == a) then say 1 s!"{a} is a shell function\n"
    else if regularBuiltins.contains a then say 1 s!"{a} is a shell builtin\n"
    else
      match ← locateProgram a with
      | some p => say 1 s!"{a} is {p}\n"
      | none =>
        say 1 s!"{a}: not found\n"
        status := 127
  return status

/-- Set variables for one command, answering their former values to put back. -/
def assignTemporarily (values : List (String × String)) : ShellM μ (List (String × Option Variable)) := do
  let s ← get
  let former := values.map fun (n, _) => (n, (s.vars.find? (·.1 == n)).map (·.2))
  for (n, v) in values do assignVar n v
  return former

/-- Put back variables set for one command. -/
def putBack (former : List (String × Option Variable)) : ShellM μ Unit := do
  for (n, v) in former.reverse do
    match v with
    | some v => modify fun s => { s with vars := s.vars.map fun (m, w) => if m == n then (m, v) else (m, w) }
    | none => modify fun s => s.unset n

/-- Run a program found on the search path: in a child, or in place of the shell for a
tail command; answers its status. -/
def runProgram (args : List String) (values : List (String × String)) (tail : Bool)
    (fork : ShellM μ Nat → ShellM μ (Option Nat)) : ShellM μ Nat := do
  let name := args.head?.getD ""
  match ← locateProgram name with
  | none =>
    complain s!"{name}: not found"
    return 127
  | some _ =>
    let s ← get
    let env := s.environment values
    if tail && !s.haveTraps then
      let code ← replaceShell args env
      leave (.exit code)
    else
      match ← fork (replaceShell args env) with
      | some pid => waitForeground [pid]
      | none => return 2

mutual

/-- End the shell (or a copy of it) with a status, after its exit trap. -/
def finish : Nat → Nat → ShellM μ Nat
  | 0, code => sys (Sys.exit code)
  | fuel + 1, code => do
    let s ← get
    match s.traps.find? (·.1 == 0) with
    | some (_, action) =>
      modify fun s => { s with traps := s.traps.filter (·.1 != 0), status := code }
      let r ← tryCatch (do let _ ← evalText fuel action; pure code) fun f =>
        match f with
        | .exit c => pure c
        | _ => pure code
      sys (Sys.exit r)
    | none => sys (Sys.exit code)

/-- Run shell code in a copy of the shell that ends when the code does; answers the
copy's number, or nothing when no copy could be made. -/
def forkShell : Nat → ShellM μ Nat → ShellM μ (Option Nat)
  | 0, _ => pure none
  | fuel + 1, child => do
    match ← sys (Sys.fork (μ := μ)) with
    | .ok 0 =>
      modify fun s => { s with traps := [], jobs := [], reaped := [] }
      let code ← tryCatch child fun f =>
        match f with
        | .exit c => pure c
        | .returnFrom c => pure c
        | .error => pure 2
        | _ => do pure (← get).status
      let _ ← finish fuel code
      pure none
    | .ok pid => pure (some pid)
    | .error _ =>
      complain "Cannot fork"
      pure none

/-- Run a command; `tail` says that the shell does nothing after it. -/
def evalCmd : Nat → Command → Bool → ShellM μ Nat
  | 0, _, _ => pure 0
  | fuel + 1, cmd, tail => do
    let st ← match cmd with
      | .simple line assigns words rs => evalSimple fuel line assigns words rs tail
      | .subshell body rs =>
        let s ← get
        if tail && !s.haveTraps then
          let (_, ok) ← applyRedirects (expandText (substitute fuel)) false rs []
          if !ok then pure 2 else evalCmd fuel body true
        else
          let child : ShellM μ Nat := do
            let (_, ok) ← applyRedirects (expandText (substitute fuel)) false rs []
            if !ok then pure 2 else evalCmd fuel body true
          match ← forkShell fuel child with
          | some pid => waitForeground [pid]
          | none => pure 2
      | .group body rs =>
        if rs.isEmpty then evalCmd fuel body tail
        else
          let (saved, ok) ← applyRedirects (expandText (substitute fuel)) true rs []
          if !ok then
            Redirect.restore saved
            pure 2
          else ensuring (evalCmd fuel body false) (Redirect.restore saved)
      | .pipeline negate stages =>
        let st ← match stages with
          | [one] => evalCmd fuel one false
          | _ => do
            let pids ← pipeStages fuel stages none #[]
            waitForeground pids.toList
        pure (if negate then (if st == 0 then 1 else 0) else st)
      | .andThen a b =>
        let st ← evalCmd fuel a false
        if st == 0 then evalCmd fuel b tail else pure st
      | .orElse a b =>
        let st ← evalCmd fuel a false
        if st != 0 then evalCmd fuel b tail else pure st
      | .sequence a b =>
        let _ ← evalCmd fuel a false
        evalCmd fuel b tail
      | .background job =>
        let child : ShellM μ Nat := do
          let _ ← sys (Sys.setDisposition (μ := μ) sigint .ignore)
          let _ ← sys (Sys.setDisposition (μ := μ) sigquit .ignore)
          let _ ← sys (Sys.close (μ := μ) 0)
          let _ ← sys (Sys.openPath (μ := μ) "/dev/null" {})
          evalCmd fuel job true
        match ← forkShell fuel child with
        | some pid =>
          modify fun s => { s with jobs := s.jobs ++ [pid], lastJob := some pid }
          pure 0
        | none => pure 2
      | .ifThen cond thenPart elsePart rs =>
        withRedirects fuel rs do
          let c ← evalCmd fuel cond false
          if c == 0 then evalCmd fuel thenPart (tail && rs.isEmpty)
          else
            match elsePart with
            | some e => evalCmd fuel e (tail && rs.isEmpty)
            | none => pure 0
      | .loop isUntil cond body rs =>
        withRedirects fuel rs do
          modify fun s => { s with loopDepth := s.loopDepth + 1 }
          ensuring (loopRounds fuel isUntil cond body 0)
            (modify fun s => { s with loopDepth := s.loopDepth - 1 })
      | .forEach name items body rs =>
        withRedirects fuel rs do
          let values ← match items with
            | some ws => expandAll (substitute fuel) ws
            | none => do pure (← get).params
          modify fun s => { s with loopDepth := s.loopDepth + 1 }
          ensuring (forRounds fuel name values body 0)
            (modify fun s => { s with loopDepth := s.loopDepth - 1 })
      | .caseOf subject arms rs =>
        withRedirects fuel rs do
          let text ← expandText (substitute fuel) subject
          caseArms fuel text arms (tail && rs.isEmpty)
      | .function name body =>
        modify fun s => { s with functions := (name, body) :: s.functions.filter (·.1 != name) }
        pure 0
      | .empty => pure 0
    modify fun s => { s with status := st }
    pure st

/-- Run shell code with redirections in force, putting the descriptors back after. -/
def withRedirects : Nat → List Redirect → ShellM μ Nat → ShellM μ Nat
  | 0, _, body => body
  | fuel + 1, rs, body => do
    if rs.isEmpty then body
    else
      let (saved, ok) ← applyRedirects (expandText (substitute fuel)) true rs []
      if !ok then
        Redirect.restore saved
        pure 2
      else ensuring body (Redirect.restore saved)

/-- Start the stages of a pipeline, each in a copy of the shell reading the previous
stage's pipe; answers their numbers. -/
def pipeStages : Nat → List Command → Option Nat → Array Nat → ShellM μ (Array Nat)
  | 0, _, _, pids => pure pids
  | _, [], _, pids => pure pids
  | fuel + 1, stage :: more, prev, pids => do
    let pipe ← if more.isEmpty then pure none
      else
        match ← sys (Sys.makePipe (μ := μ)) with
        | .ok p => pure (some p)
        | .error _ => fatal "Pipe call failed"
    let child : ShellM μ Nat := do
      match prev with
      | some r =>
        if r != 0 then
          let _ ← sys (Sys.duplicateTo (μ := μ) r 0)
          let _ ← sys (Sys.close (μ := μ) r)
      | none => pure ()
      match pipe with
      | some (r, w) =>
        let _ ← sys (Sys.close (μ := μ) r)
        if w != 1 then
          let _ ← sys (Sys.duplicateTo (μ := μ) w 1)
          let _ ← sys (Sys.close (μ := μ) w)
      | none => pure ()
      evalCmd fuel stage true
    let pid ← forkShell fuel child
    match prev with
    | some r => let _ ← sys (Sys.close (μ := μ) r)
    | none => pure ()
    match pipe with
    | some (_, w) => let _ ← sys (Sys.close (μ := μ) w)
    | none => pure ()
    let pids := match pid with
      | some p => pids.push p
      | none => pids
    pipeStages fuel more (pipe.map (·.1)) pids

/-- The rounds of a `while` or `until` loop; answers the status of the last body run. -/
def loopRounds : Nat → Bool → Command → Command → Nat → ShellM μ Nat
  | 0, _, _, _, last => pure last
  | fuel + 1, isUntil, cond, body, last => do
    let c ← evalCmd fuel cond false
    if (c == 0) == isUntil then return last
    let r ← tryCatch (do let st ← evalCmd fuel body false; pure (some st)) fun f =>
      match f with
      | .breakOut n => if n > 1 then throw (.breakOut (n - 1)) else pure none
      | .continueOut n => if n > 1 then throw (.continueOut (n - 1)) else do pure (some (← get).status)
      | f => throw f
    match r with
    | none => pure last
    | some st => loopRounds fuel isUntil cond body st

/-- The rounds of a `for` loop. -/
def forRounds : Nat → String → List String → Command → Nat → ShellM μ Nat
  | 0, _, _, _, last => pure last
  | _, _, [], _, last => pure last
  | fuel + 1, name, v :: vs, body, last => do
    assignVar name v
    let r ← tryCatch (do let st ← evalCmd fuel body false; pure (some st)) fun f =>
      match f with
      | .breakOut n => if n > 1 then throw (.breakOut (n - 1)) else pure none
      | .continueOut n => if n > 1 then throw (.continueOut (n - 1)) else do pure (some (← get).status)
      | f => throw f
    match r with
    | none => pure last
    | some st => forRounds fuel name vs body st

/-- The arms of a `case`: the first whose pattern fits runs. -/
def caseArms : Nat → String → List (List Word × Command) → Bool → ShellM μ Nat
  | 0, _, _, _ => pure 0
  | _, _, [], _ => pure 0
  | fuel + 1, text, (patterns, body) :: more, tail => do
    let mut hit := false
    for p in patterns do
      if !hit then
        let pat ← expandPattern (substitute fuel) p
        if Pattern.test pat text then hit := true
    if hit then evalCmd fuel body tail else caseArms fuel text more tail

/-- Run a command substitution: its output. -/
def substitute : Nat → String → ShellM μ String
  | 0, _ => pure ""
  | fuel + 1, src => do
    match parseScript src with
    | .error e =>
      complain e.message
      modify fun s => { s with lastSubst := some 2 }
      pure ""
    | .ok cmd =>
      match ← sys (Sys.makePipe (μ := μ)) with
      | .error _ => fatal "Pipe call failed"
      | .ok (r, w) =>
        let child : ShellM μ Nat := do
          let _ ← sys (Sys.close (μ := μ) r)
          if w != 1 then
            let _ ← sys (Sys.duplicateTo (μ := μ) w 1)
            let _ ← sys (Sys.close (μ := μ) w)
          evalCmd fuel cmd true
        let pid ← forkShell fuel child
        let _ ← sys (Sys.close (μ := μ) w)
        let (out, _) ← sys (Sys.readToEnd (μ := μ) r)
        let _ ← sys (Sys.close (μ := μ) r)
        let st ← match pid with
          | some p => do
            let (found, _) ← reapAll [p]
            pure (match found with
              | [(_, st)] => exitCode st
              | _ => 0)
          | none => pure 2
        modify fun s => { s with lastSubst := some st }
        pure (decodeOutput out)

/-- Run a text as commands, one line of it after another. -/
def evalText : Nat → String → ShellM μ Nat
  | 0, _ => pure 0
  | fuel + 1, src => do
    let line := (← get).line
    textCommands fuel { rest := src.toList, line } 0

/-- Run the commands of a text from a cursor on. -/
def textCommands : Nat → Cursor → Nat → ShellM μ Nat
  | 0, _, last => pure last
  | fuel + 1, c, last => do
    match nextCommand c with
    | .error e =>
      modify fun s => { s with line := e.line }
      complain e.message
      leave .error
    | .ok (none, _) => pure last
    | .ok (some (cmd, _), c') =>
      let st ← evalCmd fuel cmd false
      textCommands fuel c' st

/-- Call a function with arguments. -/
def callFunction : Nat → Command → List String → ShellM μ Nat
  | 0, _, _ => pure 0
  | fuel + 1, body, args => do
    let saved ← get
    modify fun s => { s with params := args, funcDepth := s.funcDepth + 1, loopDepth := 0,
                             optIndex := 1, optOffset := none }
    let st ← tryCatch (evalCmd fuel body false) fun f =>
      match f with
      | .returnFrom c => pure c
      | f => throw f
    modify fun s => { s with params := saved.params, funcDepth := saved.funcDepth, loopDepth := saved.loopDepth,
                             optIndex := saved.optIndex, optOffset := saved.optOffset }
    pure st

/-- Run a builtin. -/
def builtin : Nat → String → List String → List (String × String) → Bool → ShellM μ Nat
  | 0, _, _, _, _ => pure 0
  | fuel + 1, name, args, values, tail => do
    match name with
    | ":" | "true" => pure 0
    | "false" => pure 1
    | "echo" => emit "echo" (Format.echo args)
    | "printf" =>
      match args with
      | [] => fail "printf: usage: printf format [arg ...]"
      | fmt :: rest =>
        -- messages go out at once, the output only when the builtin is done
        let r := Format.printf fmt rest
        for w in r.warnings do complain s!"printf: {w}"
        if let some e := r.error then complain s!"printf: {e}"
        let st ← emit "printf" r.bytes
        if r.error.isSome then leave .error
        pure (if r.ok then st else 1)
    | "exit" =>
      match args with
      | [] => leave (.exit (← get).status)
      | a :: _ =>
        let n ← numberArg "exit" a
        leave (.exit (n % 256))
    | "return" =>
      match args with
      | [] => leave (.returnFrom (← get).status)
      | a :: _ =>
        let n ← numberArg "return" a
        leave (.returnFrom (n % 256))
    | "break" | "continue" =>
      let n ← match args with
        | [] => pure 1
        | a :: _ => numberArg name a
      if n == 0 then fail s!"{name}: Illegal number: 0"
      let depth := (← get).loopDepth
      if depth == 0 then pure 0
      else if name == "break" then leave (.breakOut (min n depth))
      else leave (.continueOut (min n depth))
    | "cd" => cdBuiltin args
    | "pwd" =>
      if args.contains "-P" then
        let d ← sys (Sys.workingDirectory (μ := μ))
        emit "pwd" (d ++ "\n").toUTF8
      else emit "pwd" ((← get).cwd ++ "\n").toUTF8
    | "export" => exportBuiltin "export" true args
    | "readonly" => exportBuiltin "readonly" false args
    | "local" => exportBuiltin "local" false args
    | "unset" =>
      let fns := args.contains "-f"
      for a in args.filter (fun a => a != "-f" && a != "-v") do
        if fns then modify fun s => { s with functions := s.functions.filter (·.1 != a) }
        else modify fun s => s.unset a
      pure 0
    | "set" => setBuiltin args
    | "shift" =>
      let n ← match args with
        | [] => pure 1
        | a :: _ => numberArg "shift" a
      let s ← get
      if n > s.params.length then fail "shift: can't shift that many"
      set { s with params := s.params.drop n }
      pure 0
    | "read" => readBuiltin args
    | "test" | "[" =>
      let args ← if name == "[" then
          if (args.getLast?.map (·.startsWith "]")).getD false then pure args.dropLast
          else fail "[: missing ]"
        else pure args
      match ← sys (evalTest (μ := μ) args) with
      | .ok true => pure 0
      | .ok false => pure 1
      | .error e => fail s!"{name}: {e.message}"
    | "kill" => killBuiltin args
    | "getopts" => getoptsBuiltin args
    | "trap" => trapBuiltin args
    | "wait" => waitBuiltin args
    | "umask" =>
      if args.isEmpty then emit "umask" "0022\n".toUTF8 else pure 0
    | "type" => typeBuiltin args
    | "times" => emit "times" "0m0.000000s 0m0.000000s\n0m0.000000s 0m0.000000s\n".toUTF8
    | "eval" =>
      if args.isEmpty then pure 0 else evalText fuel (" ".intercalate args)
    | "." =>
      match args with
      | [] => fail ".: usage: . file"
      | file :: _ =>
        let path ← if file.contains '/' then pure (some file)
          else do
            let mut found : Option String := none
            for dir in (← get).searchPath do
              if found.isNone then
                match ← sys (Sys.status (μ := μ) (inDirectory dir file)) with
                | .ok st => if st.kind == .regular then found := some (inDirectory dir file)
                | .error _ => pure ()
            pure found
        match path with
        | none => fail s!".: {file}: not found"
        | some p =>
          match ← sys (Sys.openPath (μ := μ) p { closeOnExec := true }) with
          | .error e =>
            let why := Redirect.openMessage e false
            fail s!".: cannot open {p}: {why}"
          | .ok fd =>
            let (data, _) ← sys (Sys.readToEnd (μ := μ) fd)
            let _ ← sys (Sys.close (μ := μ) fd)
            evalText fuel (decodeOutput data)
    | "exec" =>
      if args.isEmpty then pure 0
      else
        let env := (← get).environment values
        let code ← replaceShell args env
        leave (.exit code)
    | "command" =>
      match args with
      | "-v" :: n :: _ =>
        let s ← get
        if specialBuiltins.contains n || regularBuiltins.contains n || s.functions.any (·.1 == n) then
          emit "command" (n ++ "\n").toUTF8
        else
          match ← locateProgram n with
          | some p => emit "command" (p ++ "\n").toUTF8
          | none => pure 127
      | "-V" :: rest => typeBuiltin rest
      | [] => pure 0
      | n :: rest =>
        if specialBuiltins.contains n || regularBuiltins.contains n then
          builtin fuel n rest values tail
        else runProgram (n :: rest) values tail (forkShell fuel)
    | _ => pure 0

/-- Run a simple command. -/
def evalSimple : Nat → Nat → List (String × Word) → List Word → List Redirect → Bool → ShellM μ Nat
  | 0, _, _, _, _, _ => pure 0
  | fuel + 1, line, assigns, words, rs, tail => do
    modify fun s => { s with line, lastSubst := none }
    let subst := substitute fuel
    let args ← expandAll subst words
    match args with
    | [] =>
      for (n, w) in assigns do
        let v ← expandText subst w
        assignVar n v
      let (saved, ok) ← applyRedirects (expandText subst) true rs []
      Redirect.restore saved
      if !ok then return 2
      return (← get).lastSubst.getD 0
    | name :: rest =>
      let mut expanded : Array (String × String) := #[]
      for (n, w) in assigns do
        expanded := expanded.push (n, ← expandText subst w)
      let values := expanded.toList
      let s ← get
      let isSpecial := specialBuiltins.contains name
      let func := if isSpecial then none else (s.functions.find? (·.1 == name)).map (·.2)
      if isSpecial || (func.isNone && regularBuiltins.contains name) then
        let former ← if isSpecial then do
            for (n, v) in values do assignVar n v
            pure []
          else assignTemporarily values
        let keep := !(name == "exec" && rest.isEmpty)
        let (saved, ok) ← applyRedirects (expandText subst) keep rs []
        if !ok then
          Redirect.restore saved
          putBack former
          if isSpecial then leave (.exit 2)
          return 2
        let st ← ensuring
          (tryCatch (builtin fuel name rest values tail) fun f =>
            match f with
            | .error => if isSpecial then throw (.exit 2) else pure 2
            | f => throw f)
          (do Redirect.restore saved; putBack former)
        return st
      else
        match func with
        | some body =>
          let former ← assignTemporarily values
          let (saved, ok) ← applyRedirects (expandText subst) true rs []
          if !ok then
            Redirect.restore saved
            putBack former
            return 2
          ensuring (callFunction fuel body rest) (do Redirect.restore saved; putBack former)
        | none =>
          let (saved, ok) ← applyRedirects (expandText subst) true rs []
          if !ok then
            Redirect.restore saved
            return 2
          ensuring (runProgram (name :: rest) values tail (forkShell fuel)) (Redirect.restore saved)

end

end PseudoTerm.Shell
