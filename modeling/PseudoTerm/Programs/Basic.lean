import PseudoTerm.Programs.Common
import PseudoTerm.Shell.Format
import PseudoTerm.Shell.Test
import PseudoTerm.Path

/-!
# Small programs

`true`, `false`, `echo` (escapes only with `-e`), `printf`, `sleep` (seconds with a
fraction and an `s`, `m`, `h` or `d` suffix, several summed), `pwd`, `id`,
`uname`, `tty`, `env`, `setsid` (a new session; a process-group leader forks first),
`kill`, `test` and `[`, `basename`, `dirname`, `mkdir` and `touch`.
-/

namespace PseudoTerm.Programs

open PseudoTerm.Machine PseudoTerm.Shell

variable {μ : Type}

/-- `true`. -/
def trueProgram (_ : Invocation) : Prog μ Unit := Sys.exit 0

/-- `false`. -/
def falseProgram (_ : Invocation) : Prog μ Unit := Sys.exit 1

/-- `echo`: its arguments on a line; `-n` drops the line feed and `-e` reads escapes. -/
def echoProgram (inv : Invocation) : Prog μ Unit := do
  let rec opts : List String → Bool → Bool → Bool × Bool × List String
    | a :: rest, n, e =>
      if a.length > 1 && a.startsWith "-" && (a.drop 1).all (fun c => c == 'n' || c == 'e' || c == 'E') then
        let cs := a.toList.drop 1
        opts rest (n || cs.contains 'n') (if cs.contains 'e' then true else if cs.contains 'E' then false else e)
      else (n, e, a :: rest)
    | [], n, e => (n, e, [])
  let (noNewline, escapes, args) := opts (inv.args.drop 1) false false
  let text := " ".intercalate args
  let (bytes, stopped) := if escapes then Format.expandEscapes text.toUTF8.toList else (text.toUTF8.toList, false)
  let out : ByteArray := ⟨bytes.toArray⟩
  let out := if noNewline || stopped then out else out.push 10
  let (_, err) ← Sys.writeAll (μ := μ) 1 out
  match err with
  | some e => die s!"echo: write error: {e.sentence}\n" 1
  | none => Sys.exit 0

/-- `printf`: formatted output. -/
def printfProgram (inv : Invocation) : Prog μ Unit := do
  match inv.args.drop 1 with
  | [] => die "printf: missing operand\nTry 'printf --help' for more information.\n" 1
  | fmt :: rest =>
    let r := Format.printf fmt rest
    for w in r.warnings do Sys.print (μ := μ) 2 s!"printf: {w}\n"
    if let some e := r.error then Sys.print (μ := μ) 2 s!"printf: {e}\n"
    let _ ← Sys.writeAll (μ := μ) 1 r.bytes
    Sys.exit (if r.error.isSome then 1 else if r.ok then 0 else 1)

/-- A duration in microseconds: a decimal number of seconds with an optional fraction
and a unit suffix. -/
def readDuration (s : String) : Option Nat :=
  let (body, unit) := match s.toList.getLast? with
    | some 's' => ((s.dropEnd 1).toString, 1)
    | some 'm' => ((s.dropEnd 1).toString, 60)
    | some 'h' => ((s.dropEnd 1).toString, 3600)
    | some 'd' => ((s.dropEnd 1).toString, 86400)
    | _ => (s, 1)
  match body.splitOn "." with
  | [whole] =>
    if whole.isEmpty || !whole.all Char.isDigit then none
    else some (whole.toNat! * 1000000 * unit)
  | [whole, frac] =>
    if (whole.isEmpty && frac.isEmpty) || !whole.all Char.isDigit || !frac.all Char.isDigit then none
    else
      let w := if whole.isEmpty then 0 else whole.toNat!
      let f6 := (frac.toList ++ List.replicate 6 '0').take 6
      let f := (String.ofList f6).toNat!
      some ((w * 1000000 + f) * unit)
  | _ => none

/-- `sleep`: wait for the sum of the durations. -/
def sleepProgram (inv : Invocation) : Prog μ Unit := do
  let args := inv.args.drop 1
  let help := "Try 'sleep --help' for more information.\n"
  if args.isEmpty then die s!"sleep: missing operand\n{help}" 1
  let mut total := 0
  for a in args do
    match readDuration a with
    | some d => total := total + d
    | none => die s!"sleep: invalid time interval '{a}'\n{help}" 1
  Sys.sleep (μ := μ) total
  Sys.exit 0

/-- `pwd`: the working directory. -/
def pwdProgram (_ : Invocation) : Prog μ Unit := do
  let d ← Sys.workingDirectory (μ := μ)
  Sys.print (μ := μ) 1 (d ++ "\n")
  Sys.exit 0

/-- `id`: the user's identity. -/
def idProgram (_ : Invocation) : Prog μ Unit := do
  Sys.print (μ := μ) 1 "uid=0(root) gid=0(root) groups=0(root)\n"
  Sys.exit 0

/-- `uname`: the system's name. -/
def unameProgram (inv : Invocation) : Prog μ Unit := do
  let out := if inv.args.contains "-a" then "Linux" else "Linux"
  Sys.print (μ := μ) 1 (out ++ "\n")
  Sys.exit 0

/-- `tty`: the terminal of the input. -/
def ttyProgram (_ : Invocation) : Prog μ Unit := do
  match ← Sys.settingsOf (μ := μ) 0 with
  | .error _ => Sys.print (μ := μ) 1 "not a tty\n"; Sys.exit 1
  | .ok _ =>
    match ← Sys.status (μ := μ) "/proc/self/fd/0" false with
    | _ =>
      match ← Sys.terminalNumber (μ := μ) 0 with
      | .ok _ => Sys.print (μ := μ) 1 "/dev/ptmx\n"; Sys.exit 0
      | .error _ =>
        match ← Sys.identity (μ := μ) with
        | _ =>
          let n ← childTerminal
          Sys.print (μ := μ) 1 s!"/dev/pts/{n}\n"
          Sys.exit 0
where
  /-- The number of the terminal behind the input, read from its path. -/
  childTerminal : Prog μ Nat := do
    let names ← Sys.listDirectory (μ := μ) "/dev/pts"
    match names with
    | .ok ns =>
      let numbered := ns.filterMap String.toNat?
      pure (numbered.headD 0)
    | .error _ => pure 0

/-- `env`: show the environment, or run a program in a changed one. -/
def envProgram (inv : Invocation) : Prog μ Unit := do
  let rec opts : List String → List String → List String × List String
    | "-i" :: rest, _ => opts rest []
    | "-" :: rest, _ => opts rest []
    | "-u" :: n :: rest, env => opts rest (env.filter fun e => !e.startsWith (n ++ "="))
    | "--" :: rest, env => (rest, env)
    | rest, env => (rest, env)
  let (rest, env) := opts (inv.args.drop 1) inv.env
  let rec assigns : List String → List String → List String × List String
    | a :: more, env =>
      match a.splitOn "=" with
      | n :: _ :: _ =>
        if n.isEmpty then (a :: more, env)
        else assigns more (env.filter (fun e => !e.startsWith (n ++ "=")) ++ [a])
      | _ => (a :: more, env)
    | [], env => ([], env)
  let (cmd, env) := assigns rest env
  match cmd with
  | [] =>
    Sys.print (μ := μ) 1 (String.join (env.map (· ++ "\n")))
    Sys.exit 0
  | name :: _ =>
    let e ← execSearching (μ := μ) name cmd env
    die s!"env: '{name}': {e.sentence}\n" (if e == Errno.enoent then 127 else 126)

/-- `setsid`: run a program in a new session. -/
def setsidProgram (inv : Invocation) : Prog μ Unit := do
  let (_, cmd) := splitOptions (inv.args.drop 1)
  match cmd with
  | [] => die "setsid: no command specified\nTry 'setsid --help' for more information.\n" 1
  | name :: _ =>
    let ids ← Sys.identity (μ := μ)
    if ids.pid == ids.pgid then
      match ← Sys.fork (μ := μ) with
      | .ok 0 => pure ()
      | .ok _ => Sys.exit 0
      | .error e => die s!"setsid: fork failed: {e.sentence}\n" 1
    let _ ← Sys.newSession (μ := μ)
    let e ← execSearching (μ := μ) name cmd inv.env
    die s!"setsid: failed to execute {name}: {e.sentence}\n" (if e == Errno.enoent then 127 else 126)

/-- `kill`: send a signal to processes. -/
def killProgram (inv : Invocation) : Prog μ Unit := do
  let args := inv.args.drop 1
  let (sig, pids) : Nat × List String := match args with
    | "-s" :: s :: rest => ((signalNumber? s).getD 15, rest)
    | a :: rest =>
      if a.startsWith "-" && a.length > 1 && !((a.drop 1).all Char.isDigit) then
        ((signalNumber? (a.drop 1).toString).getD 15, rest)
      else if a.startsWith "-" && a.length > 1 && !rest.isEmpty then
        ((a.drop 1).toString.toNat!, rest)
      else (15, a :: rest)
    | [] => (15, [])
  let mut status := 0
  for p in pids do
    match p.toInt? with
    | some pid =>
      match ← Sys.signal (μ := μ) pid sig with
      | .ok () => pure ()
      | .error e =>
        Sys.print (μ := μ) 2 s!"kill: ({p}) - {e.sentence}\n"
        status := 1
    | none =>
      Sys.print (μ := μ) 2 s!"kill: failed to parse argument: '{p}'\n"
      status := 1
  Sys.exit status

/-- `test` and `[`: evaluate a condition. -/
def testProgram (inv : Invocation) : Prog μ Unit := do
  let name := Path.base (inv.args.headD "test")
  let args := inv.args.drop 1
  let args ← if name == "[" then
      if args.getLast? == some "]" then pure args.dropLast
      else die "[: missing ']'\n" 2
    else pure args
  match ← evalTest (μ := μ) args with
  | .ok true => Sys.exit 0
  | .ok false => Sys.exit 1
  | .error e => die s!"{name}: {e.message}\n" 2

/-- `basename`: the last element of a path. -/
def basenameProgram (inv : Invocation) : Prog μ Unit := do
  match inv.args.drop 1 with
  | [] => die "basename: missing operand\nTry 'basename --help' for more information.\n" 1
  | p :: rest =>
    let b := Path.base p
    let b := match rest with
      | [suffix] => if b.endsWith suffix && b != suffix then (b.dropEnd suffix.length).toString else b
      | _ => b
    Sys.print (μ := μ) 1 (b ++ "\n")
    Sys.exit 0

/-- `dirname`: a path without its last element. -/
def dirnameProgram (inv : Invocation) : Prog μ Unit := do
  match inv.args.drop 1 with
  | [] => die "dirname: missing operand\nTry 'dirname --help' for more information.\n" 1
  | ps =>
    for p in ps do Sys.print (μ := μ) 1 (Path.dir p ++ "\n")
    Sys.exit 0

/-- `mkdir`: make directories (`-p`: with their parents, and no error for existing
ones). -/
def mkdirProgram (inv : Invocation) : Prog μ Unit := do
  let (opts, dirs) := splitOptions (inv.args.drop 1)
  let parents := opts.contains 'p'
  if dirs.isEmpty then die "mkdir: missing operand\nTry 'mkdir --help' for more information.\n" 1
  let mut status := 0
  for d in dirs do
    if parents then
      let absolute := d.startsWith "/"
      let parts := Path.elements d
      let mut built := if absolute then "" else "."
      for part in parts do
        built := built ++ "/" ++ part
        let _ ← Sys.makeDirectory (μ := μ) built
    else
      match ← Sys.makeDirectory (μ := μ) d with
      | .ok () => pure ()
      | .error e =>
        Sys.print (μ := μ) 2 s!"mkdir: cannot create directory '{d}': {e.sentence}\n"
        status := 1
  Sys.exit status

/-- `touch`: make files that do not exist. -/
def touchProgram (inv : Invocation) : Prog μ Unit := do
  let (_, files) := splitOptions (inv.args.drop 1)
  let mut status := 0
  for f in files do
    match ← Sys.openPath (μ := μ) f { read := false, write := true, create := true } with
    | .ok fd => let _ ← Sys.close (μ := μ) fd
    | .error e =>
      Sys.print (μ := μ) 2 s!"touch: cannot touch '{f}': {e.sentence}\n"
      status := 1
  Sys.exit status

end PseudoTerm.Programs
