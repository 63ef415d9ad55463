import PseudoTerm.Shell.Eval
import PseudoTerm.Machine.World

/-!
# The shell as a program

`sh -c text [name [argument …]]` runs a text, with `$0` the name (else the shell's own
name) and the arguments as positional parameters; `sh file [argument …]` runs a file;
`sh` alone runs what it reads from standard input.  Options before these (`-e`, and
letters the shell accepts and ignores) may be grouped; an unknown one is reported as
`Illegal option`.

The shell imports the variables of its environment whose names are valid, exported,
and sets `PWD` (exported) to the working directory.  It reads a script one line of
commands at a time and runs each before reading the next, so a syntax error ends the
shell (status 2) only when reached.  The commands that end the script without a
newline after them are its tail: a program they start replaces the shell.
-/

namespace PseudoTerm.Shell

open PseudoTerm.Machine ShellM

variable {μ : Type}

/-- The fuel of one command of a script. -/
def commandFuel : Nat := 1000000

/-- Run a script's commands from a cursor on; answers the status of the last. -/
def runScript : Nat → Cursor → ShellM μ Nat
  | 0, _ => do pure (← get).status
  | fuel + 1, c => do
    match nextCommand c with
    | .error e =>
      modify fun s => { s with line := e.line }
      complain e.message
      leave (.exit 2)
    | .ok (none, _) => pure (← get).status
    | .ok (some (cmd, atEnd), c') =>
      let _ ← tryCatch (evalCmd commandFuel cmd atEnd) fun f =>
        match f with
        | .breakOut _ | .continueOut _ => do pure (← get).status
        | .error => pure 2
        | f => throw f
      runScript fuel c'

/-- Where the commands come from. -/
inductive ScriptSource where
  | text (s : String)
  | file (path : String)
  | input

/-- Read the shell's arguments: the source of commands, `$0`, the positional
parameters and whether failures end the shell; or an error message. -/
def readArguments (args : List String) : Except String (ScriptSource × Option String × List String × Bool) :=
  let self := args.head?.getD "sh"
  let rec opts : Nat → List String → Bool → Bool → Except String (List String × Bool × Bool)
    | 0, rest, c, e => .ok (rest, c, e)
    | _, [], c, e => .ok ([], c, e)
    | n + 1, a :: rest, c, e =>
      if a == "--" || a == "-" then .ok (rest, c, e)
      else if (a.startsWith "-" || a.startsWith "+") && a.length > 1 then
        let on := a.startsWith "-"
        let letters := a.toList.drop 1
        match letters.find? (fun l => !"abcCefhiIlmnpsuvxE".toList.contains l) with
        | some bad =>
          let option := String.ofList [a.front, bad]
          .error s!"Illegal option {option}"
        | none =>
          opts n rest (c || (on && letters.contains 'c')) (if letters.contains 'e' then on else e)
      else .ok (a :: rest, c, e)
  match opts (args.length + 1) (args.drop 1) false false with
  | .error m => .error m
  | .ok (operands, commandMode, errexit) =>
    if commandMode then
      match operands with
      | [] => .error "-c requires an argument"
      | text :: more => .ok (.text text, some ((more.head?).getD self), more.drop 1, errexit)
    else
      match operands with
      | [] => .ok (.input, some self, [], errexit)
      | file :: more => .ok (.file file, some file, more, errexit)

/-- The shell's starting state from its environment. -/
def startState (env : List String) : Prog μ ShellState := do
  let ids ← Sys.identity (μ := μ)
  let cwd ← Sys.workingDirectory (μ := μ)
  let imported := env.filterMap fun e =>
    match e.splitOn "=" with
    | n :: rest => if isVarName n && !rest.isEmpty then some (n, "=".intercalate rest) else none
    | [] => none
  let s : ShellState := { rootPid := ids.pid, cwd, line := 0 }
  let s := imported.foldl (fun s (n, v) => s.set n v true) s
  let pwd := match s.get? "PWD" with
    | some p => if Path.clean p == cwd && p.startsWith "/" then p else cwd
    | none => cwd
  let s := { (s.set "PWD" pwd true) with cwd := pwd }
  let s := s.set "PPID" (toString ids.ppid)
  let s := ((s.set "PS1" "# ").set "PS2" "> ").set "PS4" "+ "
  pure (s.set "OPTIND" "1")

/-- The shell program. -/
def shellProgram (inv : Invocation) : Prog μ Unit := do
  let s ← startState (μ := μ) inv.env
  let self := inv.args.head?.getD "sh"
  match readArguments inv.args with
  | .error m =>
    Sys.print (μ := μ) 2 s!"{self}: 0: {m}\n"
    Sys.exit 2
  | .ok (source, arg0, params, errexit) =>
    let s := { s with arg0 := arg0.getD self, params, errexit }
    let body : ShellM μ Nat := do
      let text ← match source with
        | .text t => pure t
        | .file path =>
          match ← sys (Sys.openPath (μ := μ) path { closeOnExec := true }) with
          | .error e =>
            let why := Redirect.openMessage e false
            complain s!"cannot open {path}: {why}"
            leave (.exit 2)
          | .ok fd =>
            let (data, _) ← sys (Sys.readToEnd (μ := μ) fd)
            let _ ← sys (Sys.close (μ := μ) fd)
            pure (decodeOutput data)
        | .input =>
          let (data, _) ← sys (Sys.readToEnd (μ := μ) 0)
          pure (decodeOutput data)
      runScript (text.length + 2) { rest := text.toList }
    let main : ShellM μ Nat := do
      let st ← tryCatch body fun f =>
        match f with
        | .exit c => pure c
        | .returnFrom c => pure c
        | .error => pure 2
        | _ => do pure (← get).status
      finish commandFuel st
    let _ ← (main.run).run s
    Sys.exit 0

end PseudoTerm.Shell
