import PseudoTerm.Shell.Syntax
import PseudoTerm.Machine.Interface

/-!
# The state of a running shell

A shell keeps its variables (in the order they were made, each marked exported or not),
its positional parameters, the status of the last command, its functions and traps,
and the children it started in the background.  Running a command may end in a way
other than a status: `exit`, `break`, `continue`, `return`, or a fatal error, which
ends the shell with a status; these travel as a `Flow`.

The environment given to a program lists the exported variables in the shell's
table order: by a hash of the name over 39 buckets (the first byte times sixteen
plus the sum of the name's bytes), and within a bucket in the order of making.
-/

namespace PseudoTerm.Shell

open PseudoTerm.Machine

/-- A shell variable. -/
structure Variable where
  value : String
  exported : Bool := false
  deriving Repr, Inhabited

/-- How a command can end other than with a status. -/
inductive Flow where
  /-- Leave the shell with a status. -/
  | exit (code : Nat)
  /-- Leave `n` enclosing loops. -/
  | breakOut (n : Nat)
  /-- Go on with the next round of the `n`-th enclosing loop. -/
  | continueOut (n : Nat)
  /-- Leave the running function with a status. -/
  | returnFrom (code : Nat)
  /-- A command failed with an error that was already reported; it ends the shell when
  the command is a special builtin, else the command's status is 2. -/
  | error
  deriving Repr, Inhabited

/-- The state of a shell. -/
structure ShellState where
  vars : List (String × Variable) := []
  arg0 : String := "sh"
  params : List String := []
  status : Nat := 0
  /-- The number of the shell process that read the script (`$$`). -/
  rootPid : Nat := 0
  /-- The number of the last background child (`$!`). -/
  lastJob : Option Nat := none
  functions : List (String × Command) := []
  /-- Trap actions by signal; signal 0 is the exit of the shell. -/
  traps : List (Nat × String) := []
  /-- Children started in the background and not yet waited for. -/
  jobs : List Nat := []
  /-- How children ended that were reaped while waiting for others. -/
  reaped : List (Nat × ExitStatus) := []
  /-- The line of the command running, for messages. -/
  line : Nat := 1
  /-- The working directory as the shell names it. -/
  cwd : String := "/"
  /-- Whether a failing command ends the shell (`set -e`). -/
  errexit : Bool := false
  /-- The depth of function calls. -/
  funcDepth : Nat := 0
  /-- The depth of loops. -/
  loopDepth : Nat := 0
  /-- The status of the last command substitution of the command being expanded. -/
  lastSubst : Option Nat := none
  /-- The number of the next word `getopts` reads. -/
  optIndex : Nat := 1
  /-- Where `getopts` goes on inside the word before it, when it stopped inside one. -/
  optOffset : Option Nat := none
  deriving Inhabited

/-- Running shell code: abrupt endings, state (kept across them), and the machine. -/
abbrev ShellM (μ : Type) := ExceptT Flow (StateT ShellState (Prog μ))

namespace ShellM

variable {μ : Type}

/-- Run a machine program inside the shell. -/
def sys {α : Type} (p : Prog μ α) : ShellM μ α := ExceptT.lift (StateT.lift p)

/-- End with an abrupt flow. -/
def leave {α : Type} (f : Flow) : ShellM μ α := throw f

end ShellM

namespace ShellState

/-- The value of a variable, if it is set. -/
def get? (s : ShellState) (name : String) : Option String :=
  (s.vars.find? (·.1 == name)).map (·.2.value)

/-- Set a variable without side effects, keeping its export mark (or setting it when
`exporting`). -/
def setPlain (s : ShellState) (name value : String) (exporting : Bool := false) : ShellState :=
  if s.vars.any (·.1 == name) then
    { s with vars := s.vars.map fun (n, v) =>
        if n == name then (n, { v with value, exported := v.exported || exporting }) else (n, v) }
  else { s with vars := s.vars ++ [(name, { value, exported := exporting })] }

/-- Set a variable, keeping its export mark (or setting it when `exporting`).  Setting
`OPTIND` also starts `getopts` over at that word. -/
def set (s : ShellState) (name value : String) (exporting : Bool := false) : ShellState :=
  let s := s.setPlain name value exporting
  if name == "OPTIND" then
    { s with optIndex := (if value.toNat! == 0 then 1 else value.toNat!), optOffset := none }
  else s

/-- Mark a variable exported, making it (empty) only when a value is given. -/
def markExported (s : ShellState) (name : String) : ShellState :=
  { s with vars := s.vars.map fun (n, v) => if n == name then (n, { v with exported := true }) else (n, v) }

/-- Remove a variable. -/
def unset (s : ShellState) (name : String) : ShellState :=
  { s with vars := s.vars.filter (·.1 != name) }

/-- The bucket of a name in the shell's table. -/
def bucket (name : String) : Nat :=
  let bytes := name.toUTF8.toList
  match bytes with
  | [] => 0
  | b :: _ => (b.toNat * 16 + bytes.foldl (fun acc c => acc + c.toNat) 0) % 39

/-- The environment for a program: exported variables as `name=value`, in table order,
with `extra` assignments in front of the same names. -/
def environment (s : ShellState) (extra : List (String × String) := []) : List String :=
  let base := s.vars.filter (·.2.exported) |>.map fun (n, v) => (n, v.value)
  let merged := base.map (fun (n, v) => (n, ((extra.reverse.find? (·.1 == n)).map (·.2)).getD v))
  let added := extra.foldl (fun acc (n, v) =>
    if merged.any (·.1 == n) then acc
    else if acc.any (·.1 == n) then acc.map (fun (m, w) => if m == n then (m, v) else (m, w))
    else acc ++ [(n, v)]) []
  let all := merged ++ added
  let ordered := (List.range 39).flatMap fun b => all.filter (fun (n, _) => bucket n == b)
  ordered.map fun (n, v) => n ++ "=" ++ v

/-- The field separators. -/
def ifs (s : ShellState) : String := (s.get? "IFS").getD " \t\n"

end ShellState

/-- Whether a text is a variable name. -/
def isVarName (s : String) : Bool :=
  match s.toList with
  | c :: rest => (c.isAlpha || c == '_') && rest.all (fun d => d.isAlphanum || d == '_')
  | [] => false

/-- The text of a signal's end as the shell reports a killed foreground job. -/
def signalText (sig : Nat) : String :=
  match sig with
  | 1 => "Hangup"
  | 2 => "Interrupt"
  | 3 => "Quit"
  | 4 => "Illegal instruction"
  | 5 => "Trace/breakpoint trap"
  | 6 => "Aborted"
  | 7 => "Bus error"
  | 8 => "Floating point exception"
  | 9 => "Killed"
  | 10 => "User defined signal 1"
  | 11 => "Segmentation fault"
  | 12 => "User defined signal 2"
  | 13 => "Broken pipe"
  | 14 => "Alarm clock"
  | 15 => "Terminated"
  | 16 => "Stack fault"
  | 17 => "Child exited"
  | 18 => "Continued"
  | 19 => "Stopped (signal)"
  | 20 => "Stopped"
  | 21 => "Stopped (tty input)"
  | 22 => "Stopped (tty output)"
  | 23 => "Urgent I/O condition"
  | 24 => "CPU time limit exceeded"
  | 25 => "File size limit exceeded"
  | 26 => "Virtual timer expired"
  | 27 => "Profiling timer expired"
  | 28 => "Window changed"
  | 29 => "I/O possible"
  | 30 => "Power failure"
  | 31 => "Bad system call"
  | n => if 34 ≤ n && n ≤ 64 then s!"Real-time signal {n - 34}" else s!"Unknown signal {n}"

/-- The status a shell reports for a child's end. -/
def exitCode : ExitStatus → Nat
  | .exited c => c
  | .killed s => 128 + s

namespace ShellM

variable {μ : Type}

/-- Write a text to a descriptor, ignoring failures. -/
def say (fd : Nat) (s : String) : ShellM μ Unit := sys (Sys.print fd s)

/-- Print an error message the way the shell prefixes them. -/
def complain (msg : String) : ShellM μ Unit := do
  let s ← get
  say 2 s!"{s.arg0}: {s.line}: {msg}\n"

/-- Print an error message and end the shell with status 2. -/
def fatal {α : Type} (msg : String) : ShellM μ α := do
  complain msg
  leave (.exit 2)

/-- Print an error message of a builtin and fail it. -/
def fail {α : Type} (msg : String) : ShellM μ α := do
  complain msg
  leave .error

end ShellM

end PseudoTerm.Shell
