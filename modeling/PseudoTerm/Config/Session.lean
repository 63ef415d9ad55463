import PseudoTerm.Account
import PseudoTerm.Environment

/-!
# Session specifications

A session runs one program on a pseudo terminal.  Its specification names the program
and its arguments, the environment entries added to (or, with `cleanEnv`, replacing) the
inherited ones, the working directory, the window size, the terminal type used when the
environment sets none, the file receiving the output and whether the setup runs in a
helper process.

Unset fields take defaults: the user's shell as the program, the program as the name,
an 80 by 24 window and `xterm-256color`.  A directory or output path starting with `~`
is taken under the user's home.
-/

namespace PseudoTerm.Config

/-- The default window width. -/
def defaultCols : Nat := 80

/-- The default window height. -/
def defaultRows : Nat := 24

/-- The default terminal type. -/
def defaultTerm : String := "xterm-256color"

/-- What a session runs and how. -/
structure SessionSpec where
  name : String := ""
  command : String := ""
  args : List String := []
  env : List String := []
  cleanEnv : Bool := false
  dir : String := ""
  cols : Nat := 0
  rows : Nat := 0
  term : String := ""
  output : String := ""
  execHelper : Bool := false
  deriving Repr, Inhabited, DecidableEq

/-- Where defaults come from: the current user and the value of `$SHELL`, if set. -/
structure Defaults where
  user : Account.User := Account.administrator
  shellVariable : Option String := some Account.fallbackShell
  deriving Inhabited

/-- Fill the unset fields of a specification and expand `~` in its paths. -/
def SessionSpec.withDefaults (d : Defaults) (s : SessionSpec) : SessionSpec :=
  let command := if s.command.isEmpty then Account.currentShell (some d.user) d.shellVariable else s.command
  { s with
    command
    name := if s.name.isEmpty then command else s.name
    cols := if s.cols == 0 then defaultCols else s.cols
    rows := if s.rows == 0 then defaultRows else s.rows
    term := if s.term.isEmpty then defaultTerm else s.term
    dir := Account.expandHome d.user.home s.dir
    output := Account.expandHome d.user.home s.output }

/-- A specification for a program and its arguments, with defaults filled in. -/
def SessionSpec.forCommand (d : Defaults) (command : String) (args : List String) : SessionSpec :=
  SessionSpec.withDefaults d { command, args }

/-- The environment a session's program starts with, given the inherited one. -/
def SessionSpec.environment (s : SessionSpec) (inherited : List String) : List String :=
  Environment.forSession inherited s.cleanEnv s.env s.term

end PseudoTerm.Config
