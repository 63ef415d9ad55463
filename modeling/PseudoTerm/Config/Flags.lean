import PseudoTerm.Config.Session
import PseudoTerm.Cli.FlagSet

/-!
# Session flags on the command line

The flags that describe a session: `--cols`, `--rows`, `-d` or `--dir`, `-e` or `--env`
(repeatable, never split), `--clean-env`, `--term` and `-x` or `--exec-helper`.  The
first positional argument is the program and the rest its arguments.
-/

namespace PseudoTerm.Config

open PseudoTerm.Cli

/-- The session flags. -/
def sessionFlags : List FlagSpec :=
  [{ name := "cols", kind := .natural, usage := "terminal width. Defaults to the local terminal width or 80" },
   { name := "rows", kind := .natural, usage := "terminal height. Defaults to the local terminal height or 24" },
   { name := "dir", letter := some 'd', kind := .text, usage := "working directory of the program" },
   { name := "env", letter := some 'e', kind := .texts,
     usage := "KEY=VALUE added to the program environment. Can be repeated" },
   { name := "clean-env", kind := .truth, usage := "if set the program does not inherit the ptyrun environment" },
   { name := "term", kind := .text, usage := "value of TERM when the environment does not set one",
     default := defaultTerm },
   { name := "exec-helper", letter := some 'x', kind := .truth,
     usage := "set up the session in a helper process to get the exact failing step on errors" }]

/-- Read the session flags and positional arguments of a command line. -/
def parseFlags (args : List String) : Except String Parsed := parseArgs sessionFlags args

/-- The session a command line describes, with defaults filled in. -/
def sessionOfFlags (d : Defaults) (v : Parsed) : SessionSpec :=
  let (command, args) := match v.positional with
    | c :: a => (c, a)
    | [] => ("", [])
  SessionSpec.withDefaults d
    { command, args,
      cols := v.natural "cols", rows := v.natural "rows",
      dir := v.text "dir", env := v.texts "env",
      cleanEnv := v.truth "clean-env",
      term := v.text "term" defaultTerm,
      execHelper := v.truth "exec-helper" }

end PseudoTerm.Config
