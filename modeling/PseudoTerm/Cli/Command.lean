import PseudoTerm.Config.Flags

/-!
# The command tree

`ptyrun` has commands `capture`, `run` and `batch`, the `help` command, the
`completion` command with one subcommand per shell, and a hidden `__complete` command
(also called `__completeNoDesc`) that answers the completion scripts; it exists only on
command lines that call it.

Finding the command of a command line walks down the tree: at each command the first
word that is not a flag or a flag's value names a subcommand, if any has that name.
Flags are recognised as the command being walked knows them: a flag it does not know,
or one that takes a value, written without `=`, is taken to have the next word as its
value.

Running a command reads its flags (its own, `--help`, `--version` on the root, and the
root's `--quiet`), then shows help when asked or when the command does nothing by
itself, checks the number of positional arguments and the required flags, and runs it.
A failure prints `Error: ` and the reason, then the command's usage.

Usage and help texts follow one layout: the usage lines, aliases, examples, the
subcommands with their short descriptions, the command's own flags, the flags it
inherits, and a pointer to further help; help puts the long description first.
-/

namespace PseudoTerm.Cli

open PseudoTerm.Config

/-- The commands of the tree. -/
inductive Node where
  | root
  | batch
  | capture
  | completion
  | bash
  | fish
  | powershell
  | zsh
  | help
  | run
  | complete
  deriving DecidableEq, Repr, Inhabited

/-- How many positional arguments a command takes. -/
inductive ArgRule where
  /-- None. -/
  | none
  /-- At least this many. -/
  | atLeast (n : Nat)
  /-- Any number. -/
  | any
  deriving DecidableEq, Repr

/-- The name the program goes by. -/
def programName : String := "ptyrun"

/-- The version the program reports. -/
def programVersion : String := "development"

/-- The flag silencing the logs, inherited by every command. -/
def quietFlag : FlagSpec :=
  { name := "quiet", letter := some 'q', kind := .truth, usage := "if set disable all logs" }

/-- The flags of `capture` besides the session flags. -/
def captureFlags : List FlagSpec :=
  [{ name := "output", letter := some 'o', kind := .text,
     usage := "file receiving the terminal output. Defaults to stdout" },
   { name := "progress", letter := some 'p', kind := .truth, usage := "show a live byte counter on stderr" }]

/-- The flags of `batch`. -/
def batchFlags : List FlagSpec :=
  [{ name := "config", letter := some 'c', kind := .text, usage := "the batch config file path", required := true },
   { name := "max-workers", letter := some 'w', kind := .integer,
     usage := "sessions running at the same time. Overrides the config file value" },
   { name := "progress", letter := some 'p', kind := .truth,
     usage := "show a live byte counter per session on stderr" },
   { name := "only", kind := .list, usage := "run only the named sessions" }]

/-- The flag of the completion script commands. -/
def noDescriptionsFlag : FlagSpec :=
  { name := "no-descriptions", kind := .truth, usage := "disable completion descriptions" }

/-- What describes a command. -/
structure NodeInfo where
  use : String
  short : String := ""
  long : String := ""
  examples : String := ""
  aliases : List String := []
  /-- The command's own flags, besides `--help`. -/
  flags : List FlagSpec := []
  args : ArgRule := .any
  runnable : Bool := true
  hidden : Bool := false
  /-- Whether the usage line is shown as written, without `[flags]`. -/
  plainUseLine : Bool := false
  /-- Whether the command reads its arguments itself, flags included. -/
  rawArgs : Bool := false
  deriving Repr

/-- The long description of a completion script command. -/
def scriptHelp (shell : String) : String :=
  let p := programName
  match shell with
  | "bash" =>
    "Generate the autocompletion script for the bash shell.\n\n" ++
    "This script depends on the 'bash-completion' package.\n" ++
    "If it is not installed already, you can install it via your OS's package manager.\n\n" ++
    "To load completions in your current shell session:\n\n" ++
    "\tsource <(" ++ p ++ " completion bash)\n\n" ++
    "To load completions for every new session, execute once:\n\n" ++
    "#### Linux:\n\n" ++
    "\t" ++ p ++ " completion bash > /etc/bash_completion.d/" ++ p ++ "\n\n" ++
    "#### macOS:\n\n" ++
    "\t" ++ p ++ " completion bash > $(brew --prefix)/etc/bash_completion.d/" ++ p ++ "\n\n" ++
    "You will need to start a new shell for this setup to take effect.\n"
  | "zsh" =>
    "Generate the autocompletion script for the zsh shell.\n\n" ++
    "If shell completion is not already enabled in your environment you will need\n" ++
    "to enable it.  You can execute the following once:\n\n" ++
    "\techo \"autoload -U compinit; compinit\" >> ~/.zshrc\n\n" ++
    "To load completions in your current shell session:\n\n" ++
    "\tsource <(" ++ p ++ " completion zsh); compdef _" ++ p ++ " " ++ p ++ "\n\n" ++
    "To load completions for every new session, execute once:\n\n" ++
    "#### Linux:\n\n" ++
    "\t" ++ p ++ " completion zsh > \"$" ++ "\x7bfpath[1]\x7d/_" ++ p ++ "\"\n\n" ++
    "#### macOS:\n\n" ++
    "\t" ++ p ++ " completion zsh > $(brew --prefix)/share/zsh/site-functions/_" ++ p ++ "\n\n" ++
    "You will need to start a new shell for this setup to take effect.\n"
  | "fish" =>
    "Generate the autocompletion script for the fish shell.\n\n" ++
    "To load completions in your current shell session:\n\n" ++
    "\t" ++ p ++ " completion fish | source\n\n" ++
    "To load completions for every new session, execute once:\n\n" ++
    "\t" ++ p ++ " completion fish > ~/.config/fish/completions/" ++ p ++ ".fish\n\n" ++
    "You will need to start a new shell for this setup to take effect.\n"
  | _ =>
    "Generate the autocompletion script for powershell.\n\n" ++
    "To load completions in your current shell session:\n\n" ++
    "\t" ++ p ++ " completion powershell | Out-String | Invoke-Expression\n\n" ++
    "To load completions for every new session, add the output of the above command\n" ++
    "to your powershell profile.\n"

/-- A completion script command. -/
def scriptInfo (shell : String) : NodeInfo :=
  { use := shell, short := "Generate the autocompletion script for " ++ shell, long := scriptHelp shell,
    flags := [noDescriptionsFlag], args := .none, plainUseLine := true }

namespace Node

/-- The description of a command. -/
def info : Node → NodeInfo
  | .root =>
    { use := programName, long := "Run programs inside pseudo terminals.", args := .atLeast 1 }
  | .capture =>
    { use := "capture [flags] -- program args...",
      short := "Runs a program inside a pseudo terminal and captures its output",
      long := "Runs a program inside a pseudo terminal and captures everything it writes.\n" ++
        "The program sees a terminal but does not receive any input.",
      examples := "\n  # captures the colored output of ls\n  $ ptyrun capture -o ls.out -- ls --color=auto -l\n\n" ++
        "  # shows a byte counter while capturing\n  $ ptyrun capture -p -o build.log -- make\n\t",
      flags := sessionFlags ++ captureFlags, args := .atLeast 1 }
  | .run =>
    { use := "run [flags] [-- program args...]",
      short := "Runs a program interactively inside a pseudo terminal",
      long := "Runs a program interactively inside a pseudo terminal.\n" ++
        "The local terminal is switched to raw mode and every key is relayed to the program.\n" ++
        "Without a program the user shell is started.",
      examples := "\n  # starts the user shell\n  $ ptyrun run\n\n" ++
        "  # runs top on a 100x30 terminal\n  $ ptyrun run --cols 100 --rows 30 -- top\n\t",
      flags := sessionFlags }
  | .batch =>
    { use := "batch -c config.yaml",
      short := "Runs the sessions listed in a config file",
      long := "Runs the sessions listed in a config file on a bounded number of workers.\n" ++
        "Each session output is written to its output file. SIGINT or SIGTERM kills the\n" ++
        "running sessions.",
      examples := "\n  # runs the batch with at most 2 sessions at a time\n  $ ptyrun batch -c batch.yaml -w 2\n\n" ++
        "  # runs only two of the configured sessions\n  $ ptyrun batch -c batch.yaml --only build,lint\n\t",
      flags := batchFlags, args := .none }
  | .help =>
    { use := "help [command]", short := "Help about any command",
      long := "Help provides help for any command in the application.\n" ++
        "Simply type " ++ programName ++ " help [path to command] for full details." }
  | .completion =>
    { use := "completion", short := "Generate the autocompletion script for the specified shell",
      long := "Generate the autocompletion script for " ++ programName ++ " for the specified shell.\n" ++
        "See each sub-command's help for details on how to use the generated script.\n",
      args := .none, runnable := false }
  | .bash => scriptInfo "bash"
  | .fish => scriptInfo "fish"
  | .powershell => scriptInfo "powershell"
  | .zsh => scriptInfo "zsh"
  | .complete =>
    { use := "__complete [command-line]", aliases := ["__completeNoDesc"],
      short := "Request shell completion choices for the specified command-line",
      long := "__complete is a special command that is used by the shell completion logic\n" ++
        "to request completion choices for the specified command-line.",
      args := .atLeast 1, hidden := true, plainUseLine := true, rawArgs := true }

/-- The command's name: the first word of its usage. -/
def name (n : Node) : String := (n.info.use.splitOn " ").headD ""

/-- The command a command belongs to. -/
def parent : Node → Option Node
  | .root => none
  | .bash | .fish | .powershell | .zsh => some .completion
  | _ => some .root

/-- The subcommands, sorted by name; `__complete` only when it is called. -/
def children (withComplete : Bool) : Node → List Node
  | .root => (if withComplete then [.complete] else []) ++ [.batch, .capture, .completion, .help, .run]
  | .completion => [.bash, .fish, .powershell, .zsh]
  | _ => []

/-- The words naming a command from the root. -/
def path (n : Node) : String :=
  match n.parent with
  | none => n.name
  | some .root => programName ++ " " ++ n.name
  | some p => programName ++ " " ++ p.name ++ " " ++ n.name

/-- The flags a command defines for itself and passes to its subcommands. -/
def persistent : Node → List FlagSpec
  | .root => [quietFlag]
  | _ => []

/-- The flags a command inherits from the commands above it. -/
def inherited : Node → List FlagSpec
  | .root => []
  | _ => [quietFlag]

/-- The flag asking for a command's help. -/
def helpFlag (n : Node) : FlagSpec :=
  { name := "help", letter := some 'h', kind := .truth, usage := "help for " ++ n.name }

/-- The flag asking for the version; only the root has one. -/
def versionFlags : Node → List FlagSpec
  | .root => [{ name := "version", letter := some 'v', kind := .truth, usage := "version for " ++ programName }]
  | _ => []

/-- The command's own flags, as its help lists them. -/
def localFlags (n : Node) : List FlagSpec :=
  n.info.flags ++ n.persistent ++ [n.helpFlag] ++ n.versionFlags

/-- Every flag a command reads. -/
def allFlags (n : Node) : List FlagSpec := n.localFlags ++ n.inherited

/-- The flags a command knows while commands are being found, before `--help` and
`--version` are added. -/
def findFlags (n : Node) : List FlagSpec := n.info.flags ++ n.persistent ++ n.inherited

/-- The subcommand called `word`, by name or alias. -/
def child? (withComplete : Bool) (n : Node) (word : String) : Option Node :=
  (n.children withComplete).find? fun c => c.name == word || c.info.aliases.contains word

/-- Whether a command can be offered: shown, and runnable or holding commands that
can be offered.  The help command is never offered this way. -/
def available : Node → Bool
  | .help | .complete => false
  | .completion => true
  | n => n.info.runnable

end Node

/-- Whether a word is a flag whose value, when written without `=`, is the next word:
a long flag that is not a known truth flag, or a lone letter that is not a known
truth flag. -/
def takesNextWord (flags : List FlagSpec) (s : String) : Bool :=
  if s.toList.contains '=' then false
  else if s.startsWith "--" then
    let name := String.ofList (s.toList.drop 2)
    !(flags.any fun f => f.name == name && f.kind == .truth)
  else if s.startsWith "-" && s.utf8ByteSize == 2 then
    let c := (s.toList.drop 1).headD ' '
    !(flags.any fun f => f.letter == some c && f.kind == .truth)
  else false

/-- The words of a command line that are neither flags nor flag values, up to `--`. -/
def commandWords (flags : List FlagSpec) : List String → List String
  | [] => []
  | s :: rest =>
    if s == "--" then []
    else if takesNextWord flags s then
      match rest with
      | _ :: next :: more => commandWords flags (next :: more)
      | _ => []
    else if s != "" && !s.startsWith "-" then s :: commandWords flags rest
    else commandWords flags rest

/-- A command line without the first occurrence of the word `x` outside flag values,
up to `--`. -/
def withoutWord (flags : List FlagSpec) (x : String) : List String → List String
  | [] => []
  | s :: rest =>
    if s == "--" then s :: rest
    else if takesNextWord flags s then
      match rest with
      | [] => [s]
      | v :: more => s :: v :: withoutWord flags x more
    else if !s.startsWith "-" && s == x then rest
    else s :: withoutWord flags x rest

/-- The command a command line calls, the rest of the line, and the word that named
the command. -/
def findCommand (withComplete : Bool) (args : List String) : Node × List String × String :=
  go 4 .root args programName
where
  /-- One level of the tree per round. -/
  go : Nat → Node → List String → String → Node × List String × String
    | 0, n, args, called => (n, args, called)
    | fuel + 1, n, args, called =>
      match commandWords n.findFlags args with
      | [] => (n, args, called)
      | w :: _ =>
        match n.child? withComplete w with
        | some c => go fuel c (withoutWord n.findFlags w args) w
        | none => (n, args, called)

/-- Whether a command line calls the completion command. -/
def callsCompletion (args : List String) : Bool :=
  (findCommand true args).1 == .complete

end PseudoTerm.Cli
