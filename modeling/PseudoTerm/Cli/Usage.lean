import PseudoTerm.Cli.Command

/-!
# Usage, help and what a command line asks for

The usage of a command lists, each part only when it has something to show: its usage
line (with `[flags]` added unless written already or shown as written) and, for a
command with subcommands, `<path> [command]`; its aliases; its examples; the
subcommands it can offer (and `help`), each name padded to eleven columns; its own
flags; the flags it inherits; and, for a command with subcommands, where to find more
help.  Help is the long description (or the short one) with trailing blanks removed,
an empty line, and the usage.

A command line asks for one of four things: a failure to report with the usage, help,
the version, or running a command with the flags and arguments read.
-/

namespace PseudoTerm.Cli

namespace Node

/-- Whether a command has subcommands it can offer. -/
def hasAvailableChildren (withComplete : Bool) (n : Node) : Bool :=
  (n.children withComplete).any Node.available

/-- The usage line of a command. -/
def useLine (n : Node) : String :=
  let line := match n.parent with
    | some p => p.path ++ " " ++ n.info.use
    | none => n.info.use
  if n.info.plainUseLine || (line.splitOn "[flags]").length > 1 then line else line ++ " [flags]"

end Node

/-- A text without trailing blanks. -/
def trimTrailing (s : String) : String :=
  String.ofList (s.toList.reverse.dropWhile Char.isWhitespace).reverse

/-- A name padded on the right to at least eleven characters. -/
def padName (s : String) : String :=
  s ++ String.ofList (List.replicate (11 - s.length) ' ')

/-- The usage text of a command, ending with a line feed. -/
def usageText (withComplete : Bool) (n : Node) : String :=
  let i := n.info
  let subs := n.hasAvailableChildren withComplete
  let s := "Usage:"
  let s := if i.runnable then s ++ "\n  " ++ n.useLine else s
  let s := if subs then s ++ "\n  " ++ n.path ++ " [command]" else s
  let s := if i.aliases.isEmpty then s else s ++ "\n\nAliases:\n  " ++ ", ".intercalate (n.name :: i.aliases)
  let s := if i.examples.isEmpty then s else s ++ "\n\nExamples:\n" ++ i.examples
  let s := if subs then
      s ++ "\n\nAvailable Commands:" ++ String.join ((n.children withComplete).filterMap fun c =>
        if c.available || c.name == "help" then some ("\n  " ++ padName c.name ++ " " ++ c.info.short) else none)
    else s
  let s := s ++ "\n\nFlags:\n" ++ trimTrailing (flagListing n.localFlags)
  let s := if n.inherited.isEmpty then s else s ++ "\n\nGlobal Flags:\n" ++ trimTrailing (flagListing n.inherited)
  let s := if subs then s ++ "\n\nUse \"" ++ n.path ++ " [command] --help\" for more information about a command." else s
  s ++ "\n"

/-- The help text of a command. -/
def helpText (withComplete : Bool) (n : Node) : String :=
  let about := if n.info.long.isEmpty then n.info.short else n.info.long
  let head := if about.isEmpty then "" else trimTrailing about ++ "\n\n"
  head ++ if n.info.runnable || !(n.children withComplete).isEmpty then usageText withComplete n else ""

/-- The version line. -/
def versionText : String := programName ++ " version " ++ programVersion ++ "\n"

/-- What a command line asks for. -/
inductive Request where
  /-- Report a failure, then the command's usage. -/
  | fail (n : Node) (reason : String)
  /-- Show a command's help. -/
  | help (n : Node)
  /-- Show the version. -/
  | version
  /-- Run a command with what was read, called by the given word. -/
  | run (n : Node) (flags : Parsed) (args : List String) (calledAs : String)
  deriving Repr

/-- Why a command's positional arguments do not fit, if they do not. -/
def argsProblem (n : Node) (args : List String) : Option String :=
  match n.info.args, args with
  | .none, a :: _ => some ("unknown command " ++ Text.quote a ++ " for " ++ Text.quote n.path)
  | .atLeast k, _ =>
    if args.length < k then some s!"requires at least {k} arg(s), only received {args.length}" else none
  | _, _ => none

/-- The required flags a command line left out. -/
def missingFlags (n : Node) (p : Parsed) : List String :=
  ((sortFlags n.allFlags).filter fun f => f.required && !p.changed f.name).map (·.name)

/-- What a command line asks for. -/
def request (args : List String) : Request :=
  let withComplete := callsCompletion args
  let (n, rest, called) := findCommand withComplete args
  if n.info.rawArgs then
    match argsProblem n rest with
    | some reason => .fail n reason
    | none => .run n {} rest called
  else
    match parseArgs n.allFlags rest with
    | .error reason => if reason == helpRequested then .help n else .fail n reason
    | .ok p =>
      if p.truth "help" then .help n
      else if n == .root && p.truth "version" then .version
      else if !n.info.runnable then .help n
      else
        match argsProblem n p.positional with
        | some reason => .fail n reason
        | none =>
          match missingFlags n p with
          | [] => .run n p p.positional called
          | names => .fail n ("required flag(s) \"" ++ "\", \"".intercalate names ++ "\" not set")

end PseudoTerm.Cli
