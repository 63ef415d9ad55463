import PseudoTerm.Cli.Usage

/-!
# Answering completion requests

A completion script calls `ptyrun __complete <words...> <typed>` and reads the answer:
one candidate per line (a candidate may carry a description after a tab; the
`__completeNoDesc` form drops it), then `:<directive>`, where the directive tells the
script what to do besides: 1 means an error, 2 no space after the word, 4 no file
names, 8 file names with the listed extensions, 16 directory names.  A line on the
error stream names the directive, after a debugging line for an error.

The words before the one being typed select the command.  When the previous word is a
flag that takes a value (or the typed word is `--flag=`), the value of that flag is
completed: `batch --config` offers `yaml` and `yml` as extensions, and `batch --only`
offers the session names of the configuration file given with `--config` (no names
and an error when it cannot be read).  A typed word starting with `-` completes flag
names: the required flags not given yet, or else every flag not given yet (flags that
may be repeated are always offered), inherited flags first.  Otherwise the
subcommands are offered when no positional argument came yet and no flag of the
command's own was given, then the required flags not given yet, then what the command
itself offers: `help` the commands below the path its arguments name, the completion
commands nothing.
-/

namespace PseudoTerm.Cli

/-- The completion directives. -/
def directiveError : Nat := 1
/-- Do not add a space after the completed word. -/
def directiveNoSpace : Nat := 2
/-- Do not offer file names. -/
def directiveNoFiles : Nat := 4
/-- Offer file names with the listed extensions. -/
def directiveExtensions : Nat := 8
/-- Offer directory names. -/
def directiveDirectories : Nat := 16

/-- The names of the bits of a directive. -/
def directiveName (d : Nat) : String :=
  let names := [(directiveError, "ShellCompDirectiveError"), (directiveNoSpace, "ShellCompDirectiveNoSpace"),
    (directiveNoFiles, "ShellCompDirectiveNoFileComp"), (directiveExtensions, "ShellCompDirectiveFilterFileExt"),
    (directiveDirectories, "ShellCompDirectiveFilterDirs")]
  let set := names.filter fun (bit, _) => (d / bit) % 2 == 1
  if d ≥ 32 then s!"ERROR: unexpected ShellCompDirective value: {d}"
  else if set.isEmpty then "ShellCompDirectiveDefault"
  else ", ".intercalate (set.map (·.2))

/-- The answer of a completion request. -/
structure Completion where
  candidates : List String := []
  directive : Nat := 0
  error : Option String := none
  deriving Repr, Inhabited

/-- The offers for a flag's names that start with `typed`. -/
def flagOffers (f : FlagSpec) (typed : String) : List String :=
  let long := "--" ++ f.name
  let short := f.letter.map fun c => "-" ++ String.singleton c
  (if long.startsWith typed then [long ++ "\t" ++ f.usage] else []) ++
  match short with
  | some s => if s.startsWith typed then [s ++ "\t" ++ f.usage] else []
  | none => []

/-- The flags of a command in the order offers list them: inherited ones first, each
group sorted by name. -/
def offerOrder (n : Node) : List FlagSpec := sortFlags n.inherited ++ sortFlags n.localFlags

/-- The offers of required flags not given yet. -/
def requiredOffers (n : Node) (p : Parsed) (typed : String) : List String :=
  (offerOrder n).foldl (fun acc f => if f.required && !p.changed f.name then acc ++ flagOffers f typed else acc) []

/-- A flag of a command by its long name, or by its letter when one character long. -/
def findFlag (n : Node) (name : String) : Option FlagSpec :=
  if name.utf8ByteSize == 1 then
    match n.allFlags.find? (fun f => f.letter == some ((name.toList.headD ' '))) with
    | some f => some f
    | none => none
  else n.allFlags.find? (·.name == name)

/-- Whether a word is written like a flag. -/
def looksLikeFlag (arg : String) : Bool :=
  match arg.toList with
  | _ :: '-' :: _ :: _ => true
  | '-' :: c :: _ => c != '-'
  | _ => false

/-- Which flag's value is being typed, the words left before it, the typed value, or
a flag the command does not have. -/
def valueBeingTyped (n : Node) (args : List String) (typed : String) :
    Option FlagSpec × List String × String × Option String :=
  if n.info.rawArgs then (none, args, typed, none)
  else
    let (name, typed', withEqual, earlyStop) :=
      if typed.startsWith "-" then
        match typed.toList.idxOf? '=' with
        | some i =>
          let head := String.ofList (typed.toList.take i)
          let name := if head.startsWith "--" then String.ofList (head.toList.drop 2)
            else String.ofList ((typed.toList.take i).drop (i - 1))
          (name, String.ofList (typed.toList.drop (i + 1)), true, false)
        | none => ("", typed, false, true)
      else ("", typed, false, false)
    if earlyStop then (none, args, typed, none)
    else
      let (name, trimmed) :=
        if name.isEmpty then
          match args.getLast? with
          | some prev =>
            if looksLikeFlag prev && !prev.toList.contains '=' then
              (if prev.startsWith "--" then String.ofList (prev.toList.drop 2)
               else String.ofList [prev.toList.getLastD ' '], args.dropLast)
            else (name, args)
          | none => (name, args)
        else (name, args)
      if name.isEmpty then (none, trimmed, typed', none)
      else
        match findFlag n name with
        | none => (none, args, typed, some s!"Subcommand '{n.name}' does not support flag '{name}'")
        | some f =>
          if !withEqual && f.kind == .truth then (none, args, typed', none)
          else (some f, trimmed, typed', none)

/-- A list of words as shown in messages: in brackets, separated by spaces. -/
def wordsShown (ws : List String) : String := "[" ++ " ".intercalate ws ++ "]"

/-- What `help` offers: the commands below the one its arguments name. -/
def helpOffers (args : List String) (typed : String) : List String :=
  let (target, _, _) := findCommand true args
  (target.children true).filterMap fun c =>
    if (c.available || c == .help && target == .root) && c.name.startsWith typed then
      some (c.name ++ "\t" ++ c.info.short)
    else none

/-- Answer a completion request for `words` (the last one being typed), reading the
session names of a configuration file with `sessionsOf`. -/
def complete {m : Type → Type} [Monad m] (sessionsOf : String → m (Option (List String)))
    (words : List String) : m (Node × Completion) := do
  let typed := words.getLastD ""
  let before := words.dropLast
  let (n, found, _) := findCommand true before
  let (flag, rest, typed, flagProblem) := valueBeingTyped n found typed
  let read (ws : List String) : Except String Parsed :=
    if n.info.rawArgs then .ok { positional := ws } else parseArgs n.allFlags ws
  let withDash := read (rest ++ ["--"])
  match read rest with
  | .error e =>
    return (n, { directive := 0, error := some ("Error while parsing flags from args " ++ wordsShown rest ++ ": " ++ e) })
  | .ok p =>
    let flagValues := match withDash with
      | .ok q => q.positional.length ≤ p.positional.length
      | .error _ => true
    if let some problem := flagProblem then
      if flagValues then return (n, { error := some problem })
    if p.changed "help" || (n == .root && p.changed "version") then
      return (n, { directive := directiveNoFiles })
    let positional := if n.info.rawArgs then rest else p.positional
    match flag.filter fun _ => flagValues with
    | some f =>
      if n == .batch && f.name == "config" then
        return (n, { candidates := ["yaml", "yml"], directive := directiveExtensions })
      else if n == .batch && f.name == "only" then
        let path := p.text "config"
        if path.isEmpty then return (n, { directive := directiveNoFiles })
        match ← sessionsOf path with
        | none => return (n, { directive := directiveError })
        | some names => return (n, { candidates := names.filter (·.startsWith typed), directive := directiveNoFiles })
      else return (n, { directive := 0 })
    | none =>
      if typed.startsWith "-" && !typed.toList.contains '=' && flagValues then
        let required := requiredOffers n p typed
        let offers := if required.isEmpty then
            (offerOrder n).foldl (fun acc f =>
              if !p.changed f.name || f.kind.repeats then acc ++ flagOffers f typed else acc) []
          else required
        let directive := match offers with
          | [one] => if one.endsWith "=" then directiveNoSpace else directiveNoFiles
          | _ => directiveNoFiles
        return (n, { candidates := offers, directive })
      else
        let ownGiven := (n.localFlags.filter fun f => !(n.persistent.any (·.name == f.name))).any
          fun f => p.changed f.name
        let (subs, directive) :=
          if flag.isNone && positional.isEmpty && !ownGiven then
            (n.children true).foldl (fun (acc, d) c =>
              if c.available || (c == .help && n == .root) then
                (if c.name.startsWith typed then acc ++ [c.name ++ "\t" ++ c.info.short] else acc, directiveNoFiles)
              else (acc, d)) ([], 0)
          else ([], 0)
        let candidates := if flag.isNone then subs ++ requiredOffers n p typed else []
        match n with
        | .help => return (n, { candidates := candidates ++ helpOffers positional typed, directive := directiveNoFiles })
        | .completion | .bash | .fish | .powershell | .zsh =>
          return (n, { candidates, directive := directiveNoFiles })
        | _ => return (n, { candidates, directive })

/-- The standard output of a completion answer: the candidates (without descriptions
when asked), then the directive. -/
def completionOutput (c : Completion) (descriptions : Bool) : String :=
  let shown := c.candidates.map fun cand =>
    let cand := if descriptions then cand else (cand.splitOn "\t").headD ""
    let cand := (cand.splitOn "\n").headD ""
    String.ofList ((cand.toList.dropWhile Char.isWhitespace).reverse.dropWhile Char.isWhitespace).reverse
  String.join (shown.map (· ++ "\n")) ++ s!":{c.directive}\n"

/-- The error output of a completion answer. -/
def completionErrors (c : Completion) : String :=
  (match c.error with
   | some e => "[Debug] [Error] " ++ e ++ "\n"
   | none => "") ++ "Completion ended with directive: " ++ directiveName c.directive ++ "\n"

end PseudoTerm.Cli
