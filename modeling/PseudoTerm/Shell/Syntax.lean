/-!
# The syntax of shell scripts

A script is a command tree: simple commands (assignments, words and redirections),
pipelines, and-or lists, sequences, background jobs, subshells, brace groups,
conditionals, loops, `case` and function definitions.

A word is a list of parts: literal text (quoted or not), parameter expansions with
their operators, command substitutions (kept as source text and parsed when run),
arithmetic expansions and a leading tilde.  Whether a part was quoted decides later
whether its expansion is split into fields.
-/

namespace PseudoTerm.Shell

/-- The operator of a parameter expansion `${name op word}`. -/
inductive ParamOp where
  | plain
  /-- `-` (or `:-` when `colon`): a default for an unset (or empty) parameter. -/
  | useDefault (colon : Bool)
  /-- `=` or `:=`: assign the default too. -/
  | assignDefault (colon : Bool)
  /-- `?` or `:?`: fail with the word as message. -/
  | errorIfUnset (colon : Bool)
  /-- `+` or `:+`: the word when the parameter is set (and not empty). -/
  | useAlternative (colon : Bool)
  /-- `%` and `%%`: remove the smallest or largest matching suffix. -/
  | removeSuffix (largest : Bool)
  /-- `#` and `##`: remove the smallest or largest matching prefix. -/
  | removePrefix (largest : Bool)
  deriving DecidableEq, Repr, Inhabited

/-- A part of a word. -/
inductive Part where
  | text (s : String) (quoted : Bool)
  | param (name : String) (op : ParamOp) (arg : List Part) (quoted : Bool)
  | length (name : String) (quoted : Bool)
  | command (source : String) (quoted : Bool)
  | arith (expr : List Part) (quoted : Bool)
  | tilde (user : String)
  deriving Repr, Inhabited

/-- A word: parts side by side. -/
abbrev Word := List Part

/-- The kind of a redirection. -/
inductive RedirKind where
  | input
  | output
  | append
  | clobber
  | readWrite
  | dupInput
  | dupOutput
  /-- A here-document; its body is expanded unless the delimiter was quoted. -/
  | hereDoc (expand : Bool)
  deriving DecidableEq, Repr, Inhabited

/-- A redirection of descriptor `fd`. -/
structure Redirect where
  fd : Nat
  kind : RedirKind
  target : Word
  deriving Repr, Inhabited

/-- A command. -/
inductive Command where
  | simple (line : Nat) (assigns : List (String × Word)) (words : List Word) (redirects : List Redirect)
  | subshell (body : Command) (redirects : List Redirect)
  | group (body : Command) (redirects : List Redirect)
  | pipeline (negate : Bool) (stages : List Command)
  | andThen (first second : Command)
  | orElse (first second : Command)
  | sequence (first second : Command)
  | background (job : Command)
  | ifThen (cond thenPart : Command) (elsePart : Option Command) (redirects : List Redirect)
  | loop (isUntil : Bool) (cond body : Command) (redirects : List Redirect)
  | forEach (name : String) (items : Option (List Word)) (body : Command) (redirects : List Redirect)
  | caseOf (subject : Word) (arms : List (List Word × Command)) (redirects : List Redirect)
  | function (name : String) (body : Command)
  | empty
  deriving Repr, Inhabited

/-- Whether a word is a single unquoted text. -/
def Word.plain? : Word → Option String
  | [.text s false] => some s
  | _ => none

end PseudoTerm.Shell
