/-!
# Command lines of the standard utilities

A utility knows its options by letter (`-n 5`, `-n5`, clusters such as `-qv`) and by long
name (`--lines=5`, `--lines 5`, or any prefix of the name that no other long option
shares).  Options and operands may be mixed; `--` ends the options, and `-` alone is an
operand.  A utility may ask to stop at the first operand instead.

Each problem has its message: an unknown letter, a letter missing its value, an unknown
or ambiguous long name (with the names it could mean), a value given to a long option
that takes none, and a long option missing its value.
-/

namespace PseudoTerm.Programs

/-- Whether an option takes a value. -/
inductive ValueUse where
  | none
  | required
  /-- Only written in the same argument (`-xVALUE`, `--name=VALUE`). -/
  | optional
  deriving DecidableEq, Repr, Inhabited

/-- An option a utility knows: its key, its letter and long name, and its value. -/
structure OptionDef where
  key : String
  letter : Option Char := none
  long : Option String := none
  value : ValueUse := .none
  deriving Repr, Inhabited

/-- A letter option. -/
def letterOption (c : Char) (value : ValueUse := .none) (long : Option String := none) : OptionDef :=
  { key := c.toString, letter := some c, long, value }

/-- A long option without a letter. -/
def longOnly (name : String) (value : ValueUse := .none) : OptionDef :=
  { key := name, long := some name, value }

/-- An option as given: its key and its value. -/
structure GivenOption where
  key : String
  value : Option String := none
  deriving Repr, Inhabited

/-- What is wrong with a command line. -/
inductive OptionProblem where
  | unknownLetter (c : Char)
  | letterNeedsValue (c : Char)
  | unknownLong (text : String)
  | ambiguous (text : String) (names : List String)
  | valueNotAllowed (name : String)
  | longNeedsValue (name : String)
  deriving Repr, Inhabited

/-- The message of a problem, after the program's name and a colon. -/
def OptionProblem.message : OptionProblem → String
  | .unknownLetter c => s!"invalid option -- '{c}'"
  | .letterNeedsValue c => s!"option requires an argument -- '{c}'"
  | .unknownLong text => s!"unrecognized option '--{text}'"
  | .ambiguous text names =>
    s!"option '--{text}' is ambiguous; possibilities:" ++ String.join (names.map fun n => s!" '--{n}'")
  | .valueNotAllowed name => s!"option '--{name}' doesn't allow an argument"
  | .longNeedsValue name => s!"option '--{name}' requires an argument"

/-- A read command line: the options in order, and the operands; when reading stopped at a
problem, the options before it and the problem. -/
structure CommandLine where
  options : List GivenOption := []
  operands : List String := []
  problem : Option OptionProblem := none
  deriving Repr, Inhabited

namespace CommandLine

/-- Whether an option was given. -/
def has (c : CommandLine) (key : String) : Bool := c.options.any (·.key == key)

/-- The value of the last time an option was given. -/
def last? (c : CommandLine) (key : String) : Option String :=
  (c.options.filter (·.key == key)).getLast?.bind (·.value)

/-- All values given to an option, in order. -/
def values (c : CommandLine) (key : String) : List String :=
  (c.options.filter (·.key == key)).filterMap (·.value)

end CommandLine

/-- The option a long name stands for: the one of exactly that name, else the only one
whose name it starts, else the candidates (all of them when none). -/
def findLong (defs : List OptionDef) (name : String) : Except (List String) OptionDef :=
  match defs.find? (·.long == some name) with
  | some d => .ok d
  | none =>
    let candidates := defs.filter fun d => match d.long with
      | some l => name.isPrefixOf l
      | none => false
    match candidates with
    | [d] => .ok d
    | d :: rest =>
      if rest.all fun e => e.key == d.key && e.value == d.value then .ok d
      else .error (candidates.filterMap (·.long))
    | [] => .error []

/-- Read the letters of one argument after its dash; a problem comes with the options
read before it. -/
def readLetters (defs : List OptionDef) : List Char → List String → List GivenOption →
    Except (OptionProblem × List GivenOption) (List GivenOption × List String)
  | [], rest, acc => .ok (acc, rest)
  | c :: more, rest, acc =>
    match defs.find? (·.letter == some c) with
    | none => .error (.unknownLetter c, acc)
    | some d =>
      match d.value with
      | .none => readLetters defs more rest (acc ++ [{ key := d.key }])
      | .optional =>
        .ok (acc ++ [{ key := d.key, value := if more.isEmpty then none else some (String.ofList more) }], rest)
      | .required =>
        if !more.isEmpty then .ok (acc ++ [{ key := d.key, value := some (String.ofList more) }], rest)
        else
          match rest with
          | v :: rest' => .ok (acc ++ [{ key := d.key, value := some v }], rest')
          | [] => .error (.letterNeedsValue c, acc)

/-- Read a long option, the text after its two dashes. -/
def readLong (defs : List OptionDef) (text : String) (rest : List String) :
    Except OptionProblem (GivenOption × List String) :=
  let (name, value) := match text.splitOn "=" with
    | n :: v :: more => (n, some ("=".intercalate (v :: more)))
    | _ => (text, none)
  match findLong defs name with
  | .error [] => .error (.unknownLong text)
  | .error names => .error (.ambiguous text names)
  | .ok d =>
    let full := d.long.getD name
    match d.value, value with
    | .none, some _ => .error (.valueNotAllowed full)
    | .none, none => .ok ({ key := d.key }, rest)
    | _, some v => .ok ({ key := d.key, value := some v }, rest)
    | .optional, none => .ok ({ key := d.key }, rest)
    | .required, none =>
      match rest with
      | v :: rest' => .ok ({ key := d.key, value := some v }, rest')
      | [] => .error (.longNeedsValue full)

/-- Read a command line (without the program's name); with `stopAtOperand` the options
end at the first operand; arguments that `operandLike` accepts are operands even when they
start with a dash. -/
def readCommandLine (defs : List OptionDef) (args : List String) (stopAtOperand : Bool := false)
    (operandLike : String → Bool := fun _ => false) : CommandLine :=
  go args.length args {}
where
  /-- One argument at a time. -/
  go : Nat → List String → CommandLine → CommandLine
    | 0, rest, c => { c with operands := c.operands ++ rest }
    | _, [], c => c
    | fuel + 1, a :: rest, c =>
      if a == "--" then { c with operands := c.operands ++ rest }
      else if operandLike a then
        if stopAtOperand then { c with operands := c.operands ++ a :: rest }
        else go fuel rest { c with operands := c.operands ++ [a] }
      else if a.startsWith "--" then
        match readLong defs (a.drop 2).toString rest with
        | .ok (o, rest) => go fuel rest { c with options := c.options ++ [o] }
        | .error p => { c with problem := some p }
      else if a.startsWith "-" && a.length > 1 then
        match readLetters defs (a.toList.drop 1) rest [] with
        | .ok (os, rest) => go fuel rest { c with options := c.options ++ os }
        | .error (p, os) => { c with options := c.options ++ os, problem := some p }
      else if stopAtOperand then { c with operands := c.operands ++ a :: rest }
      else go fuel rest { c with operands := c.operands ++ [a] }

end PseudoTerm.Programs
