import PseudoTerm.Text.Numeric

/-!
# Flag sets

A command line is read against a set of flags.  Each flag has a long name, perhaps a
one-letter name, a kind of value and a line of help.  Reading goes argument by
argument: `--` ends the flags (everything after it is positional), a lone `-` and any
argument not starting with `-` is positional, and flags and positional arguments may be
mixed.

* `--name=value` gives the value inline; `--name` takes the next argument as its value,
  except for a truth flag, which is then set to true.
* `-abc` is a group of one-letter flags: truth flags are set in turn, and the first flag
  that takes a value takes the rest of the group (after an optional `=`) or, when the
  group ends with it, the next argument.  A group starting with `test.` is passed over.
* An unknown `--help` or `-h` asks for help.

Values are checked as they are set: numbers are read with the base of their prefix,
truth values from their usual spellings, and a list flag reads its value as one line
of comma-separated values, where a field may be quoted and `""` inside quotes is a
quote.  A text-list flag keeps every value it is given; a list flag adds each value's
items.

The help listing of a set shows one line per flag, sorted by name, with the flag's
names, the kind of its value and its help aligned in two columns.
-/

namespace PseudoTerm.Cli

open PseudoTerm.Text

/-- The kind of value a flag takes. -/
inductive FlagKind where
  /-- A truth value; the flag alone means true. -/
  | truth
  /-- An unsigned number of 32 bits. -/
  | natural
  /-- A signed number of 64 bits. -/
  | integer
  /-- A text. -/
  | text
  /-- Texts, one per use of the flag. -/
  | texts
  /-- Texts, as comma-separated values. -/
  | list
  deriving DecidableEq, Repr, Inhabited

/-- The name of a kind's value in the help listing. -/
def FlagKind.valueName : FlagKind → String
  | .truth => ""
  | .natural => "uint32"
  | .integer => "int"
  | .text => "string"
  | .texts => "stringArray"
  | .list => "strings"

/-- Whether a flag of this kind may be given many times, each adding values. -/
def FlagKind.repeats : FlagKind → Bool
  | .texts | .list => true
  | _ => false

/-- A flag. -/
structure FlagSpec where
  name : String
  letter : Option Char := none
  kind : FlagKind
  usage : String := ""
  /-- The default of a text flag, shown in the listing when not empty. -/
  default : String := ""
  /-- Whether a command needs the flag to be given. -/
  required : Bool := false
  deriving Repr, Inhabited

/-- A flag's value. -/
inductive FlagValue where
  | truth (b : Bool)
  | natural (n : Nat)
  | integer (i : Int)
  | text (s : String)
  | texts (items : List String)
  deriving DecidableEq, Repr, Inhabited

/-- What reading a command line found: the values of the flags given (the latest
first), the positional arguments, and how many positional arguments came before `--`. -/
structure Parsed where
  values : List (String × FlagValue) := []
  positional : List String := []
  dashAt : Option Nat := none
  deriving Repr, Inhabited

namespace Parsed

/-- Whether a flag was given. -/
def changed (p : Parsed) (name : String) : Bool := (p.values.lookup name).isSome

/-- The value of a truth flag. -/
def truth (p : Parsed) (name : String) : Bool :=
  match p.values.lookup name with
  | some (.truth b) => b
  | _ => false

/-- The value of an unsigned flag. -/
def natural (p : Parsed) (name : String) : Nat :=
  match p.values.lookup name with
  | some (.natural n) => n
  | _ => 0

/-- The value of a signed flag. -/
def integer (p : Parsed) (name : String) : Int :=
  match p.values.lookup name with
  | some (.integer i) => i
  | _ => 0

/-- The value of a text flag, or its default. -/
def text (p : Parsed) (name : String) (dflt : String := "") : String :=
  match p.values.lookup name with
  | some (.text s) => s
  | _ => dflt

/-- The values of a text-list or list flag. -/
def texts (p : Parsed) (name : String) : List String :=
  match p.values.lookup name with
  | some (.texts xs) => xs
  | _ => []

end Parsed

/-- The error of asking for help with a flag the set does not have. -/
def helpRequested : String := "pflag: help requested"

/-! ## Comma-separated values -/

/-- The text of bytes that came from a text, cut at ASCII bytes only. -/
def textOfBytes (bs : List UInt8) : String := (String.fromUTF8? ⟨bs.toArray⟩).getD ""

/-- The lines of an input: each ends with its line feed (a carriage return before it is
dropped), and the last one may have none (a carriage return ending it is dropped). -/
def csvLines (bs : List UInt8) : List (List UInt8) :=
  go (bs.length + 1) bs
where
  /-- One line per round. -/
  go : Nat → List UInt8 → List (List UInt8)
    | 0, _ => []
    | _, [] => []
    | fuel + 1, bs =>
      let line := bs.takeWhile (· != 10)
      let rest := bs.drop (line.length + 1)
      if line.length < bs.length then
        let line := if line.getLast? == some 13 then line.dropLast else line
        (line ++ [10]) :: go fuel rest
      else
        [if line.getLast? == some 13 then line.dropLast else line]

/-- The message of a malformed line at a place. -/
def csvError (startLine line column : Nat) (what : String) : String :=
  if startLine != line then
    s!"record on line {startLine}; parse error on line {line}, column {column}: {what}"
  else s!"parse error on line {line}, column {column}: {what}"

/-- A quote inside a field that is not quoted. -/
def bareQuote : String := "bare \" in non-quoted-field"

/-- A quote that neither ends a quoted field nor is doubled. -/
def strayQuote : String := "extraneous or missing \" in quoted-field"

/-- The fields of the first record of an input. -/
def readCsvRecord (input : String) : Except String (List String) :=
  let lines := (csvLines input.toUTF8.toList).dropWhile (· == [10])
  let skipped := (csvLines input.toUTF8.toList).length - lines.length
  match lines with
  | [] => .error "EOF"
  | first :: more => field (input.utf8ByteSize + lines.length + 2) (skipped + 1) first more (skipped + 1) 1 []
where
  /-- Read fields from the start of one. -/
  field : Nat → Nat → List UInt8 → List (List UInt8) → Nat → Nat → List String → Except String (List String)
    | 0, _, _, _, _, _, acc => .ok acc
    | fuel + 1, start, line, more, lineNo, col, acc =>
      match line with
      | 34 :: rest => quoted fuel start rest more lineNo (col + 1) [] acc
      | _ =>
        let body := line.takeWhile (· != 44)
        let atComma := body.length < line.length
        let value := if atComma then body else if body.getLast? == some 10 then body.dropLast else body
        match value.idxOf? 34 with
        | some j => .error (csvError start lineNo (col + j) bareQuote)
        | none =>
          if atComma then field fuel start (line.drop (body.length + 1)) more lineNo (col + body.length + 1)
            (acc ++ [textOfBytes value])
          else .ok (acc ++ [textOfBytes value])
  /-- Read the rest of a quoted field. -/
  quoted : Nat → Nat → List UInt8 → List (List UInt8) → Nat → Nat → List UInt8 → List String →
      Except String (List String)
    | 0, _, _, _, _, _, _, acc => .ok acc
    | fuel + 1, start, line, more, lineNo, col, buf, acc =>
      let before := line.takeWhile (· != 34)
      if before.length < line.length then
        let buf := buf ++ before
        let line := line.drop (before.length + 1)
        let col := col + before.length + 1
        match line with
        | 34 :: rest => quoted fuel start rest more lineNo (col + 1) (buf ++ [34]) acc
        | 44 :: rest => field fuel start rest more lineNo (col + 1) (acc ++ [textOfBytes buf])
        | [] | [10] => .ok (acc ++ [textOfBytes buf])
        | _ => .error (csvError start lineNo (col - 1) strayQuote)
      else if !line.isEmpty then
        let buf := buf ++ line
        match more with
        | next :: rest => quoted fuel start next rest (lineNo + 1) 1 buf acc
        | [] => .error (csvError start lineNo (col + line.length) strayQuote)
      else .error (csvError start lineNo col strayQuote)

/-! ## Reading a command line -/

/-- How a flag is shown in a message about its value. -/
def FlagSpec.shown (f : FlagSpec) : String :=
  match f.letter with
  | some c => "-" ++ String.singleton c ++ ", --" ++ f.name
  | none => "--" ++ f.name

/-- Give a flag a value. -/
def Parsed.set (p : Parsed) (f : FlagSpec) (value : String) : Except String Parsed :=
  let invalid (why : String) : String :=
    "invalid argument " ++ quote value ++ " for " ++ quote f.shown ++ " flag: " ++ why
  let put (v : FlagValue) : Parsed := { p with values := (f.name, v) :: p.values.filter (·.1 != f.name) }
  match f.kind with
  | .truth =>
    match parseTruth value with
    | .ok b => .ok (put (.truth b))
    | .error e => .error (invalid (numberError "ParseBool" value e))
  | .natural =>
    match parseUnsigned value 32 with
    | .ok n => .ok (put (.natural n))
    | .error e => .error (invalid (numberError "ParseUint" value e))
  | .integer =>
    match parseSigned value 64 with
    | .ok i => .ok (put (.integer i))
    | .error e => .error (invalid (numberError "ParseInt" value e))
  | .text => .ok (put (.text value))
  | .texts => .ok (put (.texts (p.texts f.name ++ [value])))
  | .list =>
    let items := if value.isEmpty then .ok [] else readCsvRecord value
    match items with
    | .ok xs => .ok (put (.texts (p.texts f.name ++ xs)))
    | .error e => .error (invalid e)

/-- Read one long flag `--name[=value]`, taking its value from the next argument if
needed. -/
def longFlag (flags : List FlagSpec) (p : Parsed) (arg : String) (rest : List String) :
    Except String (Parsed × List String) := do
  let body := String.ofList (arg.toList.drop 2)
  if body.isEmpty || body.startsWith "-" || body.startsWith "=" then
    throw ("bad flag syntax: " ++ arg)
  let name := String.ofList (body.toList.takeWhile (· != '='))
  let inline : Option String :=
    if body.toList.contains '=' then some (String.ofList ((body.toList.dropWhile (· != '=')).drop 1))
    else none
  match flags.find? (·.name == name) with
  | none =>
    if name == "help" then throw helpRequested
    throw ("unknown flag: --" ++ name)
  | some f =>
    match inline with
    | some value => pure (← p.set f value, rest)
    | none =>
      if f.kind == .truth then pure (← p.set f "true", rest)
      else match rest with
        | value :: rest' => pure (← p.set f value, rest')
        | [] => throw ("flag needs an argument: " ++ arg)

/-- Read a group of one-letter flags, taking a value from the group's rest or from the
next argument. -/
def shortFlags (flags : List FlagSpec) (p : Parsed) (letters : List Char) (rest : List String) :
    Except String (Parsed × List String) :=
  go letters.length p letters rest
where
  /-- One letter per round. -/
  go : Nat → Parsed → List Char → List String → Except String (Parsed × List String)
    | 0, p, _, rest => .ok (p, rest)
    | _ + 1, p, [], rest => .ok (p, rest)
    | fuel + 1, p, c :: more, rest => do
      let group := String.ofList (c :: more)
      if group.startsWith "test." then return (p, rest)
      -- a letter is looked up by its first byte, and shown as that byte
      let shown := quoteRune (Char.ofNat ((String.singleton c).toUTF8.get! 0).toNat)
      match flags.find? (·.letter == some c) with
      | none =>
        if c == 'h' then throw helpRequested
        throw ("unknown shorthand flag: " ++ shown ++ " in -" ++ group)
      | some f =>
        match more with
        | '=' :: value@(_ :: _) => pure (← p.set f (String.ofList value), rest)
        | _ =>
          if f.kind == .truth then go fuel (← p.set f "true") more rest
          else if !more.isEmpty then pure (← p.set f (String.ofList more), rest)
          else match rest with
            | value :: rest' => pure (← p.set f value, rest')
            | [] => throw ("flag needs an argument: " ++ shown ++ " in -" ++ group)

/-- Read the flags and positional arguments of a command line, starting from what an
earlier reading found. -/
def parseOnto (flags : List FlagSpec) (start : Parsed) (args : List String) : Except String Parsed :=
  go (args.length + 1) { start with positional := [], dashAt := none } args
where
  /-- One argument (with its value) per round. -/
  go : Nat → Parsed → List String → Except String Parsed
    | 0, p, _ => .ok p
    | _ + 1, p, [] => .ok p
    | fuel + 1, p, arg :: rest =>
      match arg.toList with
      | '-' :: '-' :: [] => .ok { p with positional := p.positional ++ rest, dashAt := some p.positional.length }
      | '-' :: '-' :: _ => do
        let (p', rest') ← longFlag flags p arg rest
        go fuel p' rest'
      | '-' :: c :: more => do
        let (p', rest') ← shortFlags flags p (c :: more) rest
        go fuel p' rest'
      | _ => go fuel { p with positional := p.positional ++ [arg] } rest

/-- Read the flags and positional arguments of a command line. -/
def parseArgs (flags : List FlagSpec) (args : List String) : Except String Parsed :=
  parseOnto flags {} args

/-! ## The help listing -/

/-- Whether a flag's default is its kind's zero value. -/
def FlagSpec.defaultIsZero (f : FlagSpec) : Bool := f.default.isEmpty

/-- Sort flags by name. -/
def sortFlags (flags : List FlagSpec) : List FlagSpec :=
  flags.mergeSort fun a b => decide (a.name ≤ b.name)

/-- The left column of a flag's line. -/
def FlagSpec.names (f : FlagSpec) : String :=
  let base := match f.letter with
    | some c => "  -" ++ String.singleton c ++ ", --" ++ f.name
    | none => "      --" ++ f.name
  if f.kind.valueName.isEmpty then base else base ++ " " ++ f.kind.valueName

/-- The right column of a flag's line. -/
def FlagSpec.help (f : FlagSpec) : String :=
  if f.defaultIsZero then f.usage
  else if f.kind == .text then f.usage ++ " (default " ++ quote f.default ++ ")"
  else f.usage ++ " (default " ++ f.default ++ ")"

/-- The help listing of flags: one line each, sorted by name, the help column starting
one column after the longest left column, each line ending with a line feed. -/
def flagListing (flags : List FlagSpec) : String :=
  let sorted := sortFlags flags
  let width := sorted.foldl (fun w f => max w (f.names.length + 1)) 0
  String.join (sorted.map fun f =>
    f.names ++ " " ++ String.ofList (List.replicate (width - f.names.length) ' ') ++ " " ++ f.help ++ "\n")

end PseudoTerm.Cli
