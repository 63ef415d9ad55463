import PseudoTerm.Programs.Tool
import PseudoTerm.Pattern.Compile
import PseudoTerm.Pattern.Search
import PseudoTerm.Text.Quantity

/-!
# Selecting lines: `grep`

`grep` writes the lines of its inputs that match any of its patterns (with `-v`, those
that match none).  Patterns are basic by default, extended with `-E`, fixed strings with
`-F`; a pattern of several lines is one pattern a line.  With `-w` a match must stand
between bytes that are not word bytes, the longest such from each position; with `-x`
it must be the whole line.

Each written line may be preceded by the input's name (when there is more than one input,
or `-H`), its number (`-n`) and its offset in bytes (`-b`), each followed by `:` (by `-`
on a line of context, asked with `-A`, `-B`, `-C`); groups of lines that are not next to
each other are separated by `--`.  `-o` writes each non-empty match on a line of its own,
`-c` the number of selected lines, `-l` and `-L` the names of inputs with and without
one, and `-q` nothing.  An input holding a zero byte is not written: a selected line in
it is reported on the error output.

The status is 0 when a line was selected, 1 when none was, 2 after a problem (0 even
then, with `-q`, when a line was selected).
-/

namespace PseudoTerm.Programs

open PseudoTerm.Machine PseudoTerm.Text PseudoTerm.Pattern Tool

variable {μ : Type}

namespace Selecting

/-- What lines are selected by. -/
structure Selection where
  patterns : List Compiled
  words : Bool := false
  wholeLine : Bool := false
  deriving Inhabited

/-- Whether a match from `start` to `stop` stands between bytes that are not word bytes. -/
def wordBounded (line : ByteArray) (start stop : Nat) : Bool :=
  (start == 0 || !wordByte (line.get! (start - 1))) && (stop ≥ line.size || !wordByte (line.get! stop))

/-- The end of the longest acceptable match of the patterns from a position. -/
def Selection.endAt (sel : Selection) (line : ByteArray) (start : Nat) : Option Nat :=
  let ends := sel.patterns.flatMap fun p => (p.outcomesAt { bytes := line } start).map (·.pos)
  let ok (stop : Nat) : Bool :=
    if sel.wholeLine then start == 0 && stop == line.size
    else if sel.words then wordBounded line start stop
    else true
  (ends.filter ok).max?

/-- The first acceptable match at or after a position: its start and end. -/
def Selection.first (sel : Selection) (line : ByteArray) (from_ : Nat) : Option (Nat × Nat) :=
  go from_ (line.size + 1 - from_)
where
  /-- Position after position. -/
  go (pos : Nat) : Nat → Option (Nat × Nat)
    | 0 => none
    | fuel + 1 =>
      match sel.endAt line pos with
      | some stop => some (pos, stop)
      | none => go (pos + 1) fuel

/-- Whether a line matches. -/
def Selection.matches (sel : Selection) (line : ByteArray) : Bool := (sel.first line 0).isSome

/-- The non-empty matches in a line, left to right. -/
def Selection.pieces (sel : Selection) (line : ByteArray) : List (Nat × Nat) :=
  go 0 (line.size + 1)
where
  /-- From a position on. -/
  go (pos : Nat) : Nat → List (Nat × Nat)
    | 0 => []
    | fuel + 1 =>
      if pos > line.size then [] else
      match sel.first line pos with
      | none => []
      | some (a, b) =>
        if b == a then go (a + 1) fuel
        else (a, b) :: go b fuel

/-- Split input into lines at a byte; answers each line without its end, and where it
starts. -/
def splitLines (data : ByteArray) (eol : UInt8) : List (ByteArray × Nat) :=
  let bytes := data.toList
  let (done, cur, start, _) := bytes.foldl (fun (acc : List (ByteArray × Nat) × Array UInt8 × Nat × Nat) b =>
    let (done, cur, start, pos) := acc
    if b == eol then ((ByteArray.mk cur, start) :: done, #[], pos + 1, pos + 1)
    else (done, cur.push b, start, pos + 1)) ([], #[], 0, 0)
  let done := if cur.isEmpty then done else (ByteArray.mk cur, start) :: done
  done.reverse

/-- The options of `grep`. -/
def options : List OptionDef :=
  [letterOption 'E' .none (some "extended-regexp"), letterOption 'F' .none (some "fixed-strings"),
   letterOption 'G' .none (some "basic-regexp"), letterOption 'P' .none (some "perl-regexp"),
   letterOption 'e' .required (some "regexp"), letterOption 'f' .required (some "file"),
   letterOption 'i' .none (some "ignore-case"), letterOption 'y', longOnly "no-ignore-case",
   letterOption 'v' .none (some "invert-match"), letterOption 'w' .none (some "word-regexp"),
   letterOption 'x' .none (some "line-regexp"), letterOption 'c' .none (some "count"),
   letterOption 'L' .none (some "files-without-match"), letterOption 'l' .none (some "files-with-matches"),
   letterOption 'm' .required (some "max-count"), letterOption 'o' .none (some "only-matching"),
   letterOption 'q' .none (some "quiet"), { key := "q", long := some "silent" },
   letterOption 's' .none (some "no-messages"), letterOption 'b' .none (some "byte-offset"),
   letterOption 'H' .none (some "with-filename"), letterOption 'h' .none (some "no-filename"),
   longOnly "label" .required, letterOption 'n' .none (some "line-number"),
   letterOption 'T' .none (some "initial-tab"), letterOption 'Z' .none (some "null"),
   letterOption 'z' .none (some "null-data"), letterOption 'A' .required (some "after-context"),
   letterOption 'B' .required (some "before-context"), letterOption 'C' .required (some "context"),
   letterOption 'a' .none (some "text"), letterOption 'I', letterOption 'U' .none (some "binary"),
   letterOption 'r' .none (some "recursive"), letterOption 'R' .none (some "dereference-recursive"),
   longOnly "color" .optional, longOnly "colour" .optional, longOnly "line-buffered",
   longOnly "binary-files" .required, longOnly "include" .required, longOnly "exclude" .required,
   longOnly "no-group-separator", longOnly "group-separator" .required] ++
  ("0123456789".toList.map fun c => letterOption c)

/-- A count of lines given as an option's value. -/
def countValue (v : String) : Option Nat :=
  match readQuantity v [] false false with
  | .value n _ => some n
  | _ => none

/-- What `grep` was asked, beyond the selection. -/
structure Request where
  invert : Bool := false
  count : Bool := false
  listMatching : Bool := false
  listMissing : Bool := false
  quiet : Bool := false
  silent : Bool := false
  onlyMatching : Bool := false
  byteOffset : Bool := false
  numbers : Bool := false
  names : Option Bool := none
  label : String := "(standard input)"
  nullAfterName : Bool := false
  eol : UInt8 := 10
  after : Option Nat := none
  before : Option Nat := none
  maxCount : Option Nat := none
  text : Bool := false
  separator : Option String := some "--"
  deriving Inhabited

/-- The state of a run over the inputs. -/
structure Run where
  /-- Whether anything was written, for the separator between groups. -/
  written : Bool := false
  selectedAny : Bool := false
  trouble : Bool := false
  deriving Inhabited

end Selecting

open Selecting in
/-- Report a misuse of `grep`: the message, the usage line and the pointer to the help. -/
def Selecting.usage {α : Type} (msg : Option String) : Tool μ α := do
  flush
  let name := (← get).name
  let first := match msg with
    | some m => s!"{name}: {m}\n"
    | none => ""
  Sys.print (μ := μ) 2 (first ++ s!"Usage: {name} [OPTION]... PATTERNS [FILE]...\nTry '{name} --help' for more information.\n")
  modify fun s => { s with status := 2 }
  finish

open Selecting in
/-- Go through one input's lines, writing what the request asks; answers whether a line was
selected. -/
def Selecting.scanInput (r : Request) (sel : Selection) (name : String) (showName : Bool)
    (data : ByteArray) (run : Run) : Tool μ (Bool × Run) := do
  let binary := !r.text && r.eol == 10 && data.toList.contains 0
  let quietOutput := r.quiet || r.listMatching || r.listMissing || r.count || binary
  let lines := splitLines data r.eol
  let arr := lines.toArray
  let mut run := run
  let mut selectedCount := 0
  let mut lastWritten : Option Nat := none
  let mut afterLeft := 0
  let contextAsked := r.after.isSome || r.before.isSome
  let afterN := r.after.getD 0
  let beforeN := r.before.getD 0
  let sepOf (c : String) := if r.nullAfterName then "\x00" else c
  let prefixOf (i : Nat) (offset : Nat) (c : String) : String :=
    (if showName then name ++ sepOf c else "") ++
    (if r.numbers then toString (i + 1) ++ c else "") ++
    (if r.byteOffset then toString offset ++ c else "")
  let eolText := ByteArray.mk #[r.eol]
  for i in [0:arr.size] do
    let (line, start) := arr[i]!
    if r.maxCount.any (selectedCount ≥ ·) then
      -- after the last selected line, only its trailing context
      if afterLeft > 0 && !quietOutput && !(sel.matches line != r.invert) then
        emit ((prefixOf i start "-").toUTF8 ++ line ++ eolText)
        lastWritten := some i
        afterLeft := afterLeft - 1
        continue
      else break
    let selected := sel.matches line != r.invert
    if selected then
      selectedCount := selectedCount + 1
      run := { run with selectedAny := true }
      if r.quiet then return (true, run)
      if r.listMatching then break
      if binary && !r.count then break
      if quietOutput then continue
      -- the lines of context before
      let from_ := match lastWritten with
        | some l => max (l + 1) (i - beforeN)
        | none => i - beforeN
      if contextAsked && run.written && (lastWritten.map (· + 1) != some from_) then
        if let some s := r.separator then say (s ++ "\n")
      for j in [from_:i] do
        let (l, st) := arr[j]!
        emit ((prefixOf j st "-").toUTF8 ++ l ++ eolText)
      if r.onlyMatching then
        if !r.invert then
          for (a, b) in sel.pieces line do
            emit ((prefixOf i (start + a) ":").toUTF8 ++ line.extract a b ++ eolText)
      else emit ((prefixOf i start ":").toUTF8 ++ line ++ eolText)
      run := { run with written := true }
      lastWritten := some i
      afterLeft := afterN
    else if afterLeft > 0 && !quietOutput then
      emit ((prefixOf i start "-").toUTF8 ++ line ++ eolText)
      lastWritten := some i
      afterLeft := afterLeft - 1
  if r.count then
    say ((if showName then name ++ sepOf ":" else "") ++ toString selectedCount ++ "\n")
  if r.listMatching && selectedCount > 0 then
    say (name ++ (if r.nullAfterName then "\x00" else "\n"))
  if r.listMissing && selectedCount == 0 then
    say (name ++ (if r.nullAfterName then "\x00" else "\n"))
  if binary && selectedCount > 0 && !r.count && !r.quiet && !r.listMatching && !r.listMissing then
    warn s!"{name}: binary file matches"
  pure (selectedCount > 0, run)

open Selecting in
/-- `grep`. -/
def grepProgram (inv : Invocation) : Prog μ Unit := Tool.run inv do
  let c := readCommandLine options (inv.args.drop 1)
  if let some p := c.problem then usage (some p.message)
  let mut r : Request := {}
  let mut dialect := Dialect.basicLoose
  let mut fixed := false
  let mut ignoreCase := false
  let mut words := false
  let mut whole := false
  let mut given : List String := []
  let mut fromOptions := false
  let mut digits : Option Nat := none
  for o in c.options do
    let v := o.value.getD ""
    if o.key.length == 1 && o.key.front.isDigit then
      digits := some ((digits.getD 0) * 10 + (o.key.front.toNat - 48))
      r := { r with after := digits, before := digits }
      continue
    digits := none
    match o.key with
    | "E" => dialect := .extendedLoose; fixed := false
    | "G" => dialect := .basicLoose; fixed := false
    | "F" => fixed := true
    | "P" => fail "Perl matching not supported in a --disable-perl-regexp build" 2
    | "e" => given := given ++ (v.splitOn "\n"); fromOptions := true
    | "f" =>
      fromOptions := true
      match ← openInput v with
      | .error e => fail s!"{v}: {e.sentence}" 2
      | .ok fd =>
        let (data, _) ← readAll fd
        closeInput fd
        let text := String.fromUTF8? data |>.getD ""
        let ls := text.splitOn "\n"
        let ls := if text.endsWith "\n" then ls.dropLast else ls
        given := given ++ ls
    | "i" | "y" => ignoreCase := true
    | "no-ignore-case" => ignoreCase := false
    | "v" => r := { r with invert := true }
    | "w" => words := true
    | "x" => whole := true
    | "c" => r := { r with count := true }
    | "l" => r := { r with listMatching := true, listMissing := false }
    | "L" => r := { r with listMissing := true, listMatching := false }
    | "m" =>
      match countValue v with
      | some n => r := { r with maxCount := some n }
      | none => fail "invalid max count" 2
    | "o" => r := { r with onlyMatching := true }
    | "q" => r := { r with quiet := true }
    | "s" => r := { r with silent := true }
    | "b" => r := { r with byteOffset := true }
    | "H" => r := { r with names := some true }
    | "h" => r := { r with names := some false }
    | "label" => r := { r with label := v }
    | "n" => r := { r with numbers := true }
    | "Z" => r := { r with nullAfterName := true }
    | "z" => r := { r with eol := 0 }
    | "a" => r := { r with text := true }
    | "no-group-separator" => r := { r with separator := none }
    | "group-separator" => r := { r with separator := some v }
    | "A" | "B" | "C" =>
      match countValue v with
      | some n =>
        if o.key == "A" then r := { r with after := some n }
        else if o.key == "B" then r := { r with before := some n }
        else r := { r with after := some n, before := some n }
      | none => fail s!"{v}: invalid context length argument" 2
    | _ => pure ()
  let mut operands := c.operands
  if !fromOptions then
    match operands with
    | [] => usage none
    | p :: rest =>
      given := p.splitOn "\n"
      operands := rest
  if r.maxCount == some 0 then finish
  let mut patterns : List Compiled := []
  for p in given do
    let bytes := p.toUTF8.toList
    if fixed then patterns := patterns ++ [Compiled.ofBytes bytes ignoreCase]
    else
      match compile dialect bytes ignoreCase with
      | .ok cp => patterns := patterns ++ [cp]
      | .error e => fail e.message 2
  let sel : Selection := { patterns, words, wholeLine := whole }
  let inputs := if operands.isEmpty then ["-"] else operands
  let showName := r.names.getD (inputs.length > 1)
  let mut run : Run := {}
  for path in inputs do
    let name := if path == "-" then r.label else path
    match ← openInput path with
    | .error e =>
      run := { run with trouble := true }
      if !r.silent then warn s!"{path}: {e.sentence}"
    | .ok fd =>
      let (data, err) ← readAll fd
      closeInput fd
      match err with
      | some e =>
        run := { run with trouble := true }
        if !r.silent then warn s!"{name}: {e.sentence}"
      | none =>
        let (_, next) ← Selecting.scanInput r sel name showName data run
        run := next
        if r.quiet && run.selectedAny then break
  let code := if run.trouble && !(r.quiet && run.selectedAny) then 2
    else if run.selectedAny then 0 else 1
  modify fun s => { s with status := code }

end PseudoTerm.Programs
