import PseudoTerm.Programs.Tool
import PseudoTerm.Programs.Editing.Script
import PseudoTerm.Pattern.Search
import PseudoTerm.Text.Quantity

/-!
# Running editing scripts: `sed`

`sed` reads its inputs a line at a time into the pattern space, runs the script on it,
and writes the pattern space at the end of the cycle (not with `-n`), then what `a`, `r`
and `R` queued.  The inputs are one stream (each its own with `-s` or `-i`, which also
writes each input back in place): line numbers run on across them, and `$` is the last
line of the last input that has one.

A line read without its line feed (the last line of an input) is written without one;
anything written after it first writes the missing line feed.

A substitution replaces the first match (or the `N`th, or with `g` all from there on):
`&` and `\1`... stand for what the match and its groups matched, `\U`, `\L`, `\u`, `\l`
and `\E` change case.  After a match of nothing the next search starts a byte further,
and a match of nothing right after a match is passed over.
-/

namespace PseudoTerm.Programs

open PseudoTerm.Machine PseudoTerm.Text PseudoTerm.Pattern Tool

variable {μ : Type}

namespace Editing

/-- What the end of a cycle queued: text, a file's contents, or a line of a file. -/
inductive Queued where
  | text (b : List UInt8)
  | file (path : String)
  | fileLine (path : String)
  deriving Inhabited

/-- The state of a range: whether it is open, and the line number that closes it. -/
structure RangeState where
  active : Bool := false
  stop : Nat := 0
  deriving Inhabited

/-- A file written by `w`: its bytes so far and whether its last line lacks its end. -/
structure Written where
  path : String
  bytes : ByteArray := .empty
  missing : Bool := false
  deriving Inhabited

/-- The state of a running script. -/
structure Editor where
  pattern : ByteArray := .empty
  chomped : Bool := true
  hold : ByteArray := .empty
  lineNumber : Nat := 0
  replaced : Bool := false
  queued : Array Queued := #[]
  ranges : Array RangeState := #[]
  lastPattern : Option Compiled := none
  missing : Bool := false
  /-- The inputs not yet opened. -/
  inputs : List String := []
  /-- The lines left of the current input, each with whether it had its end. -/
  lines : List (ByteArray × Bool) := []
  fileName : String := "-"
  trouble : Bool := false
  /-- The output of the input being edited in place. -/
  inPlace : Option (String × ByteArray) := none
  writes : Array Written := #[]
  /-- How far `R` has read each file. -/
  readPositions : List (String × Nat) := []
  deriving Inhabited

/-- What `sed` was asked. -/
structure Options where
  quiet : Bool := false
  separate : Bool := false
  inPlace : Option String := none
  eol : UInt8 := 10
  lineWidth : Nat := 70
  extended : Bool := false
  deriving Inhabited

/-- How a cycle ends. -/
inductive Ending where
  /-- At the end of the script: the pattern space is written. -/
  | normal
  /-- Deleted: nothing is written. -/
  | deleted
  /-- Start again on what is left, without reading. -/
  | again
  /-- Stop after writing the pattern space, with a status. -/
  | quit (code : Nat)
  /-- Stop at once, with a status. -/
  | quitNow (code : Nat)
  /-- The input ended inside the script (`n`, `N`). -/
  | inputEnded
  deriving Inhabited

/-- Split an input into lines at a byte, each with whether it had its end. -/
def splitInput (data : ByteArray) (eol : UInt8) : List (ByteArray × Bool) :=
  let (done, cur) := data.toList.foldl (fun (acc : List (ByteArray × Bool) × Array UInt8) b =>
    if b == eol then ((ByteArray.mk acc.2, true) :: acc.1, #[]) else (acc.1, acc.2.push b)) ([], #[])
  let done := if cur.isEmpty then done else (ByteArray.mk cur, false) :: done
  done.reverse

/-- Bytes written so a reader can see every byte: escapes for the unprintable, lines of a
width ending in `\`, and `$` at the end. -/
def listing (bytes : ByteArray) (width : Nat) : String :=
  let pieces := bytes.toList.map fun b =>
    if b == 92 then "\\\\"
    else if bytePrints b then (Char.ofNat b.toNat).toString
    else match b with
      | 7 => "\\a" | 8 => "\\b" | 12 => "\\f" | 10 => "\\n" | 13 => "\\r" | 9 => "\\t" | 11 => "\\v"
      | _ => "\\" ++ octalByte b
  let (out, _) := pieces.foldl (fun (acc : String × Nat) p =>
    let (out, col) := acc
    if width > 1 && col + p.length > width - 1 then (out ++ "\\\n" ++ p, p.length)
    else (out ++ p, col + p.length)) ("", 0)
  out ++ "$\n"

/-- Change the case of bytes: upper, lower, or none. -/
def recase (mode : Option Bool) (bs : List UInt8) : List UInt8 :=
  match mode with
  | some true => bs.map upperByte
  | some false => bs.map lowerByte
  | none => bs

/-- The replacement of a match. -/
def replacement (pieces : List Piece) (subject : ByteArray) (f : Found) : List UInt8 :=
  let (out, _, _) := pieces.foldl (fun (acc : List UInt8 × Option Bool × Option Bool) p =>
    let (out, mode, next) := acc
    let add (bs : List UInt8) : List UInt8 × Option Bool × Option Bool :=
      match bs, next with
      | [], _ => (out, mode, next)
      | b :: rest, some up => (out ++ recase (some up) [b] ++ recase mode rest, mode, none)
      | _, none => (out ++ recase mode bs, mode, none)
    match p with
    | .bytes bs => add bs
    | .group n =>
      match f.group n with
      | some (a, b) => add (subject.extract a b).toList
      | none => (out, mode, next)
    | .caseFrom m => (out, m, next)
    | .caseNext up => (out, mode, some up)) ([], none, none)
  out

/-- Substitute in a pattern space: the result and whether anything was replaced. -/
def substitute (s : Substitution) (p : Compiled) (space : ByteArray) : ByteArray × Bool :=
  go 0 0 none false [] (space.size + 2)
where
  /-- From a position, with the number of matches so far and where the last non-empty
  match ended. -/
  go (pos count : Nat) (lastEnd : Option Nat) (done : Bool) (out : List UInt8) : Nat → ByteArray × Bool
    | 0 => (ByteArray.mk (out ++ (space.extract pos space.size).toList).toArray, done)
    | fuel + 1 =>
      let rest := ByteArray.mk (out ++ (space.extract pos space.size).toList).toArray
      if pos > space.size then (ByteArray.mk out.toArray, done) else
      match p.search { bytes := space } pos with
      | none => (rest, done)
      | some f =>
        if f.stop == f.start && lastEnd == some f.start then
          -- nothing matched right after a match: pass over a byte
          if f.start < space.size then
            go (f.start + 1) count none done (out ++ (space.extract pos (f.start + 1)).toList) fuel
          else (ByteArray.mk (out ++ (space.extract pos space.size).toList).toArray, done)
        else
          let count := count + 1
          let before := (space.extract pos f.start).toList
          let (piece, replacedNow) :=
            if count < s.occurrence then ((space.extract f.start f.stop).toList, false)
            else (replacement s.replacement space f, true)
          let out := out ++ before ++ piece
          let done := done || replacedNow
          if replacedNow && !s.global then
            (ByteArray.mk (out ++ (space.extract f.stop space.size).toList).toArray, done)
          else if f.stop == f.start then
            if f.start < space.size then
              go (f.start + 1) count none done (out ++ [space.get! f.start]) fuel
            else (ByteArray.mk out.toArray, done)
          else go f.stop count (some f.stop) done out fuel

/-- The options of `sed`. -/
def options : List OptionDef :=
  [letterOption 'n' .none (some "quiet"), { key := "n", long := some "silent" },
   letterOption 'e' .required (some "expression"), letterOption 'f' .required (some "file"),
   letterOption 'E' .none (some "regexp-extended"), letterOption 'r',
   letterOption 's' .none (some "separate"), letterOption 'i' .optional (some "in-place"),
   letterOption 'z' .none (some "null-data"), letterOption 'u' .none (some "unbuffered"),
   letterOption 'l' .required (some "line-length"), longOnly "posix", longOnly "debug",
   longOnly "sandbox", longOnly "follow-symlinks", letterOption 'b' .none (some "binary")]

/-- The usage text. -/
def usageText (name : String) : String :=
  s!"Usage: {name} [OPTION]... \x7bscript-only-if-no-other-script\x7d [input-file]...\n\n" ++
  "  -n, --quiet, --silent\n                 suppress automatic printing of pattern space\n" ++
  "      --debug\n                 annotate program execution\n" ++
  "  -e script, --expression=script\n                 add the script to the commands to be executed\n" ++
  "  -f script-file, --file=script-file\n                 add the contents of script-file to the commands to be executed\n" ++
  "  --follow-symlinks\n                 follow symlinks when processing in place\n" ++
  "  -i[SUFFIX], --in-place[=SUFFIX]\n                 edit files in place (makes backup if SUFFIX supplied)\n" ++
  "  -l N, --line-length=N\n                 specify the desired line-wrap length for the `l' command\n" ++
  "  --posix\n                 disable all extensions.\n" ++
  "  -E, -r, --regexp-extended\n                 use extended regular expressions in the script\n                 (for portability use POSIX -E).\n" ++
  "  -s, --separate\n                 consider files as separate rather than as a single\n                 continuous long stream.\n" ++
  "      --sandbox\n                 operate in sandbox mode (disable e/r/w commands).\n" ++
  "  -u, --unbuffered\n                 load minimal amounts of data from the input files and flush\n                 the output buffers more often\n" ++
  "  -z, --null-data\n                 separate lines by NUL characters\n" ++
  "      --help     display this help and exit\n" ++
  "      --version  output version information and exit\n\n" ++
  "If no -e, --expression, -f, or --file option is given, then the first\n" ++
  "non-option argument is taken as the sed script to interpret.  All\n" ++
  "remaining arguments are names of input files; if no input files are\n" ++
  "specified, then the standard input is read.\n"

/-- The most steps one cycle takes. -/
def stepLimit : Nat := 1000000

/-- The most cycles one run takes. -/
def cycleLimit : Nat := 10000000

end Editing

namespace Editing

/-- Running a script. -/
abbrev Edit (μ : Type) := StateT Editor (Tool μ)

/-- Write bytes to the output (or to the input edited in place). -/
def out (bytes : ByteArray) : Edit μ Unit := do
  let e ← get
  let bytes := if e.missing then ByteArray.mk #[10] ++ bytes else bytes
  if bytes.size == 0 then return
  modify fun e => { e with missing := false }
  match e.inPlace with
  | some (path, acc) => modify fun e => { e with inPlace := some (path, acc ++ bytes) }
  | none => monadLift (emit (μ := μ) bytes)

/-- Write a pattern space: its end follows unless its line had none. -/
def outSpace (o : Options) (bytes : ByteArray) (chomped : Bool) : Edit μ Unit := do
  out bytes
  if chomped then out (ByteArray.mk #[o.eol])
  else modify fun e => { e with missing := true }

/-- Write a pattern space to a file written by `w`. -/
def writeTo (o : Options) (path : String) (bytes : ByteArray) (chomped : Bool) : Edit μ Unit := do
  if path == "/dev/stdout" then outSpace o bytes chomped
  else if path == "/dev/stderr" then
    let data := if chomped then bytes.push o.eol else bytes
    let _ ← Sys.writeAll (μ := μ) 2 data
  else
    modify fun e =>
      let ws := if e.writes.any (·.path == path) then e.writes else e.writes.push { path }
      { e with writes := ws.map fun w =>
        if w.path != path then w
        else
          let start := if w.missing then w.bytes.push 10 else w.bytes
          { w with bytes := start ++ bytes ++ (if chomped then ByteArray.mk #[o.eol] else .empty),
                   missing := !chomped } }

/-- Read a whole file; none when it cannot be read. -/
def readFileBytes (path : String) : Edit μ (Option ByteArray) := do
  match ← Sys.openPath (μ := μ) path {} with
  | .error _ => pure none
  | .ok fd =>
    let (data, err) ← Sys.readToEnd (μ := μ) fd
    let _ ← Sys.close (μ := μ) fd
    pure (if err.isSome then none else some data)

/-- Write what the cycle queued. -/
def flushQueued (o : Options) : Edit μ Unit := do
  let q := (← get).queued
  modify fun e => { e with queued := #[] }
  for item in q do
    match item with
    | .text t => out (ByteArray.mk t.toArray)
    | .file path =>
      if let some data ← readFileBytes path then out data
    | .fileLine path =>
      if let some data ← readFileBytes path then
        let lines := splitInput data o.eol
        let e ← get
        let at_ := (e.readPositions.find? (·.1 == path)).map (·.2) |>.getD 0
        modify fun e => { e with readPositions := (path, at_ + 1) :: e.readPositions.filter (·.1 != path) }
        if let some (line, chomped) := lines[at_]? then
          out line
          if chomped then out (ByteArray.mk #[o.eol]) else out (ByteArray.mk #[o.eol])

/-- Finish the input being edited in place: write its new bytes to it. -/
def finishInPlace (o : Options) : Edit μ Unit := do
  match (← get).inPlace with
  | some (path, data) =>
    modify fun e => { e with inPlace := none, missing := false }
    if let some suffix := o.inPlace then
      if !suffix.isEmpty then
        if let some old ← readFileBytes path then
          let backup := if suffix.contains '*' then suffix.replace "*" path else path ++ suffix
          match ← Sys.openPath (μ := μ) backup { read := false, write := true, create := true, truncate := true } with
          | .ok fd => let _ ← Sys.writeAll (μ := μ) fd old; let _ ← Sys.close (μ := μ) fd
          | .error _ => pure ()
    match ← Sys.openPath (μ := μ) path { read := false, write := true, create := true, truncate := true } with
    | .ok fd => let _ ← Sys.writeAll (μ := μ) fd data; let _ ← Sys.close (μ := μ) fd
    | .error e => monadLift (complain (μ := μ) s!"couldn't open file {path}: {e.sentence}" 4)
  | none => pure ()

/-- Open inputs until one has a line; answers whether one has.  Starting another input
of its own (`-s`, `-i`) counts lines from the start. -/
def fill (o : Options) : Nat → Edit μ Bool
  | 0 => pure false
  | fuel + 1 => do
    let e ← get
    if !e.lines.isEmpty then return true
    match e.inputs with
    | [] => pure false
    | path :: rest =>
      if o.separate || o.inPlace.isSome then finishInPlace o
      modify fun e => { e with inputs := rest }
      let fd ← if path == "-" && o.inPlace.isNone then pure (Except.ok 0)
        else Sys.openPath (μ := μ) path {}
      match fd with
      | .error err =>
        monadLift (warn (μ := μ) s!"can't read {path}: {err.sentence}")
        modify fun e => { e with trouble := true }
        fill o fuel
      | .ok fd =>
        let (data, err) ← Sys.readToEnd (μ := μ) fd
        if fd != 0 then let _ ← Sys.close (μ := μ) fd
        match err with
        | some err =>
          let shown := if path == "-" then "stdin" else path
          monadLift (warn (μ := μ) s!"read error on {shown}: {err.sentence}")
          modify fun e => { e with trouble := true }
          fill o fuel
        | none =>
          let own := o.separate || o.inPlace.isSome
          let e ← get
          set { e with lines := splitInput data o.eol, fileName := path,
                       lineNumber := if own then 0 else e.lineNumber,
                       inPlace := if o.inPlace.isSome then some (path, ByteArray.empty) else none,
                       ranges := if own then e.ranges.map (fun _ => ({} : RangeState)) else e.ranges }
          fill o fuel

/-- Take the next line of input, opening inputs as needed. -/
def nextLine (o : Options) : Edit μ (Option (ByteArray × Bool)) := do
  if !(← fill o 100000) then return none
  match (← get).lines with
  | l :: rest =>
    modify fun e => { e with lines := rest, lineNumber := e.lineNumber + 1 }
    pure (some l)
  | [] => pure none

/-- Whether the current line is the last: of its input with `-s` or `-i`, else of all. -/
def atLast (o : Options) : Edit μ Bool := do
  let e ← get
  if !e.lines.isEmpty then return false
  if o.separate || o.inPlace.isSome then return true
  pure !(← fill o 100000)

/-- Whether a pattern matches the pattern space; none when there is no pattern to use. -/
def matchesSpace (p : Option Compiled) : Edit μ Bool := do
  let p ← match p with
    | some p =>
      modify fun e => { e with lastPattern := some p }
      pure p
    | none =>
      match (← get).lastPattern with
      | some p => pure p
      | none =>
        monadLift (fail (μ := μ) "no previous regular expression" 4)
  pure (p.search { bytes := (← get).pattern } 0).isSome

/-- Whether an address selects the current line. -/
def selectsAddress (o : Options) (a : Address) : Edit μ Bool := do
  let l := (← get).lineNumber
  match a with
  | .line n => pure (l == n)
  | .last => atLast o
  | .pattern p => matchesSpace p
  | .step first step => pure (l ≥ first && (l - first) % step == 0)
  | .following _ | .multiple _ => pure false

/-- Whether an instruction (the `i`th) selects the current line, keeping its range. -/
def selects (o : Options) (i : Nat) (ins : Instruction) : Edit μ Bool := do
  let hit ← match ins.first with
    | none => pure true
    | some a1 =>
      match ins.second with
      | none => selectsAddress o a1
      | some a2 =>
        let st := ((← get).ranges[i]?).getD {}
        let l := (← get).lineNumber
        let setRange (r : RangeState) : Edit μ Unit :=
          modify fun e => { e with ranges := e.ranges.set! i r }
        if st.active then
          match a2 with
          | .line _ | .following _ | .multiple _ =>
            if l ≥ st.stop then setRange {}
            pure (l ≤ st.stop)
          | _ =>
            if ← selectsAddress o a2 then setRange {}
            pure true
        else if !(← selectsAddress o a1) then pure false
        else
          match a2 with
          | .line n =>
            if n ≤ l then pure true else do setRange { active := true, stop := n }; pure true
          | .following n =>
            if n == 0 then pure true else do setRange { active := true, stop := l + n }; pure true
          | .multiple n =>
            let stop := if n == 0 then l else (l + n - 1) / n * n
            if stop == l then pure true else do setRange { active := true, stop }; pure true
          | _ => do setRange { active := true }; pure true
  pure (hit != ins.negated)

/-- Run a script on the pattern space from an instruction. -/
def runFrom (o : Options) (script : Script) : Nat → Nat → Edit μ Ending
  | _, 0 => pure .normal
  | pc, fuel + 1 => do
    match script.instructions[pc]? with
    | none => pure .normal
    | some ins =>
      let chosen ← selects o pc ins
      let next := runFrom o script (pc + 1) fuel
      match ins.command with
      | .openBlock past => if chosen then next else runFrom o script past fuel
      | _ =>
      if !chosen then next else
      let e ← get
      match ins.command with
      | .openBlock _ | .closeBlock | .label | .comment => next
      | .lineNumber => out s!"{e.lineNumber}\n".toUTF8; next
      | .append t => modify (fun e => { e with queued := e.queued.push (.text t) }); next
      | .insert t => out (ByteArray.mk t.toArray); next
      | .change t =>
        let range := ((← get).ranges[pc]?).getD {}
        let inside := ins.second.isSome && range.active
        if !inside || ins.negated then out (ByteArray.mk t.toArray)
        pure .deleted
      | .branch kind target =>
        let jump := match kind with
          | 't' => e.replaced
          | 'T' => !e.replaced
          | _ => true
        if kind == 't' && e.replaced then modify fun e => { e with replaced := false }
        if kind == 'T' && e.replaced then modify fun e => { e with replaced := false }
        if jump then
          match target with
          | some t => runFrom o script t fuel
          | none => pure .normal
        else next
      | .delete => pure .deleted
      | .deleteFirst =>
        match (List.range e.pattern.size).find? (fun j => e.pattern.get! j == o.eol) with
        | none => pure .deleted
        | some j =>
          modify fun e => { e with pattern := e.pattern.extract (j + 1) e.pattern.size }
          pure .again
      | .holdCopy => modify (fun e => { e with hold := e.pattern }); next
      | .holdAppend => modify (fun e => { e with hold := (e.hold.push o.eol) ++ e.pattern }); next
      | .getCopy => modify (fun e => { e with pattern := e.hold }); next
      | .getAppend => modify (fun e => { e with pattern := (e.pattern.push o.eol) ++ e.hold }); next
      | .exchange => modify (fun e => { e with pattern := e.hold, hold := e.pattern }); next
      | .list w => out (listing e.pattern (w.getD o.lineWidth)).toUTF8; next
      | .next =>
        if ← atLast o then pure .inputEnded
        else
          if !o.quiet then outSpace o e.pattern e.chomped
          flushQueued o
          match ← nextLine o with
          | some (line, chomped) =>
            modify fun e => { e with pattern := line, chomped }
            next
          | none => pure .inputEnded
      | .appendNext =>
        if ← atLast o then pure .inputEnded
        else
          flushQueued o
          match ← nextLine o with
          | some (line, chomped) =>
            modify fun e => { e with pattern := (e.pattern.push o.eol) ++ line, chomped }
            next
          | none => pure .inputEnded
      | .print => outSpace o e.pattern e.chomped; next
      | .printFirst =>
        let cut := ((List.range e.pattern.size).find? (fun j => e.pattern.get! j == o.eol)).getD e.pattern.size
        out ((e.pattern.extract 0 cut).push o.eol)
        next
      | .quit code => pure (.quit code)
      | .quitSilently code => pure (.quitNow code)
      | .readFile path => modify (fun e => { e with queued := e.queued.push (.file path) }); next
      | .readLine path => modify (fun e => { e with queued := e.queued.push (.fileLine path) }); next
      | .writeFile path => writeTo o path e.pattern e.chomped; next
      | .writeFirst path =>
        let cut := ((List.range e.pattern.size).find? (fun j => e.pattern.get! j == o.eol)).getD e.pattern.size
        writeTo o path (e.pattern.extract 0 cut) true
        next
      | .substitute s =>
        let p ← match s.pattern with
          | some p =>
            modify fun e => { e with lastPattern := some p }
            pure p
          | none =>
            match e.lastPattern with
            | some p => pure p
            | none => monadLift (fail (μ := μ) "no previous regular expression" 4)
        let (result, done) := substitute s p e.pattern
        if done then
          modify fun e => { e with pattern := result, replaced := true }
          if s.print then outSpace o result e.chomped
          if let some w := s.write then writeTo o w result e.chomped
        next
      | .transliterate pairs =>
        let mapped := e.pattern.toList.map fun b => ((pairs.find? (·.1 == b)).map (·.2)).getD b
        modify fun e => { e with pattern := ByteArray.mk mapped.toArray }
        next
      | .zap => modify (fun e => { e with pattern := .empty }); next
      | .fileName => out s!"{e.fileName}\n".toUTF8; next

/-- Run cycles until the input ends or the script quits; answers the status asked by a
quit. -/
def cycles (o : Options) (script : Script) : Nat → Bool → Edit μ (Option Nat)
  | 0, _ => pure none
  | fuel + 1, resume => do
    if !resume then
      match ← nextLine o with
      | none => return none
      | some (line, chomped) => modify fun e => { e with pattern := line, chomped }
    modify fun e => { e with replaced := false }
    let ending ← runFrom o script 0 stepLimit
    let e ← get
    match ending with
    | .normal | .inputEnded =>
      if !o.quiet then outSpace o e.pattern e.chomped
      flushQueued o
      match ending with
      | .inputEnded => pure none
      | _ => cycles o script fuel false
    | .deleted => flushQueued o; cycles o script fuel false
    | .again => flushQueued o; cycles o script fuel true
    | .quit code =>
      if !o.quiet then outSpace o e.pattern e.chomped
      flushQueued o
      pure (some code)
    | .quitNow code => pure (some code)

end Editing

open Editing in
/-- `sed`. -/
def sedProgram (inv : Invocation) : Prog μ Unit := Tool.run inv do
  let name := inv.args.headD "sed"
  let c := readCommandLine options (inv.args.drop 1)
  let usage {α : Type} (msg : Option String) : Tool μ α := do
    flush
    let first := match msg with
      | some m => s!"{name}: {m}\n"
      | none => ""
    Sys.print (μ := μ) 2 (first ++ usageText name)
    modify fun s => { s with status := 1 }
    finish
  if let some p := c.problem then usage (some p.message)
  let mut o : Options := {}
  let mut pieces : List (String × Option String) := []
  for opt in c.options do
    let v := opt.value.getD ""
    match opt.key with
    | "n" => o := { o with quiet := true }
    | "e" => pieces := pieces ++ [(v, none)]
    | "f" =>
      match ← openInput v with
      | .error e => fail s!"couldn't open file {v}: {e.sentence}" 1
      | .ok fd =>
        let (data, _) ← readAll fd
        closeInput fd
        let text := String.fromUTF8? data |>.getD ""
        let text := if text.endsWith "\n" then (text.dropEnd 1).toString else text
        pieces := pieces ++ [(text, some v)]
    | "E" | "r" => o := { o with extended := true }
    | "s" => o := { o with separate := true }
    | "i" => o := { o with inPlace := some (opt.value.getD ""), separate := true }
    | "z" => o := { o with eol := 0 }
    | "l" =>
      match readQuantity v [] false false with
      | .value n _ => o := { o with lineWidth := n }
      | _ => fail s!"invalid line length: {v}" 1
    | _ => pure ()
  let mut operands := c.operands
  if pieces.isEmpty then
    match operands with
    | [] => usage none
    | s :: rest =>
      pieces := [(s, none)]
      operands := rest
  -- read the script
  let mut g : Gathered := {}
  let mut count := 0
  let mut first := true
  for (text, file) in pieces do
    if file.isNone then count := count + 1
    let bytes := text.toUTF8.toList
    match (readScript g first (bytes.length + 2)).run { rest := bytes, extended := o.extended } with
    | .ok (g', _) => g := g'
    | .error err =>
      match file with
      | some f => fail s!"file {f} line {err.line}: {err.message}" 1
      | none => fail s!"-e expression #{count}, char {err.used}: {err.message}" 1
    first := false
  let script ← match g.finish with
    | .ok s => pure s
    | .error (.openBlock _ _) => fail s!"-e expression #{count}, char 0: unmatched `\x7b'" 1
    | .error (.missingLabel l) => fail s!"can't find label for jump to `{l}'" 4
  let opts := if script.quiet then { o with quiet := true } else o
  -- the files written are emptied first
  for path in script.outputs do
    if path != "/dev/stdout" && path != "/dev/stderr" then
      match ← Sys.openPath (μ := μ) path { read := false, write := true, create := true, truncate := true } with
      | .ok fd => let _ ← Sys.close (μ := μ) fd
      | .error e => fail s!"couldn't open file {path}: {e.sentence}" 4
  if o.inPlace.isSome && operands.isEmpty then fail "no input files" 1
  let inputs := if operands.isEmpty then ["-"] else operands
  let start : Editor := { inputs, ranges := script.instructions.map fun ins =>
    match ins.first, ins.second with
    | some (.line 0), some _ => { active := true }
    | _, _ => {} }
  let (quitCode, e) ← (cycles opts script cycleLimit false).run start
  let (_, e) ← (finishInPlace (μ := μ) opts).run e
  for w in e.writes do
    match ← Sys.openPath (μ := μ) w.path { read := false, write := true, create := true, truncate := true } with
    | .ok fd => let _ ← Sys.writeAll (μ := μ) fd w.bytes; let _ ← Sys.close (μ := μ) fd
    | .error _ => pure ()
  let current := (← get).status
  let code := match quitCode with
    | some q => q
    | none => if e.trouble then 2 else current
  modify fun s => { s with status := code }

end PseudoTerm.Programs
