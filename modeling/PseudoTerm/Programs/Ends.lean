import PseudoTerm.Programs.Tool
import PseudoTerm.Text.Quantity

/-!
# `head` and `tail`: the first or last part of inputs

`head` writes the first ten lines of each input, or the first `-n N` lines or `-c N`
bytes; with a count starting with `-`, all but that many last lines or bytes.  `tail`
writes the last ten lines, or the last `-n N` lines or `-c N` bytes; with a count
starting with `+`, everything from that line or byte on.  Counts take size suffixes.
Both read an old form of the count as their first argument (`head -5`, `tail -3`,
`tail +2`).

With several inputs each part follows a header `==> NAME <==`, a blank line between
parts (`-q` never writes headers, `-v` always does).  `-z` ends lines with a zero byte
instead of a line feed.  An input that cannot be opened or read is reported and skipped,
and the utility fails at the end.

`head` reads no more than it writes, as far as the input gives it in pieces; `tail -n
+N` and `tail -c +N` write as they read, the other forms at the end of the input.
-/

namespace PseudoTerm.Programs

open PseudoTerm.Machine PseudoTerm.Text Tool

variable {μ : Type}

namespace Ends

/-- The size of the pieces read. -/
def pieceSize : Nat := 8192

/-- A count of lines or bytes as these utilities read it, or the message refusing it. -/
def readCount (text : String) (lines : Bool) : Except String Nat :=
  let what := if lines then "invalid number of lines" else "invalid number of bytes"
  match readQuantity text ['b', 'k', 'K', 'm', 'M', 'G', 'T', 'P', 'E', 'Z', 'Y', 'R', 'Q'] true false with
  | .value n false => .ok n
  | .value _ true => .error s!"{what}: {mention text}: Value too large for defined data type"
  | _ => .error s!"{what}: {mention text}"

/-- The places of the line ends of some bytes. -/
def lineEnds (data : ByteArray) (sep : UInt8) : List Nat :=
  (List.range data.size).filter fun i => data.get! i == sep

/-- The bytes from the start of the `k`-th last line on (counting a last line without its
end as a line), or all when there are fewer lines. -/
def lastLinesStart (data : ByteArray) (sep : UInt8) (k : Nat) : Nat :=
  if k == 0 then data.size
  else
    let ends := lineEnds data sep
    -- a last line without an end counts as a line
    let ends := if data.size > 0 && data.get! (data.size - 1) != sep then ends ++ [data.size - 1] else ends
    if ends.length ≤ k then 0 else ends[ends.length - k - 1]! + 1

/-- The header before a part. -/
def header (first : Bool) (name : String) : String :=
  (if first then "" else "\n") ++ s!"==> {name} <==\n"

/-- The name an input is shown by. -/
def shownName (path : String) : String := if path == "-" then "standard input" else path

/-- What is asked of an input: lines or bytes, a count, and whether it counts from the
other end (all but the last for `head`, from the start for `tail`). -/
structure Portion where
  lines : Bool := true
  count : Nat := 10
  other : Bool := false
  zero : Bool := false
  deriving Repr, Inhabited

/-- The line end byte. -/
def Portion.sep (p : Portion) : UInt8 := if p.zero then 0 else 10

/-- Write the first lines of an input, reading no further than needed. -/
def headLines (fd : Nat) (sep : UInt8) (count : Nat) : Tool μ (Option Errno) := do
  if count == 0 then return none
  let step (left : Nat) (chunk : ByteArray) : Tool μ (Nat × Bool) := do
    let ends := lineEnds chunk sep
    if ends.length < left then
      emit chunk
      pure (left - ends.length, false)
    else
      let upto := ends[left - 1]! + 1
      emit (chunk.extract 0 upto)
      pure (0, true)
  let (_, err) ← eachChunk fd (fun _ => pieceSize) step pumpFuel count
  pure err

/-- Write the first bytes of an input. -/
def headBytes (fd : Nat) (count : Nat) : Tool μ (Option Errno) := do
  if count == 0 then return none
  let step (left : Nat) (chunk : ByteArray) : Tool μ (Nat × Bool) := do
    emit chunk
    let left := left - chunk.size
    pure (left, left == 0)
  let (_, err) ← eachChunk fd (fun left => min left pieceSize) step pumpFuel count
  pure err

/-- Write an input's part for `head`. -/
def headPart (fd : Nat) (p : Portion) : Tool μ (Option Errno) := do
  if p.other then
    let (data, err) ← readAll fd
    let keep := if p.lines then lastLinesStart data p.sep p.count else data.size - p.count
    emit (data.extract 0 keep)
    pure err
  else if p.lines then headLines fd p.sep p.count
  else headBytes fd p.count

/-- Write an input's part for `tail`. -/
def tailPart (fd : Nat) (p : Portion) : Tool μ (Option Errno) := do
  if p.other then
    -- skip the first `count - 1` lines or bytes, then write the rest as it comes
    let skip := p.count - 1
    let step (left : Nat) (chunk : ByteArray) : Tool μ (Nat × Bool) := do
      if left == 0 then
        emit chunk
        pure (0, false)
      else if p.lines then
        let ends := lineEnds chunk p.sep
        if ends.length < left then pure (left - ends.length, false)
        else
          emit (chunk.extract (ends[left - 1]! + 1) chunk.size)
          pure (0, false)
      else if chunk.size ≤ left then pure (left - chunk.size, false)
      else
        emit (chunk.extract left chunk.size)
        pure (0, false)
    let (_, err) ← eachChunk fd (fun _ => pieceSize) step pumpFuel skip
    pure err
  else
    let (data, err) ← readAll fd
    let start := if p.lines then lastLinesStart data p.sep p.count else data.size - p.count
    emit (data.extract start data.size)
    pure err

/-- Run over the inputs, writing each one's part under its header when wanted. -/
def eachInput (paths : List String) (headers : Bool)
    (part : Nat → Tool μ (Option Errno)) : Tool μ Unit := do
  let mut first := true
  for path in paths do
    match ← openInput path with
    | .error e => complain s!"cannot open {mentionFile path true} for reading: {e.sentence}"
    | .ok fd =>
      if headers then
        say (header first (shownName path))
        first := false
      if let some e ← part fd then
        complain s!"error reading {mentionFile (shownName path) true}: {e.sentence}"
      closeInput fd

/-- The options of `head`. -/
def headOptions : List OptionDef :=
  [letterOption 'c' .required (some "bytes"), letterOption 'n' .required (some "lines"),
   letterOption 'q' .none (some "quiet"), { key := "q", long := some "silent" },
   letterOption 'v' .none (some "verbose"), letterOption 'z' .none (some "zero-terminated")] ++
  ("0123456789".toList.map fun c => letterOption c)

/-- The options of `tail`. -/
def tailOptions : List OptionDef :=
  [letterOption 'c' .required (some "bytes"), letterOption 'n' .required (some "lines"),
   letterOption 'f' .optional (some "follow"), letterOption 'F', letterOption 's' .required (some "sleep-interval"),
   letterOption 'q' .none (some "quiet"), { key := "q", long := some "silent" },
   letterOption 'v' .none (some "verbose"), letterOption 'z' .none (some "zero-terminated"),
   longOnly "retry", longOnly "pid" .required, longOnly "max-unchanged-stats" .required] ++
  ("0123456789".toList.map fun c => letterOption c)

/-- How headers are chosen: by default only for several inputs. -/
inductive Headers where
  | byCount
  | never
  | always
  deriving DecidableEq, Repr, Inhabited

/-- The old form of `head`'s count as the first argument: `-` and digits, then letters
for bytes (`c`, or `b`, `k`, `m` for units), lines (`l`), headers (`q`, `v`) and zero
ends (`z`); or the letter that is not one of these. -/
def oldHeadForm (a : String) : Option (Except Char (String × Portion × Headers)) :=
  match a.toList with
  | '-' :: d :: rest =>
    if !d.isDigit then none
    else
      let digits := d :: rest.takeWhile Char.isDigit
      let letters := rest.dropWhile Char.isDigit
      let init : Except Char (Option Char × Portion × Headers) := .ok (none, {}, .byCount)
      let r := letters.foldl (fun acc c => acc.bind fun (unit, p, h) =>
        match c with
        | 'c' => .ok (none, { p with lines := false }, h)
        | 'b' | 'k' | 'm' => .ok (some c, { p with lines := false }, h)
        | 'l' => .ok (unit, { p with lines := true }, h)
        | 'q' => .ok (unit, p, .never)
        | 'v' => .ok (unit, p, .always)
        | 'z' => .ok (unit, { p with zero := true }, h)
        | _ => .error c) init
      some (r.map fun (unit, p, h) =>
        (String.ofList (digits ++ (unit.map ([·])).getD []), p, h))
  | _ => none

end Ends

open Ends in
/-- `head`. -/
def headProgram (inv : Invocation) : Prog μ Unit := Tool.run inv do
  let args := inv.args.drop 1
  -- the old form of the count, as the first argument
  let (start, args) ← match args.head? >>= oldHeadForm with
    | some (.ok (n, p, h)) =>
      match readCount n p.lines with
      | .ok count => pure ((some { p with count }, h), args.drop 1)
      | .error msg => fail msg
    | some (.error c) => misuse s!"invalid trailing option -- {c}"
    | none => pure ((none, .byCount), args)
  let c := readCommandLine headOptions args
  let mut portion : Portion := start.1.getD {}
  let mut headers := start.2
  for o in c.options do
    match o.key with
    | "c" | "n" =>
      let v := o.value.getD ""
      let other := v.startsWith "-"
      let v := if other then (v.drop 1).toString else v
      match readCount v (o.key == "n") with
      | .ok count => portion := { portion with lines := o.key == "n", count, other }
      | .error msg => fail msg
    | "q" => headers := .never
    | "v" => headers := .always
    | "z" => portion := { portion with zero := true }
    | k =>
      if k.length == 1 && k.all Char.isDigit then misuse s!"invalid trailing option -- {k}"
  checkOptions c
  let paths := if c.operands.isEmpty then ["-"] else c.operands
  let showHeaders := headers == .always || (headers == .byCount && paths.length > 1)
  eachInput paths showHeaders fun fd => headPart fd portion

open Ends in
/-- The old form of `tail`'s count: `+` or `-`, digits, a unit letter (`b`, `c`, `l`) and
`f`, as the only option, followed by at most one input. -/
def oldTailForm (args : List String) : Option (Except String (Portion × List String)) :=
  let fits := match args with
    | [_] => true
    | [_, f] => f == "--" || !(f.startsWith "-" && f.length > 1)
    | [_, "--", _] => true
    | _ => false
  match args with
  | a :: rest =>
    if !fits then none
    else
      match a.toList with
      | sign :: body =>
        if sign != '+' && sign != '-' then none
        else if sign == '-' && (body.isEmpty || body == ['c']) then none
        else
          let digits := body.takeWhile Char.isDigit
          let after := body.dropWhile Char.isDigit
          let (lines, unit, after) := match after with
            | 'b' :: r => (false, 512, r)
            | 'c' :: r => (false, 1, r)
            | 'l' :: r => (true, 1, r)
            | r => (true, 1, r)
          let after := match after with
            | 'f' :: r => r
            | r => r
          if !after.isEmpty then none
          else
            let rest := match rest with
              | "--" :: more => more
              | more => more
            let count : Except String Nat :=
              if digits.isEmpty then .ok (10 * unit)
              else
                let n := digits.foldl (fun acc c => acc * 10 + (c.toNat - 48)) 0
                if n > quantityMax then .error s!"invalid number: {mention a}" else .ok n
            some (count.map fun count => ({ lines, count, other := sign == '+' }, rest))
      | [] => none
  | [] => none

open Ends in
/-- `tail`. -/
def tailProgram (inv : Invocation) : Prog μ Unit := Tool.run inv do
  let args := inv.args.drop 1
  let (portion, headers, paths) ← match oldTailForm args with
    | some (.ok (p, paths)) => pure (p, Headers.byCount, paths)
    | some (.error msg) => fail msg
    | none =>
      let c := readCommandLine tailOptions args
      let mut portion : Portion := {}
      let mut headers := Headers.byCount
      for o in c.options do
        match o.key with
        | "c" | "n" =>
          let v := o.value.getD ""
          let other := v.startsWith "+"
          let v := if v.startsWith "-" then (v.drop 1).toString else v
          match readCount v (o.key == "n") with
          | .ok count => portion := { portion with lines := o.key == "n", count, other }
          | .error msg => fail msg
        | "q" => headers := .never
        | "v" => headers := .always
        | "z" => portion := { portion with zero := true }
        | _ => pure ()
      checkOptions c
      pure (portion, headers, c.operands)
  if portion.count == 0 && !portion.other then return
  let paths := if paths.isEmpty then ["-"] else paths
  let showHeaders := headers == .always || (headers == .byCount && paths.length > 1)
  eachInput paths showHeaders fun fd => tailPart fd portion

end PseudoTerm.Programs
