import PseudoTerm.Programs.Tool
import PseudoTerm.Text.Quantity

/-!
# `od`: bytes written as numbers and characters

The input (all inputs one after the other, from `-j` bytes on, at most `-N` bytes) is
shown in lines of 16 bytes (`-w`), each line starting with its offset (octal by default,
`-A d|o|x`, none with `-A n`) followed by one row per output type (`-t`; by default
octal two-byte words): named characters (`a`), characters with backslash escapes and
octal for the others (`c`), or signed decimal, octal, unsigned decimal or hexadecimal
numbers of 1, 2, 4 or 8 bytes (`d`, `o`, `u`, `x` with a size), little-endian.  The
short options `-a -b -c -d -i -l -o -s -x` stand for common types.  A type with `z`
adds the printable bytes of the line between `>` and `<`.

Fields are right-aligned; the rows of a line share one width per byte.  A line equal to
the one before is shown as `*` unless `-v` is given.  The last line holds only the bytes
left, padded with zeros to whole numbers; the offset after the last byte ends the
output.
-/

namespace PseudoTerm.Programs

open PseudoTerm.Machine PseudoTerm.Text Tool

variable {μ : Type}

namespace Dump

/-- The kinds of output. -/
inductive Kind where
  | named
  | escaped
  | signed
  | octal
  | unsigned
  | hex
  deriving DecidableEq, Repr, Inhabited

/-- An output type: its kind, the bytes of each number, and whether the printable
bytes follow. -/
structure OutputType where
  kind : Kind
  size : Nat := 1
  trailer : Bool := false
  deriving Repr, Inhabited

/-- The width of a field of an output type. -/
def OutputType.fieldWidth (t : OutputType) : Nat :=
  match t.kind with
  | .named | .escaped => 3
  | .signed => [0, 4, 6, 8, 11, 13, 16, 18, 20].getD t.size 20
  | .octal => [0, 3, 6, 8, 11, 14, 16, 19, 22].getD t.size 22
  | .unsigned => [0, 3, 5, 8, 10, 13, 15, 17, 20].getD t.size 20
  | .hex => [0, 2, 4, 6, 8, 10, 12, 14, 16].getD t.size 16

/-- The names of the control characters. -/
def controlNames : Array String :=
  #["nul", "soh", "stx", "etx", "eot", "enq", "ack", "bel", "bs", "ht", "nl", "vt", "ff", "cr",
    "so", "si", "dle", "dc1", "dc2", "dc3", "dc4", "nak", "syn", "etb", "can", "em", "sub",
    "esc", "fs", "gs", "rs", "us", "sp"]

/-- Three octal digits of a byte. -/
def octal3 (b : Nat) : String :=
  String.ofList [Char.ofNat (48 + b / 64 % 8), Char.ofNat (48 + b / 8 % 8), Char.ofNat (48 + b % 8)]

/-- Digits of a number in a base, padded with zeros to a count. -/
def digitsIn (base n width : Nat) : String :=
  let ds := Nat.toDigits base n
  String.ofList (List.replicate (width - ds.length) '0' ++ ds)

/-- The text of one field, before alignment. -/
def fieldText (t : OutputType) (bytes : List UInt8) : String :=
  let value := bytes.foldr (fun b acc => acc * 256 + b.toNat) 0
  match t.kind with
  | .named =>
    let b := value % 128
    if b < 33 then controlNames[b]! else if b == 127 then "del" else (Char.ofNat b).toString
  | .escaped =>
    match value with
    | 0 => "\\0"
    | 7 => "\\a"
    | 8 => "\\b"
    | 12 => "\\f"
    | 10 => "\\n"
    | 13 => "\\r"
    | 9 => "\\t"
    | 11 => "\\v"
    | b => if 32 ≤ b && b < 127 then (Char.ofNat b).toString else octal3 b
  | .signed =>
    let bits := 8 * t.size
    if value ≥ Nat.pow 2 (bits - 1) then "-" ++ toString (Nat.pow 2 bits - value) else toString value
  | .octal => digitsIn 8 value t.fieldWidth
  | .unsigned => toString value
  | .hex => digitsIn 16 value t.fieldWidth

/-- Pad a text on the left to a width. -/
def padLeft (width : Nat) (s : String) : String :=
  String.ofList (List.replicate (width - s.length) ' ') ++ s

/-- One row of a line for an output type: the fields of the bytes at hand out of the
`fields` of a full line, each given its share of the line's padding. -/
def row (t : OutputType) (fields padding : Nat) (bytes : List UInt8) : String :=
  let count := (bytes.length + t.size - 1) / t.size
  let padded := bytes ++ List.replicate (count * t.size - bytes.length) 0
  let items := (List.range count).map fun i => padded.extract (i * t.size) ((i + 1) * t.size)
  let (text, _) := items.zipIdx.foldl (fun (acc : String × Nat) (f, i) =>
    let nextPad := padding * (fields - i - 1) / fields
    let width := acc.2 - nextPad + t.fieldWidth
    (acc.1 ++ padLeft width (fieldText t f), nextPad)) ("", padding)
  text

/-- The printable bytes of a line between `>` and `<`. -/
def trailer (bytes : List UInt8) : String :=
  "  >" ++ String.ofList (bytes.map fun b => if 32 ≤ b && b < 127 then Char.ofNat b.toNat else '.') ++ "<"

/-- How offsets are written. -/
structure Offsets where
  base : Option Nat := some 8
  deriving Repr, Inhabited

/-- An offset as written at the start of a line (empty without offsets). -/
def Offsets.text (o : Offsets) (n : Nat) : String :=
  match o.base with
  | some 16 => digitsIn 16 n 6
  | some b => digitsIn b n 7
  | none => ""

/-- The width of the offset column. -/
def Offsets.width (o : Offsets) : Nat :=
  match o.base with
  | some 16 => 6
  | some _ => 7
  | none => 0

/-- Read a `-t` type list, or the message refusing it. -/
def readTypes (spec : String) : Except String (List OutputType) :=
  go spec.length spec.toList []
where
  /-- The size letters or digits after an integer kind. -/
  size (cs : List Char) : Except String (Nat × List Char) :=
    match cs with
    | 'C' :: r => .ok (1, r)
    | 'S' :: r => .ok (2, r)
    | 'I' :: r => .ok (4, r)
    | 'L' :: r => .ok (8, r)
    | _ =>
      let ds := cs.takeWhile Char.isDigit
      if ds.isEmpty then .ok (4, cs)
      else
        let n := ds.foldl (fun acc (d : Char) => acc * 10 + (d.toNat - 48)) 0
        if n == 1 || n == 2 || n == 4 || n == 8 then .ok (n, cs.drop ds.length)
        else .error s!"invalid type string {mention spec};\nthis system doesn't provide a {n}-byte integral type"
  /-- One type after another. -/
  go : Nat → List Char → List OutputType → Except String (List OutputType)
    | 0, _, acc => .ok acc
    | _, [], acc => .ok acc
    | fuel + 1, c :: rest, acc => do
      let (t, rest) ← match c with
        | 'a' => pure ({ kind := .named : OutputType }, rest)
        | 'c' => pure ({ kind := .escaped : OutputType }, rest)
        | 'd' | 'o' | 'u' | 'x' =>
          let kind := match c with
            | 'd' => Kind.signed
            | 'o' => .octal
            | 'u' => .unsigned
            | _ => .hex
          let (n, rest) ← size rest
          pure ({ kind, size := n : OutputType }, rest)
        | _ => throw s!"invalid type string {mention spec}"
      let (t, rest) := match rest with
        | 'z' :: r => ({ t with trailer := true }, r)
        | r => (t, r)
      go fuel rest (acc ++ [t])

/-- The rows of one line of bytes at its offset, one per output type. -/
def block (types : List OutputType) (o : Offsets) (perLine lineWidth : Nat) (offset : Nat)
    (bytes : List UInt8) : String :=
  String.join <| types.zipIdx.map fun (t, j) =>
    let fields := perLine / t.size
    let padding := lineWidth - t.fieldWidth * fields
    let lead := if j == 0 then o.text offset else String.ofList (List.replicate o.width ' ')
    let blank := (perLine - bytes.length) / t.size
    let tail := if t.trailer then
        String.ofList (List.replicate (blank * t.fieldWidth + padding * blank / fields) ' ') ++ trailer bytes
      else ""
    lead ++ row t fields padding bytes ++ tail ++ "\n"

/-- The lines of a dump of bytes from an offset, with the offset after the last byte. -/
def dumpLines (types : List OutputType) (o : Offsets) (perLine : Nat) (all : Bool)
    (start : Nat) (data : ByteArray) : String :=
  let lineWidth := (types.map fun t => (t.fieldWidth + 1) * (perLine / t.size)).foldl max 0
  let count := (data.size + perLine - 1) / perLine
  let (text, _) := (List.range count).foldl (fun (acc : String × Option (List UInt8 × Bool)) i =>
    let (out, prev) := acc
    let bytes := (data.extract (i * perLine) ((i + 1) * perLine)).toList
    let rows := block types o perLine lineWidth (start + i * perLine) bytes
    match prev with
    | some (p, starred) =>
      if !all && bytes.length == perLine && p == bytes then
        (if starred then out else out ++ "*\n", some (bytes, true))
      else (out ++ rows, some (bytes, false))
    | none => (out ++ rows, some (bytes, false))) ("", none)
  text ++ (if o.base.isSome then o.text (start + data.size) ++ "\n" else "")

/-- The options of `od`. -/
def options : List OptionDef :=
  [letterOption 'A' .required (some "address-radix"), letterOption 'j' .required (some "skip-bytes"),
   letterOption 'N' .required (some "read-bytes"), letterOption 'S' .optional (some "strings"),
   letterOption 't' .required (some "format"), letterOption 'v' .none (some "output-duplicates"),
   letterOption 'w' .optional (some "width"), longOnly "endian" .required, longOnly "traditional"] ++
  ("abBcdDeFfhHiIlLoOsxX".toList.map fun c => letterOption c)

/-- The type a short option stands for. -/
def shortType (c : Char) : Option OutputType :=
  match c with
  | 'a' => some { kind := .named }
  | 'b' => some { kind := .octal, size := 1 }
  | 'c' => some { kind := .escaped }
  | 'd' => some { kind := .unsigned, size := 2 }
  | 'i' => some { kind := .signed, size := 4 }
  | 'l' | 'L' => some { kind := .signed, size := 8 }
  | 'o' | 'B' => some { kind := .octal, size := 2 }
  | 's' => some { kind := .signed, size := 2 }
  | 'x' | 'h' => some { kind := .hex, size := 2 }
  | 'D' => some { kind := .unsigned, size := 4 }
  | 'O' => some { kind := .octal, size := 4 }
  | 'X' | 'H' => some { kind := .hex, size := 4 }
  | 'I' => some { kind := .signed, size := 8 }
  | _ => none

/-- A byte count option's value, or the message refusing it. -/
def countValue (opt : Char) (v : String) : Except String Nat :=
  match readQuantity v ['b', 'E', 'G', 'K', 'k', 'M', 'm', 'P', 'Q', 'R', 'T', 'Y', 'Z'] true true with
  | .value n false => .ok n
  | .value _ true => .error s!"-{opt} argument {mention v} too large"
  | .badSuffix _ => .error s!"invalid suffix in -{opt} argument {mention v}"
  | .invalid => .error s!"invalid -{opt} argument {mention v}"

end Dump

open Dump in
/-- `od`. -/
def odProgram (inv : Invocation) : Prog μ Unit := Tool.run inv do
  let c := readCommandLine options (inv.args.drop 1)
  let mut types : List OutputType := []
  let mut offsets : Offsets := {}
  let mut skip := 0
  let mut limit : Option Nat := none
  let mut perLine := 16
  for o in c.options do
    let v := o.value.getD ""
    match o.key with
    | "A" =>
      match v.toList with
      | ['d'] => offsets := { base := some 10 }
      | ['o'] => offsets := { base := some 8 }
      | ['x'] => offsets := { base := some 16 }
      | ['n'] => offsets := { base := none }
      | _ =>
        let first := String.ofList (v.toList.take 1)
        fail s!"invalid output address radix '{first}'; it must be one character from [doxn]"
    | "t" =>
      match readTypes v with
      | .ok ts => types := types ++ ts
      | .error msg => fail msg
    | "j" =>
      match countValue 'j' v with
      | .ok n => skip := n
      | .error msg => fail msg
    | "N" =>
      match countValue 'N' v with
      | .ok n => limit := some n
      | .error msg => fail msg
    | "w" =>
      match o.value with
      | none => perLine := 32
      | some w =>
        match countValue 'w' w with
        | .ok n => perLine := n
        | .error msg => fail msg
    | k =>
      if let some t := (k.toList.head?).bind shortType then
        if k.length == 1 then types := types ++ [t]
  checkOptions c
  let chosen := if types.isEmpty then [{ kind := .octal, size := 2 }] else types
  let paths := if c.operands.isEmpty then ["-"] else c.operands
  let mut data := ByteArray.empty
  for p in paths do
    match ← openInput p with
    | .error e => complain s!"{mentionFile p}: {e.sentence}"
    | .ok fd =>
      let (bytes, err) ← readAll fd
      closeInput fd
      data := data ++ bytes
      if let some e := err then complain s!"{mentionFile p}: read error: {e.sentence}"
  if skip > data.size then fail "cannot skip past end of combined input"
  let shown := data.extract skip data.size
  let shown := match limit with
    | some n => shown.extract 0 n
    | none => shown
  say (dumpLines chosen offsets perLine (c.has "v") skip shown)

end PseudoTerm.Programs
