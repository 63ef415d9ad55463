import PseudoTerm.Programs.Tool
import PseudoTerm.Text.Quantity

/-!
# Rearranging lines: `rev`, `tac`, `fold` and `nl`

`rev` writes each line with its characters in reverse order.  `tac` writes the lines
of its inputs last first; a last line without its end is written first without one.

`fold` breaks lines longer than a width (80 columns, or `-w`), counting columns as a
terminal does (a tab to the next multiple of eight, a backspace one back, a carriage
return to the start) or bytes with `-b`; with `-s` it breaks after the last blank that
fits when there is one.

`nl` numbers lines: by default the lines that are not empty (`-b a` numbers all, `-b n`
none), right-aligned in six columns followed by a tab (`-w`, `-s`, `-n ln|rn|rz`),
counting from `-v` by `-i`.  Unnumbered lines get blanks in place of the number.  Lines
made only of `\:` pairs start the header, body and footer sections of a page.
-/

namespace PseudoTerm.Programs

open PseudoTerm.Machine PseudoTerm.Text Tool

variable {μ : Type}

namespace Lines

/-- Split input bytes into lines with their ends; a last line may lack one. -/
def withEnds (data : ByteArray) (eol : UInt8) : List (List UInt8) :=
  let (done, cur) := data.toList.foldl (fun (acc : List (List UInt8) × List UInt8) b =>
    if b == eol then ((b :: acc.2).reverse :: acc.1, []) else (acc.1, b :: acc.2)) ([], [])
  let done := if cur.isEmpty then done else cur.reverse :: done
  done.reverse

/-- A line with its characters reversed, its end kept last.  Characters are UTF-8
sequences where the bytes make them, single bytes elsewhere. -/
def reverseLine (line : List UInt8) : List UInt8 :=
  let (body, eol) := if line.getLast? == some 10 then (line.dropLast, [10]) else (line, [])
  match String.fromUTF8? (ByteArray.mk body.toArray) with
  | some s => (String.ofList s.toList.reverse).toUTF8.toList ++ eol
  | none => body.reverse ++ eol

/-- The column after a byte at a column, counting as a terminal does, or bytes. -/
def advance (bytes : Bool) (col : Nat) (b : UInt8) : Nat :=
  if bytes then col + 1
  else if b == 8 then col - 1
  else if b == 13 then 0
  else if b == 9 then col + 8 - col % 8
  else col + 1

/-- The state of folding: the pending output line and its column. -/
structure Folding where
  out : Array UInt8 := #[]
  pending : Array UInt8 := #[]
  column : Nat := 0

/-- Fold one byte. -/
def foldByte (width : Nat) (bytes spaces : Bool) (st : Folding) (b : UInt8) : Folding :=
  if b == 10 then { out := st.out ++ st.pending.push 10, pending := #[], column := 0 }
  else go (st.pending.size + 2) st
where
  /-- Place the byte, breaking lines before it as needed. -/
  go : Nat → Folding → Folding
    | 0, st => { st with pending := st.pending.push b }
    | fuel + 1, st =>
      let column := advance bytes st.column b
      if column ≤ width then { st with pending := st.pending.push b, column }
      else
        let blank := if spaces then
            (List.range st.pending.size).reverse.find? fun i =>
              st.pending[i]! == 32 || st.pending[i]! == 9
          else none
        match blank with
        | some i =>
          let keep := st.pending.extract 0 (i + 1)
          let rest := st.pending.extract (i + 1) st.pending.size
          let col := rest.foldl (advance bytes) 0
          go fuel { out := st.out ++ keep.push 10, pending := rest, column := col }
        | none =>
          if st.pending.isEmpty then { st with pending := st.pending.push b, column }
          else go fuel { out := st.out ++ st.pending.push 10, pending := #[], column := 0 }

/-- Fold a whole input. -/
def foldAll (width : Nat) (bytes spaces : Bool) (data : ByteArray) : ByteArray :=
  let st := data.foldl (foldByte width bytes spaces) {}
  ByteArray.mk (st.out ++ st.pending)

/-- The options of `fold`. -/
def foldOptions : List OptionDef :=
  [letterOption 'b' .none (some "bytes"), letterOption 's' .none (some "spaces"),
   letterOption 'w' .required (some "width")] ++ ("0123456789".toList.map fun c => letterOption c)

/-- How `nl` numbers lines. -/
inductive Style where
  | all
  | nonEmpty
  | none
  deriving DecidableEq, Repr, Inhabited

/-- What `nl` was asked. -/
structure Numbering where
  body : Style := .nonEmpty
  header : Style := .none
  footer : Style := .none
  increment : Int := 1
  start : Int := 1
  width : Nat := 6
  separator : String := "\t"
  format : String := "rn"
  restart : Bool := true
  delimiter : String := "\\:"
  deriving Repr, Inhabited

/-- A line number in its field. -/
def Numbering.field (n : Numbering) (v : Int) : String :=
  let digits := toString v.natAbs
  let sign := if v < 0 then "-" else ""
  match n.format with
  | "ln" => let t := sign ++ digits; t ++ String.ofList (List.replicate (n.width - t.length) ' ')
  | "rz" =>
    sign ++ String.ofList (List.replicate (n.width - sign.length - digits.length) '0') ++ digits
  | _ => let t := sign ++ digits; String.ofList (List.replicate (n.width - t.length) ' ') ++ t

/-- Number the lines of an input, from a line number and part; answers the output
and the next number and part. -/
def numberLines (n : Numbering) (lines : List (List UInt8)) (start : Int) (part : Style) :
    ByteArray × Int × Style :=
  lines.foldl (fun (acc : ByteArray × Int × Style) line =>
    let (out, no, style) := acc
    let body := if line.getLast? == some 10 then line.dropLast else line
    let d := n.delimiter.toUTF8.toList
    if !d.isEmpty && body == d ++ d ++ d then (out.push 10, if n.restart then n.start else no, n.header)
    else if !d.isEmpty && body == d ++ d then (out.push 10, if n.restart then n.start else no, n.body)
    else if !d.isEmpty && body == d then (out.push 10, no, n.footer)
    else
      let numbered := match style with
        | .all => true
        | .nonEmpty => !body.isEmpty
        | .none => false
      let lineBytes := ByteArray.mk line.toArray
      let lineBytes := if line.getLast? == some 10 then lineBytes else lineBytes.push 10
      if numbered then (out ++ (n.field no ++ n.separator).toUTF8 ++ lineBytes, no + n.increment, style)
      else
        let blank := String.ofList (List.replicate (n.width + n.separator.length) ' ')
        (out ++ blank.toUTF8 ++ lineBytes, no, style)) (ByteArray.empty, start, part)

/-- The options of `nl`. -/
def nlOptions : List OptionDef :=
  [letterOption 'b' .required (some "body-numbering"), letterOption 'd' .required (some "section-delimiter"),
   letterOption 'f' .required (some "footer-numbering"), letterOption 'h' .required (some "header-numbering"),
   letterOption 'i' .required (some "line-increment"), letterOption 'l' .required (some "join-blank-lines"),
   letterOption 'n' .required (some "number-format"), letterOption 'p' .none (some "no-renumber"),
   letterOption 's' .required (some "number-separator"), letterOption 'v' .required (some "starting-line-number"),
   letterOption 'w' .required (some "number-width")]

end Lines

open Lines in
/-- `rev`. -/
def revProgram (inv : Invocation) : Prog μ Unit := Tool.run inv do
  let paths := if inv.args.length ≤ 1 then ["-"] else inv.args.drop 1
  for p in paths do
    match ← openInput p with
    | .error e => complain s!"cannot open {p}: {e.sentence}"
    | .ok fd =>
      let (data, _) ← readAll fd
      closeInput fd
      for line in withEnds data 10 do
        emit (ByteArray.mk (reverseLine line).toArray)

open Lines in
/-- `tac`. -/
def tacProgram (inv : Invocation) : Prog μ Unit := Tool.run inv do
  let c := readCommandLine [letterOption 'b' .none (some "before"), letterOption 'r' .none (some "regex"),
    letterOption 's' .required (some "separator")] (inv.args.drop 1)
  checkOptions c
  let paths := if c.operands.isEmpty then ["-"] else c.operands
  for p in paths do
    match ← openInput p with
    | .error e => complain s!"failed to open {mentionFile p true} for reading: {e.sentence}"
    | .ok fd =>
      let (data, _) ← readAll fd
      closeInput fd
      for line in (withEnds data 10).reverse do
        emit (ByteArray.mk line.toArray)

open Lines in
/-- `fold`. -/
def foldProgram (inv : Invocation) : Prog μ Unit := Tool.run inv do
  let args := inv.args.drop 1
  -- an old form `-N` of the width
  let args := args.map fun a =>
    if a.length > 1 && a.startsWith "-" && (a.drop 1).all Char.isDigit then "-w" ++ (a.drop 1).toString else a
  let c := readCommandLine foldOptions args
  let mut width := 80
  for o in c.options do
    if o.key == "w" then
      let v := o.value.getD ""
      match readQuantity v [] false false with
      | .value n false =>
        if n == 0 then fail s!"invalid number of columns: {mention v}: Numerical result out of range"
        width := n
      | .value _ true => fail s!"invalid number of columns: {mention v}: Value too large for defined data type"
      | _ => fail s!"invalid number of columns: {mention v}"
  checkOptions c
  let paths := if c.operands.isEmpty then ["-"] else c.operands
  for p in paths do
    match ← openInput p with
    | .error e => complain s!"{mentionFile p}: {e.sentence}"
    | .ok fd =>
      let (data, _) ← readAll fd
      closeInput fd
      emit (foldAll width (c.has "b") (c.has "s") data)

open Lines in
/-- `nl`. -/
def nlProgram (inv : Invocation) : Prog μ Unit := Tool.run inv do
  let c := readCommandLine nlOptions (inv.args.drop 1)
  let mut n : Numbering := {}
  let style (key v : String) : Tool μ Style :=
    match v with
    | "a" => pure .all
    | "t" => pure .nonEmpty
    | "n" => pure .none
    | _ => misuse s!"invalid {key} numbering style: {mention v}"
  let number (v what : String) : Tool μ Int :=
    match v.toInt? with
    | some i => pure i
    | none => fail s!"invalid {what}: {mention v}"
  for o in c.options do
    let v := o.value.getD ""
    match o.key with
    | "b" => n := { n with body := ← style "body" v }
    | "h" => n := { n with header := ← style "header" v }
    | "f" => n := { n with footer := ← style "footer" v }
    | "i" => n := { n with increment := ← number v "line number increment" }
    | "v" => n := { n with start := ← number v "starting line number" }
    | "w" =>
      let w ← number v "line number field width"
      if w < 1 then fail s!"invalid line number field width: {mention v}: Numerical result out of range"
      n := { n with width := w.toNat }
    | "s" => n := { n with separator := v }
    | "p" => n := { n with restart := false }
    | "d" => n := { n with delimiter := if v.length == 1 then v ++ ":" else v }
    | "n" =>
      if v == "ln" || v == "rn" || v == "rz" then n := { n with format := v }
      else misuse s!"invalid line numbering format: {mention v}"
    | _ => pure ()
  checkOptions c
  let paths := if c.operands.isEmpty then ["-"] else c.operands
  let mut no := n.start
  let mut part := n.body
  for p in paths do
    match ← openInput p with
    | .error e => complain s!"{mentionFile p}: {e.sentence}"
    | .ok fd =>
      let (data, _) ← readAll fd
      closeInput fd
      let (out, next, sec) := numberLines n (withEnds data 10) no part
      emit out
      no := next
      part := sec

end PseudoTerm.Programs
