import PseudoTerm.Programs.Tool

/-!
# Columns of lines: `cut` and `paste`

`cut` keeps parts of each line: the bytes (`-b`, `-c`) or the fields (`-f`, separated
by a tab or the `-d` character) whose positions its list names.  A list is made of
numbers and ranges (`3`, `2-5`, `-4`, `6-`) separated by commas or blanks; the parts are
written in the order of the line, fields joined by the separator (or the
`--output-delimiter` text).  A line without a separator is written whole unless `-s`
asks to drop it; `--complement` keeps what the list does not name.

`paste` joins the lines of its inputs side by side, with the characters of the `-d`
list between them in turn (a tab by default; `\0` stands for no character), or with
`-s` joins all lines of each input into one.  An input that ends early counts as empty
lines.  `-` read several times takes the next lines of the standard input each time.
-/

namespace PseudoTerm.Programs

open PseudoTerm.Machine PseudoTerm.Text Tool

variable {μ : Type}

namespace Fields

/-- A closed range of positions, from 1. -/
structure Span where
  lo : Nat
  hi : Nat
  deriving Repr, Inhabited, DecidableEq

/-- Why a list of positions is refused. -/
inductive ListProblem where
  | numberedFromOne
  | badRange
  | noEndpoint
  | decreasing
  | tooLarge (digits : String)
  | badValue (rest : String)
  | missing
  deriving Repr, Inhabited

/-- The message of a list problem, for bytes or for fields. -/
def ListProblem.message (p : ListProblem) (bytes : Bool) : String :=
  match p with
  | .numberedFromOne => if bytes then "byte/character positions are numbered from 1" else "fields are numbered from 1"
  | .badRange => if bytes then "invalid byte or character range" else "invalid field range"
  | .noEndpoint => "invalid range with no endpoint: -"
  | .decreasing => "invalid decreasing range"
  | .tooLarge d => if bytes then s!"byte/character offset {mention d} is too large" else s!"field number {mention d} is too large"
  | .badValue r => if bytes then s!"invalid byte/character position {mention r}" else s!"invalid field value {mention r}"
  | .missing => if bytes then "missing list of byte/character positions" else "missing list of fields"

/-- The reading state of a list: the range start, the number being read, whether a
left or right number was seen, whether a dash was seen, and the ranges so far. -/
structure ListReader where
  initial : Nat := 1
  value : Nat := 0
  left : Bool := false
  right : Bool := false
  dash : Bool := false
  digits : String := ""
  spans : List Span := []

/-- The largest position. -/
def endless : Nat := Nat.pow 2 64 - 1

/-- Read a list of positions. -/
def readList (text : String) : Except ListProblem (List Span) :=
  go (text.toList.length + 1) text.toList {}
where
  /-- Close the item at hand at a separator or the end. -/
  close (r : ListReader) : Except ListProblem ListReader :=
    if r.dash then
      if !r.left && !r.right then .error .noEndpoint
      else if !r.right then .ok { r with spans := r.spans ++ [⟨r.initial, endless⟩], value := 0, dash := false }
      else if r.value < r.initial then .error .decreasing
      else .ok { r with spans := r.spans ++ [⟨r.initial, r.value⟩], value := 0, dash := false }
    else if r.value == 0 then .error .numberedFromOne
    else .ok { r with spans := r.spans ++ [⟨r.value, r.value⟩], value := 0 }
  /-- One character at a time. -/
  go : Nat → List Char → ListReader → Except ListProblem (List Span)
    | 0, _, r => .ok r.spans
    | fuel + 1, cs, r =>
      match cs with
      | [] => do
        let r ← close r
        if r.spans.isEmpty then .error .missing else .ok r.spans
      | '-' :: rest =>
        if r.dash then .error .badRange
        else if r.left && r.value == 0 then .error .numberedFromOne
        else go fuel rest { r with dash := true, initial := if r.left then r.value else 1, value := 0, digits := "" }
      | c :: rest =>
        if c == ',' || c == ' ' || c == '\t' then do
          let r ← close r
          go fuel rest { r with left := false, right := false, digits := "" }
        else if c.isDigit then
          let v := r.value * 10 + (c.toNat - 48)
          let digits := r.digits.push c
          if v ≥ endless then .error (.tooLarge (digits ++ String.ofList (rest.takeWhile Char.isDigit)))
          else go fuel rest { r with value := v, digits, left := r.left || !r.dash, right := r.right || r.dash }
        else .error (.badValue (String.ofList (c :: rest)))

/-- Whether a position is named by the list (or, with `complement`, not named). -/
def selected (spans : List Span) (complement : Bool) (i : Nat) : Bool :=
  (spans.any fun s => s.lo ≤ i && i ≤ s.hi) != complement

/-- Whether a position starts a run of named positions that follows an earlier run. -/
def startsRun (spans : List Span) (complement : Bool) (i : Nat) : Bool :=
  selected spans complement i && (i == 1 || !selected spans complement (i - 1))

/-- The bytes kept of a line, with the output separator between runs when one is given. -/
def cutBytes (spans : List Span) (complement : Bool) (outSep : Option ByteArray) (line : List UInt8) : ByteArray :=
  let (out, _) := line.zipIdx.foldl (fun (acc : ByteArray × Bool) (b, i) =>
    let pos := i + 1
    if selected spans complement pos then
      let acc1 := match outSep with
        | some sep => if acc.2 && startsRun spans complement pos then acc.1 ++ sep else acc.1
        | none => acc.1
      (acc1.push b, true)
    else acc) (ByteArray.empty, false)
  out

/-- The fields kept of a line joined by the output separator, or none for a line without
the separator that is dropped. -/
def cutFields (spans : List Span) (complement : Bool) (sep : UInt8) (outSep : ByteArray)
    (onlyDelimited : Bool) (line : List UInt8) : Option ByteArray :=
  if !line.contains sep then (if onlyDelimited then none else some (ByteArray.mk line.toArray))
  else
    let fields := line.splitOn sep
    let kept := fields.zipIdx.filter fun (_, i) => selected spans complement (i + 1)
    some (kept.zipIdx.foldl (fun acc ((f, _), j) =>
      (if j == 0 then acc else acc ++ outSep) ++ ByteArray.mk f.toArray) ByteArray.empty)

/-- Split input bytes into lines at an end byte, answering whether the last one ended. -/
def lines (data : ByteArray) (sep : UInt8) : List (List UInt8) :=
  let parts := data.toList.splitOn sep
  match parts.getLast? with
  | some [] => parts.dropLast
  | _ => parts

/-- The options of `cut`. -/
def cutOptions : List OptionDef :=
  [letterOption 'b' .required (some "bytes"), letterOption 'c' .required (some "characters"),
   letterOption 'f' .required (some "fields"), letterOption 'd' .required (some "delimiter"),
   letterOption 'n', letterOption 's' .none (some "only-delimited"),
   letterOption 'z' .none (some "zero-terminated"), longOnly "complement",
   longOnly "output-delimiter" .required]

/-- The characters of a `paste` list, with `\0` (none) as `none`, or the message refusing it. -/
def pasteList (text : String) : Except String (List (Option UInt8)) :=
  go text.toUTF8.toList.length text.toUTF8.toList []
where
  /-- One byte at a time. -/
  go : Nat → List UInt8 → List (Option UInt8) → Except String (List (Option UInt8))
    | 0, _, acc => .ok acc
    | _, [], acc => .ok acc
    | fuel + 1, 92 :: rest, acc =>
      match rest with
      | [] => .error s!"delimiter list ends with an unescaped backslash: {mentionFile text}"
      | c :: more =>
        let d : Option UInt8 := match Char.ofNat c.toNat with
          | '0' => none
          | 'n' => some 10
          | 't' => some 9
          | 'b' => some 8
          | 'f' => some 12
          | 'r' => some 13
          | 'v' => some 11
          | _ => some c
        go fuel more (acc ++ [d])
    | fuel + 1, c :: rest, acc => go fuel rest (acc ++ [some c])

/-- The separator at a turn of a cycling list. -/
def cycle (list : List (Option UInt8)) (k : Nat) : Option UInt8 :=
  if list.isEmpty then none else list[k % list.length]!

/-- The bytes of an optional separator. -/
def sepBytes : Option UInt8 → ByteArray
  | some b => ByteArray.mk #[b]
  | none => ByteArray.empty

/-- Join the lines of each input into one line. -/
def serial (list : List (Option UInt8)) (eol : UInt8) (data : ByteArray) : ByteArray :=
  if data.size == 0 then ByteArray.mk #[eol]
  else
    let bytes := data.toList
    let (out, _) := (bytes.zipIdx.foldl (fun (acc : ByteArray × Nat) (b, i) =>
      if b == eol && i + 1 < bytes.length then (acc.1 ++ sepBytes (cycle list acc.2), acc.2 + 1)
      else (acc.1.push b, acc.2)) (ByteArray.empty, 0))
    if bytes.getLast? == some eol then out else out.push eol

/-- The state of side by side joining: the lines left of each source, which inputs are
still open, and how many are. -/
structure Sides where
  sources : Array (List (List UInt8))
  openInputs : Array Bool
  count : Nat

/-- Join the lines of the inputs side by side; `sourceOf` gives the source of each input
(inputs reading the standard input share one). -/
def parallel (list : List (Option UInt8)) (eol : UInt8) (sourceOf : List Nat)
    (sources : Array (List (List UInt8))) : ByteArray :=
  let n := sourceOf.length
  let rec rows : Nat → Sides → ByteArray → ByteArray
    | 0, _, out => out
    | fuel + 1, st, out =>
      if st.count == 0 then out
      else
        -- one output line
        let (st, out, _, _, _) := sourceOf.zipIdx.foldl
          (fun (acc : Sides × ByteArray × Bool × ByteArray × Nat) (src, i) =>
            let (st, out, any, saved, turn) := acc
            if st.count == 0 then acc
            else
              let line? := if st.openInputs[i]! then (st.sources[src]!).head? else none
              match line? with
              | some line =>
                let st := { st with sources := st.sources.set! src (st.sources[src]!).tail }
                let out := out ++ saved ++ ByteArray.mk line.toArray
                if i + 1 != n then (st, out ++ sepBytes (cycle list turn), true, ByteArray.empty, turn + 1)
                else (st, out.push eol, true, ByteArray.empty, turn)
              | none =>
                let st := if st.openInputs[i]! then
                    { st with openInputs := st.openInputs.set! i false, count := st.count - 1 }
                  else st
                if i + 1 == n then
                  if any then (st, (out ++ saved).push eol, any, ByteArray.empty, turn)
                  else (st, out, any, saved, turn)
                else (st, out, any, saved ++ sepBytes (cycle list turn), turn + 1))
          (st, out, false, ByteArray.empty, 0)
        rows fuel st out
  let total := sources.foldl (fun acc s => acc + s.length) 0
  rows (total + 2) { sources, openInputs := Array.replicate n true, count := n } ByteArray.empty

/-- The options of `paste`. -/
def pasteOptions : List OptionDef :=
  [letterOption 'd' .required (some "delimiters"), letterOption 's' .none (some "serial"),
   letterOption 'z' .none (some "zero-terminated")]

end Fields

open Fields in
/-- `cut`. -/
def cutProgram (inv : Invocation) : Prog μ Unit := Tool.run inv do
  let c := readCommandLine cutOptions (inv.args.drop 1)
  let mut mode : Option (Bool × String) := none
  let mut sep : Option UInt8 := none
  let mut outSep : Option ByteArray := none
  let mut onlyDelimited := false
  let mut zero := false
  let mut complement := false
  for o in c.options do
    let v := o.value.getD ""
    match o.key with
    | "b" | "c" | "f" =>
      if mode.isSome then misuse "only one type of list may be specified"
      mode := some (o.key != "f", v)
    | "d" =>
      let bs := v.toUTF8
      if bs.size > 1 then misuse "the delimiter must be a single character"
      sep := some (if bs.size == 0 then 0 else bs.get! 0)
    | "output-delimiter" => outSep := some (if v.isEmpty then ByteArray.mk #[0] else v.toUTF8)
    | "s" => onlyDelimited := true
    | "z" => zero := true
    | "complement" => complement := true
    | _ => pure ()
  checkOptions c
  let (bytes, listText) ← match mode with
    | some m => pure m
    | none => misuse "you must specify a list of bytes, characters, or fields"
  if sep.isSome && bytes then misuse "an input delimiter may be specified only when operating on fields"
  if onlyDelimited && bytes then
    misuse "suppressing non-delimited lines makes sense\n\tonly when operating on fields"
  let spans ← match readList listText with
    | .ok s => pure s
    | .error p => misuse (p.message bytes)
  let sepByte := sep.getD 9
  let eol : UInt8 := if zero then 0 else 10
  let paths := if c.operands.isEmpty then ["-"] else c.operands
  for p in paths do
    match ← openInput p with
    | .error e => complain s!"{mentionFile p}: {e.sentence}"
    | .ok fd =>
      let (data, err) ← readAll fd
      closeInput fd
      for line in lines data eol do
        if bytes then emit ((cutBytes spans complement outSep line).push eol)
        else
          match cutFields spans complement sepByte (outSep.getD (ByteArray.mk #[sepByte])) onlyDelimited line with
          | some out => emit (out.push eol)
          | none => pure ()
      if let some e := err then complain s!"{mentionFile p}: {e.sentence}"

open Fields in
/-- `paste`. -/
def pasteProgram (inv : Invocation) : Prog μ Unit := Tool.run inv do
  let c := readCommandLine pasteOptions (inv.args.drop 1)
  checkOptions c
  let listText := match c.last? "d" with
    | some "" => "\\0"
    | some d => d
    | none => "\t"
  let list ← match pasteList listText with
    | .ok l => pure l
    | .error msg => fail msg
  let eol : UInt8 := if c.has "z" then 0 else 10
  let paths := if c.operands.isEmpty then ["-"] else c.operands
  if c.has "s" then
    for p in paths do
      match ← openInput p with
      | .error e => complain s!"{mentionFile p}: {e.sentence}"
      | .ok fd =>
        let (data, _) ← readAll fd
        closeInput fd
        emit (serial list eol data)
  else
    -- every input is opened first; the standard input is read once and shared
    let mut sources : Array (List (List UInt8)) := #[]
    let mut sourceOf : List Nat := []
    let mut stdinSource : Option Nat := none
    for p in paths do
      if p == "-" then
        match stdinSource with
        | some i => sourceOf := sourceOf ++ [i]
        | none =>
          let (data, _) ← readAll 0
          stdinSource := some sources.size
          sourceOf := sourceOf ++ [sources.size]
          sources := sources.push (lines data eol)
      else
        match ← openInput p with
        | .error e => fail s!"{mentionFile p}: {e.sentence}"
        | .ok fd =>
          let (data, _) ← readAll fd
          closeInput fd
          sourceOf := sourceOf ++ [sources.size]
          sources := sources.push (lines data eol)
    emit (parallel list eol sourceOf sources)

end PseudoTerm.Programs
