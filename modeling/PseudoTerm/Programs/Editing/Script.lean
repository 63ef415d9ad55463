import PseudoTerm.Pattern.Compile

/-!
# Editing scripts

An editing script is a list of commands, each with up to two addresses and an optional
`!` that turns its selection round.  An address is a line number, `$` (the last line), a
pattern between slashes (or any delimiter after a backslash, followed by `I` or `M`),
`first~step`; a second address may also be `+N` (the N lines after) or `~N` (up to a
multiple of N).

Commands are single letters: `{` and `}` group, `=` writes the line number, `a`, `i`, `c`
add, insert and change text, `b`, `t`, `T` jump to labels set with `:`, `d`, `D` delete,
`g`, `G`, `h`, `H`, `x` move text between the pattern and hold spaces, `l` lists, `n`,
`N` read the next line, `p`, `P` print, `q`, `Q` quit, `r`, `R`, `w`, `W` read and write
files, `s` substitutes, `y` transliterates, `z` empties, `F` writes the input's name, and
`#` comments.

Reading a script counts the bytes it has taken, so that a problem is reported at the byte
where it was found, with the message of its kind.
-/

namespace PseudoTerm.Programs.Editing

open PseudoTerm.Pattern

/-- An address. -/
inductive Address where
  | line (n : Nat)
  | last
  /-- A pattern; none for the last pattern used. -/
  | pattern (p : Option Compiled)
  | step (first step : Nat)
  /-- As a second address: the lines after the first, this many. -/
  | following (n : Nat)
  /-- As a second address: up to the next line whose number is a multiple of this. -/
  | multiple (n : Nat)
  deriving Inhabited

/-- A piece of the replacement of a substitution. -/
inductive Piece where
  | bytes (b : List UInt8)
  /-- What a group matched (0 for the whole match). -/
  | group (n : Nat)
  /-- From here on, upper case (`\U`), lower case (`\L`), or as it is (`\E`). -/
  | caseFrom (mode : Option Bool)
  /-- The next character in upper case (`\u`) or lower case (`\l`). -/
  | caseNext (upper : Bool)
  deriving Repr, Inhabited

/-- A substitution. -/
structure Substitution where
  pattern : Option Compiled
  replacement : List Piece
  global : Bool := false
  /-- Which match to replace first (from 1). -/
  occurrence : Nat := 1
  print : Bool := false
  write : Option String := none
  deriving Inhabited

/-- A command. -/
inductive Command where
  /-- Open a block; when the block is not selected, go on after its end. -/
  | openBlock (past : Nat)
  | closeBlock
  | lineNumber
  | append (text : List UInt8)
  | insert (text : List UInt8)
  | change (text : List UInt8)
  /-- Jump: always, after a substitution, or unless one; to the end when none. -/
  | branch (kind : Char) (target : Option Nat)
  | label
  | delete
  | deleteFirst
  | holdCopy
  | holdAppend
  | getCopy
  | getAppend
  | exchange
  | list (width : Option Nat)
  | next
  | appendNext
  | print
  | printFirst
  | quit (code : Nat)
  | quitSilently (code : Nat)
  | readFile (path : String)
  | readLine (path : String)
  | writeFile (path : String)
  | writeFirst (path : String)
  | substitute (s : Substitution)
  | transliterate (pairs : List (UInt8 × UInt8))
  | zap
  | fileName
  | comment
  deriving Inhabited

/-- A command with its addresses. -/
structure Instruction where
  first : Option Address := none
  second : Option Address := none
  negated : Bool := false
  command : Command
  deriving Inhabited

/-- A problem in a script: where it was found and its message. -/
structure ScriptError where
  used : Nat
  line : Nat
  message : String
  deriving Inhabited

/-- The state of reading a script. -/
structure Reader where
  rest : List UInt8
  used : Nat := 0
  line : Nat := 1
  extended : Bool
  deriving Inhabited

/-- Reading a script. -/
abbrev Reading := StateT Reader (Except ScriptError)

/-- The byte of a character. -/
def byte (c : Char) : UInt8 := c.toNat.toUInt8

/-- Stop with a problem at the current place. -/
def bad {α : Type} (message : String) : Reading α := do
  let r ← get
  throw { used := r.used, line := r.line, message }

/-- Take the next byte. -/
def inchar : Reading (Option UInt8) := do
  let r ← get
  match r.rest with
  | [] => pure none
  | c :: rest =>
    set { r with rest, used := r.used + 1, line := if c == 10 then r.line + 1 else r.line }
    pure (some c)

/-- Give back a byte just taken. -/
def savchar (c : Option UInt8) : Reading Unit := do
  match c with
  | none => pure ()
  | some c =>
    modify fun r => { r with rest := c :: r.rest, used := r.used - 1, line := if c == 10 then r.line - 1 else r.line }

/-- Take bytes while they hold. -/
def takeWhile (p : UInt8 → Bool) : Reading (List UInt8) := do
  let r ← get
  let taken := r.rest.takeWhile p
  set { r with rest := r.rest.drop taken.length, used := r.used + taken.length,
               line := r.line + (taken.filter (· == 10)).length }
  pure taken

/-- Whether a byte is a blank (space or tab). -/
def blank (b : UInt8) : Bool := b == 32 || b == 9

/-- Whether a byte is white space. -/
def white (b : UInt8) : Bool := b == 32 || (9 ≤ b && b ≤ 13)

/-- Take the next byte that is not a blank. -/
def inNonblank : Reading (Option UInt8) := do
  let _ ← takeWhile blank
  inchar

/-- Read a number whose first digit was taken. -/
def inInteger (first : UInt8) : Reading Nat := do
  let more ← takeWhile fun b => 48 ≤ b && b ≤ 57
  pure ((first :: more).foldl (fun n d => n * 10 + (d - 48).toNat) 0)

/-- The text up to an unescaped delimiter: `\n` stands for a line feed in a pattern, an
escaped delimiter for itself; other escapes are kept.  Answers the text, the bytes taken,
and whether the delimiter ended it (not a line feed or the end). -/
def delimited (slash : UInt8) (regex : Bool) : List UInt8 → List UInt8 × Nat × Bool
  | [] => ([], 0, false)
  | c :: rest =>
    if c == 10 then ([], 0, false)
    else if c == slash then ([], 1, true)
    else if c == 92 then
      match rest with
      | [] => ([], 1, false)
      | d :: more =>
        let piece :=
          if d == byte 'n' && regex then [10]
          else if d != 10 && (d != slash || (!regex && d == byte '&')) then [92, d]
          else [d]
        let (t, n, ok) := delimited slash regex more
        (piece ++ t, n + 2, ok)
    else
      let (t, n, ok) := delimited slash regex rest
      (c :: t, n + 1, ok)

/-- Read up to a delimiter; none when it does not come. -/
def matchSlash (slash : UInt8) (regex : Bool) : Reading (Option (List UInt8)) := do
  let r ← get
  let (text, n, ok) := delimited slash regex r.rest
  let taken := r.rest.take n
  set { r with rest := r.rest.drop n, used := r.used + n, line := r.line + (taken.filter (· == 10)).length }
  pure (if ok then some text else none)

/-- The value of a hexadecimal digit. -/
def hexValue (b : UInt8) : Option Nat :=
  if 48 ≤ b && b ≤ 57 then some (b - 48).toNat
  else if 97 ≤ b && b ≤ 102 then some (b - 87).toNat
  else if 65 ≤ b && b ≤ 70 then some (b - 55).toNat
  else none

/-- Read up to `count` digits of a base; answers the value and the rest, none without a
digit. -/
def readDigits (base count : Nat) (bs : List UInt8) : Option (Nat × List UInt8) :=
  let digits := (bs.take count).takeWhile fun b => (hexValue b).any (· < base)
  if digits.isEmpty then none
  else some (digits.foldl (fun n d => n * base + (hexValue d).getD 0) 0, bs.drop digits.length)

/-- Turn the escapes that name bytes (`\a \f \n \r \t \v`, `\dNNN`, `\oNNN`, `\xHH`,
`\cX`) into those bytes; `\n` only when `newline`.  Other escapes are kept. -/
def unescape (newline : Bool) : List UInt8 → Nat → List UInt8
  | _, 0 => []
  | [], _ => []
  | [92], _ => [92]
  | 92 :: d :: rest, fuel + 1 =>
    let simple : Option UInt8 :=
      if d == byte 'a' then some 7 else if d == byte 'f' then some 12
      else if d == byte 'n' && newline then some 10 else if d == byte 'r' then some 13
      else if d == byte 't' then some 9 else if d == byte 'v' then some 11 else none
    match simple with
    | some b => b :: unescape newline rest fuel
    | none =>
      let numbered := if d == byte 'd' then readDigits 10 3 rest
        else if d == byte 'o' then readDigits 8 3 rest
        else if d == byte 'x' then readDigits 16 2 rest
        else none
      match numbered with
      | some (v, after) => (v % 256).toUInt8 :: unescape newline after fuel
      | none =>
        if d == byte 'c' then
          match rest with
          | x :: after => ((upperByte x) ^^^ 64) :: unescape newline after fuel
          | [] => [92, d]
        else 92 :: d :: unescape newline rest fuel
  | c :: rest, fuel + 1 => c :: unescape newline rest fuel

/-- The pieces of a replacement: `&` and `\0`-`\9` for groups, `\L \U \E \l \u` for case,
an escaped byte for itself. -/
def replacementPieces : List UInt8 → Nat → List Piece
  | _, 0 => []
  | [], _ => []
  | [92], _ => [.bytes [92]]
  | 92 :: d :: rest, fuel + 1 =>
    let here : Piece :=
      if 48 ≤ d && d ≤ 57 then .group (d - 48).toNat
      else if d == byte 'L' then .caseFrom (some false)
      else if d == byte 'U' then .caseFrom (some true)
      else if d == byte 'E' then .caseFrom none
      else if d == byte 'l' then .caseNext false
      else if d == byte 'u' then .caseNext true
      else if d == byte 'n' then .bytes [10]
      else .bytes [d]
    here :: replacementPieces rest fuel
  | 38 :: rest, fuel + 1 => .group 0 :: replacementPieces rest fuel
  | c :: rest, fuel + 1 => .bytes [c] :: replacementPieces rest fuel

/-- The highest group a replacement refers to. -/
def highestGroup (ps : List Piece) : Nat :=
  ps.foldl (fun m p => match p with
    | .group n => max m n
    | _ => m) 0

/-- Compile a pattern read from a script; none for the empty pattern (the last one used). -/
def compilePattern (text : List UInt8) (ignoreCase multiline : Bool) : Reading (Option Compiled) := do
  if text.isEmpty then return none
  let r ← get
  let d := if r.extended then Dialect.extendedStrict else Dialect.basic
  match compile d (unescape false text (text.length + 1)) ignoreCase with
  | .ok p => pure (some { p with multiline })
  | .error e => bad e.message

/-- Read an address starting with a byte already taken; none when the byte starts none. -/
def readAddress (c : Option UInt8) : Reading (Option Address) := do
  match c with
  | none => pure none
  | some c =>
    if c == byte '/' || c == 92 then
      let slash ← if c == 92 then inchar else pure (some c)
      let text ← match slash with
        | some s => matchSlash s true
        | none => pure none
      match text with
      | none => bad "unterminated address regex"
      | some text =>
        let mut ignoreCase := false
        let mut multiline := false
        for _ in [0:text.length + 64] do
          let f ← inNonblank
          if f == some (byte 'I') then ignoreCase := true
          else if f == some (byte 'M') then multiline := true
          else
            savchar f
            break
        pure (some (.pattern (← compilePattern text ignoreCase multiline)))
    else if 48 ≤ c && c ≤ 57 then
      let n ← inInteger c
      let next ← inNonblank
      if next == some (byte '~') then
        let d ← inNonblank
        let step ← match d with
          | some d => if 48 ≤ d && d ≤ 57 then inInteger d else do savchar (some d); pure 0
          | none => pure 0
        pure (some (if step > 0 then .step n step else .line n))
      else
        savchar next
        pure (some (.line n))
    else if c == byte '+' || c == byte '~' then
      let d ← inNonblank
      let n ← match d with
        | some d => if 48 ≤ d && d ≤ 57 then inInteger d else do savchar (some d); pure 0
        | none => pure 0
      pure (some (if c == byte '+' then .following n else .multiple n))
    else if c == byte '$' then pure (some .last)
    else pure none

/-- Check that a command ends here: a line feed, `;`, the end, or a `}` or `#` left for
the next command. -/
def endOfCommand : Reading Unit := do
  let c ← inNonblank
  if c == some (byte '}') || c == some (byte '#') then savchar c
  else if c != none && c != some 10 && c != some (byte ';') then bad "extra characters after command"

/-- Read a label: up to white space or `;`. -/
def readLabel : Reading String := do
  let first ← inNonblank
  match first with
  | none => pure ""
  | some f =>
    if f == 10 || white f || f == byte ';' then
      savchar (some f)
      let _ ← inchar
      pure ""
    else
      let more ← takeWhile fun b => !(b == 10 || white b || b == byte ';')
      let _ ← inchar
      pure (String.fromUTF8? (ByteArray.mk (f :: more).toArray) |>.getD "")

/-- Read a file name: the rest of the line. -/
def readFileName : Reading String := do
  let first ← inNonblank
  match first with
  | none => pure ""
  | some f =>
    if f == 10 then pure ""
    else
      let more ← takeWhile (· != 10)
      let _ ← inchar
      pure (String.fromUTF8? (ByteArray.mk (f :: more).toArray) |>.getD "")

/-- Each escaped byte for itself. -/
def dropEscapes : List UInt8 → Nat → List UInt8
  | _, 0 => []
  | 92 :: d :: rest, fuel + 1 => d :: dropEscapes rest fuel
  | c :: rest, fuel + 1 => c :: dropEscapes rest fuel
  | [], _ => []

/-- Read the text of `a`, `i` or `c` after the letter. -/
def readText : Reading (List UInt8) := do
  let c ← inNonblank
  match c with
  | none => bad "expected \\ after `a', `c' or `i'"
  | some c =>
    let lead ← if c == 92 then inchar else do savchar (some c); pure (some 10)
    -- a backslash and a line feed: the text starts on the next line
    let lead := if lead == some 10 then none else lead
    let rest ← get
    let (text, n) := textLine rest.rest
    let taken := rest.rest.take n
    set { rest with rest := rest.rest.drop n, used := rest.used + n,
                    line := rest.line + (taken.filter (· == 10)).length }
    let body := (match lead with
      | some l => [l]
      | none => []) ++ text
    pure (dropEscapes (unescape true body (body.length + 1)) (body.length + 1) ++ [10])
where
  /-- The text up to a line feed not escaped by a backslash, escapes kept; and the bytes
  taken. -/
  textLine : List UInt8 → List UInt8 × Nat
    | [] => ([], 0)
    | 10 :: _ => ([], 1)
    | 92 :: d :: more =>
      let (t, n) := textLine more
      (if d == 10 then 10 :: t else 92 :: d :: t, n + 2)
    | [92] => ([], 1)
    | c :: more =>
      let (t, n) := textLine more
      (c :: t, n + 1)

/-- Read the flags of a substitution. -/
def readFlags (s : Substitution) : Reading (Substitution × Bool × Bool) := do
  let mut s := s
  let mut ignoreCase := false
  let mut multiline := false
  let mut numbered := false
  for _ in [0:(← get).rest.length + 1] do
    let c ← inchar
    match c with
    | none => break
    | some c =>
      if c == byte 'i' || c == byte 'I' then ignoreCase := true
      else if c == byte 'm' || c == byte 'M' then multiline := true
      else if c == byte 'e' then pure ()
      else if c == byte 'p' then
        if s.print then bad "multiple `p' options to `s' command"
        s := { s with print := true }
      else if c == byte 'g' then
        if s.global then bad "multiple `g' options to `s' command"
        s := { s with global := true }
      else if c == byte 'w' then
        s := { s with write := some (← readFileName) }
        break
      else if 48 ≤ c && c ≤ 57 then
        if numbered then bad "multiple number options to `s' command"
        let n ← inInteger c
        if n == 0 then bad "number option to `s' command may not be zero"
        numbered := true
        s := { s with occurrence := n }
      else if c == byte '}' || c == byte '#' then
        savchar (some c)
        break
      else if c == 10 || c == byte ';' then break
      else bad "unknown option to `s'"
  pure (s, ignoreCase, multiline)

/-- Read the two strings of `y` into pairs of bytes. -/
def readTransliteration : Reading (List (UInt8 × UInt8)) := do
  let slash ← inchar
  let some slash := slash | bad "unterminated `y' command"
  let some src ← matchSlash slash false | bad "unterminated `y' command"
  let some dst ← matchSlash slash false | bad "unterminated `y' command"
  let plain (bs : List UInt8) : List UInt8 := dropEscapes (unescape true bs (bs.length + 1)) (bs.length + 1)
  let a := plain src
  let b := plain dst
  if a.length != b.length then bad "strings for `y' command are different lengths"
  endOfCommand
  pure (a.zip b)

/-- A jump waiting for its label: the instruction and the label. -/
structure PendingJump where
  index : Nat
  label : String
  deriving Inhabited

/-- What reading the commands has gathered: the instructions, the open blocks, the labels
and the jumps. -/
structure Gathered where
  instructions : Array Instruction := #[]
  blocks : List (Nat × Nat × Nat) := []
  labels : List (String × Nat) := []
  jumps : List PendingJump := []
  /-- The files written to. -/
  outputs : List String := []
  /-- Whether the script starts with `#n`. -/
  quiet : Bool := false
  deriving Inhabited

/-- Read one command, its addresses already read; answers false at the end of the text. -/
def readCommand (g : Gathered) (first : Bool) : Reading (Option Gathered) := do
  let c ← takeWhile fun b => b == byte ';' || white b
  let _ := c
  let some ch ← inchar | return none
  let mut ins : Instruction := { command := .comment }
  let mut ch : Option UInt8 := some ch
  if let some a ← readAddress ch then
    match a with
    | .following _ | .multiple _ => bad "invalid usage of +N or ~N as first address"
    | _ => pure ()
    ins := { ins with first := some a }
    ch ← inNonblank
    if ch == some (byte ',') then
      match ← readAddress (← inNonblank) with
      | some b => ins := { ins with second := some b }
      | none => bad "unexpected `,'"
      ch ← inNonblank
    match ins.first, ins.second with
    | some (.line 0), some (.pattern _) => pure ()
    | some (.line 0), _ => bad "invalid usage of line address 0"
    | _, _ => pure ()
  if ch == some (byte '!') then
    ins := { ins with negated := true }
    ch ← inNonblank
    if ch == some (byte '!') then bad "multiple `!'s"
  let index := g.instructions.size
  let hasAddress := ins.first.isSome
  let push (cmd : Command) (g : Gathered) : Gathered :=
    { g with instructions := g.instructions.push { ins with command := cmd } }
  match ch with
  | none => bad "missing command"
  | some c =>
    if c == byte '#' then
      if hasAddress then bad "comments don't accept any addresses"
      let r ← get
      let quiet := first && r.used == 1 && r.rest.head? == some (byte 'n') &&
        (r.rest.drop 1).head?.all (· == 10)
      let _ ← takeWhile (· != 10)
      pure (some { push .comment g with quiet := g.quiet || quiet })
    else if c == byte '{' then
      let r ← get
      pure (some { push (.openBlock 0) g with blocks := (index, r.used, r.line) :: g.blocks })
    else if c == byte '}' then
      match g.blocks with
      | [] => bad "unexpected `\x7d'"
      | (opener, _, _) :: outer =>
        if hasAddress then bad "`\x7d' doesn't want any addresses"
        endOfCommand
        let g := push .closeBlock g
        let fixed := g.instructions.modify opener fun i => { i with command := .openBlock (index + 1) }
        pure (some { g with instructions := fixed, blocks := outer })
    else if c == byte 'a' || c == byte 'i' || c == byte 'c' then
      let text ← readText
      let cmd := if c == byte 'a' then Command.append text else if c == byte 'i' then .insert text else .change text
      pure (some (push cmd g))
    else if c == byte ':' then
      if hasAddress then bad ": doesn't want any addresses"
      let l ← readLabel
      if l.isEmpty then bad "\":\" lacks a label"
      pure (some { push .label g with labels := g.labels ++ [(l, index)] })
    else if c == byte 'b' || c == byte 't' || c == byte 'T' then
      let l ← readLabel
      let g := push (.branch (Char.ofNat c.toNat) none) g
      pure (some (if l.isEmpty then g else { g with jumps := g.jumps ++ [{ index, label := l }] }))
    else if c == byte 'v' then
      let _ ← readLabel
      pure (some (push .comment g))
    else if c == byte 'q' || c == byte 'Q' || c == byte 'l' then
      if (c == byte 'q' || c == byte 'Q') && ins.second.isSome then bad "command only uses one address"
      let d ← inNonblank
      let (n, d) ← match d with
        | some x => if 48 ≤ x && x ≤ 57 then do let n ← inInteger x; pure (some n, ← inNonblank) else pure (none, d)
        | none => pure (none, d)
      if d == some (byte '}') || d == some (byte '#') then savchar d
      else if d != none && d != some 10 && d != some (byte ';') then bad "extra characters after command"
      let cmd := if c == byte 'q' then Command.quit (n.getD 0) else if c == byte 'Q' then .quitSilently (n.getD 0)
        else .list n
      pure (some (push cmd g))
    else if c == byte 'r' || c == byte 'R' || c == byte 'w' || c == byte 'W' then
      let f ← readFileName
      if f.isEmpty then bad "missing filename in r/R/w/W commands"
      let cmd := if c == byte 'r' then Command.readFile f else if c == byte 'R' then .readLine f
        else if c == byte 'w' then .writeFile f else .writeFirst f
      let g := push cmd g
      pure (some (if c == byte 'w' || c == byte 'W' then { g with outputs := g.outputs ++ [f] } else g))
    else if c == byte 's' then
      let slash ← inchar
      let some slash := slash | bad "unterminated `s' command"
      let some pat ← matchSlash slash true | bad "unterminated `s' command"
      let some rep ← matchSlash slash false | bad "unterminated `s' command"
      let pieces := replacementPieces (unescape false rep (rep.length + 1)) (rep.length + 1)
      let (s, ignoreCase, multiline) ← readFlags { pattern := none, replacement := pieces }
      let p ← compilePattern pat ignoreCase multiline
      let groups := match p with
        | some p => p.groups
        | none => 9
      let high := highestGroup pieces
      if high > groups then bad s!"invalid reference \\{high} on `s' command's RHS"
      let g := push (.substitute { s with pattern := p }) g
      pure (some (match s.write with
        | some f => { g with outputs := g.outputs ++ [f] }
        | none => g))
    else if c == byte 'y' then
      let pairs ← readTransliteration
      pure (some (push (.transliterate pairs) g))
    else
      let simple : Option Command :=
        if c == byte '=' then some .lineNumber else if c == byte 'd' then some .delete
        else if c == byte 'D' then some .deleteFirst else if c == byte 'F' then some .fileName
        else if c == byte 'g' then some .getCopy else if c == byte 'G' then some .getAppend
        else if c == byte 'h' then some .holdCopy else if c == byte 'H' then some .holdAppend
        else if c == byte 'n' then some .next else if c == byte 'N' then some .appendNext
        else if c == byte 'p' then some .print else if c == byte 'P' then some .printFirst
        else if c == byte 'z' then some .zap else if c == byte 'x' then some .exchange
        else none
      match simple with
      | some cmd =>
        endOfCommand
        pure (some (push cmd g))
      | none => bad s!"unknown command: `{Char.ofNat c.toNat}'"

/-- Read all the commands of one piece of script text into what is gathered. -/
def readScript (g : Gathered) (first : Bool) : Nat → Reading Gathered
  | 0 => pure g
  | fuel + 1 => do
    match ← readCommand g first with
    | some g' => readScript g' false fuel
    | none => pure g

/-- A whole script: its instructions with jumps resolved, the files it writes, and
whether it starts with `#n`. -/
structure Script where
  instructions : Array Instruction
  outputs : List String
  quiet : Bool
  deriving Inhabited

/-- A problem found once the whole script is read. -/
inductive FinalProblem where
  /-- A block left open, with where it was opened. -/
  | openBlock (used line : Nat)
  | missingLabel (label : String)
  deriving Inhabited

/-- Resolve the jumps and check that the blocks are closed. -/
def Gathered.finish (g : Gathered) : Except FinalProblem Script := do
  if let (_, used, line) :: _ := g.blocks then throw (.openBlock used line)
  let mut ins := g.instructions
  for j in g.jumps do
    match g.labels.find? (·.1 == j.label) with
    | some (_, target) =>
      ins := ins.modify j.index fun i => match i.command with
        | .branch k _ => { i with command := .branch k (some target) }
        | c => { i with command := c }
    | none => throw (.missingLabel j.label)
  pure { instructions := ins, outputs := g.outputs, quiet := g.quiet }

end PseudoTerm.Programs.Editing
