import PseudoTerm.Terminal.Settings

/-!
# The line discipline

Between the two sides of a terminal stands its line discipline.  Bytes typed at the
terminal are *received*: the special characters send signals, erase, end lines or
stop output, the rest is queued for the programs that read the terminal, and the
received bytes are echoed.  Bytes programs write are *transmitted*: with output
processing on, a line feed goes out as carriage return and line feed and the cursor
column is followed so that a tab can be erased by the right number of backspaces.

In canonical mode input is read a line at a time: a read returns at most one line,
a line ends with a line feed, an end-of-line character or the end-of-file character,
and the end-of-file character itself is never read (alone on a line it makes a read
return nothing).  Otherwise every queued byte can be read at once.

Echoes are collected while a chunk of input is received and written out at its end,
or as soon as 256 bytes of them are pending.  A signal character discards the pending
echoes together with the queued input, so a chunk that ends in an interrupt character
echoes only `^C`.

Bytes are classed as the kernel does for the Latin-1 range: control characters are
0 to 31 and 127 (128 to 159 are not, so the continuation bytes of UTF-8 text echo as
they are); letters are the ASCII ones and 192 to 255 but 215 and 247.
-/

namespace PseudoTerm.Terminal

/-- Whether a byte is a control character. -/
def isControl (c : UInt8) : Bool := c < 32 || c == 127

/-- Whether a byte is a letter or digit, for word erase. -/
def isAlnum (c : UInt8) : Bool :=
  (48 ≤ c && c ≤ 57) || (65 ≤ c && c ≤ 90) || (97 ≤ c && c ≤ 122) ||
  (192 ≤ c && c != 215 && c != 247)

/-- A letter in upper case, for the case-converting modes. -/
def upperByte (c : UInt8) : UInt8 :=
  if (97 ≤ c && c ≤ 122) || (224 ≤ c && c ≤ 254 && c != 247) then c - 32 else c

/-- A letter in lower case, for the case-converting modes. -/
def lowerByte (c : UInt8) : UInt8 :=
  if (65 ≤ c && c ≤ 90) || (192 ≤ c && c ≤ 222 && c != 215) then c + 32 else c

/-- One pending echo: a byte to write through output processing, a control character
shown as `^X`, the byte 255, the backspaces erasing a tab, or a change of the
remembered columns. -/
inductive Echo where
  | byte (c : UInt8)
  | control (c : UInt8)
  | mark
  | eraseTab (columns : Nat) (afterTab : Bool)
  | setCanonColumn
  | moveBack
  deriving DecidableEq, Repr, Inhabited

/-- The room one echo takes in the echo buffer. -/
def Echo.size : Echo → Nat
  | .byte _ => 1
  | .control _ => 2
  | .mark => 2
  | .eraseTab _ _ => 3
  | .setCanonColumn => 2
  | .moveBack => 2

/-- The state of a line discipline. -/
structure Line where
  settings : Settings := .initial
  /-- Received input not yet read, oldest first. -/
  queue : ByteArray := .empty
  /-- Positions in `queue` of the bytes that end lines. -/
  terminators : List Nat := []
  /-- The end of the completed lines in `queue`; after it is the line being edited. -/
  canonEnd : Nat := 0
  /-- Echoes not yet written. -/
  echoes : Array Echo := #[]
  /-- The room the pending echoes take. -/
  echoRoom : Nat := 0
  /-- Bytes written towards the other side, not yet read there. -/
  output : ByteArray := .empty
  /-- The cursor column. -/
  column : Nat := 0
  /-- The column where the line being edited started. -/
  canonColumn : Nat := 0
  /-- The next byte is taken literally. -/
  literalNext : Bool := false
  /-- Erased characters are being shown between backslash and slash. -/
  erasing : Bool := false
  /-- Output is stopped by the stop character. -/
  stopped : Bool := false
  deriving Inhabited

namespace Line

/-- A line discipline with the given settings and nothing queued. -/
def fresh (s : Settings) : Line := { settings := s }

/-- Whether a byte continues a UTF-8 sequence, when the terminal reads UTF-8. -/
def continues (l : Line) (c : UInt8) : Bool := l.settings.iutf8 && (c &&& 0xC0) == 0x80

/-- Write one byte through output processing. -/
def emit (l : Line) (c : UInt8) : Line :=
  let s := l.settings
  if c == 10 then
    let l := if s.onlret then { l with column := 0 } else l
    if s.onlcr then { l with column := 0, canonColumn := 0, output := (l.output.push 13).push 10 }
    else { l with canonColumn := l.column, output := l.output.push 10 }
  else if c == 13 then
    if s.onocr && l.column == 0 then l
    else if s.ocrnl then
      let l := if s.onlret then { l with column := 0, canonColumn := 0 } else l
      { l with output := l.output.push 10 }
    else { l with column := 0, canonColumn := 0, output := l.output.push 13 }
  else if c == 9 then
    let spaces := 8 - l.column % 8
    if s.xtabs then
      { l with column := l.column + spaces,
               output := l.output ++ ⟨Array.replicate spaces 32⟩ }
    else { l with column := l.column + spaces, output := l.output.push 9 }
  else if c == 8 then { l with column := l.column - 1, output := l.output.push 8 }
  else if !isControl c then
    let c := if s.olcuc then upperByte c else c
    let column := if l.continues c then l.column else l.column + 1
    { l with column, output := l.output.push c }
  else { l with output := l.output.push c }

/-- Write bytes a program wrote to the terminal. -/
def transmit (l : Line) (data : ByteArray) : Line :=
  if l.settings.opost then data.foldl emit l
  else { l with output := l.output ++ data }

/-- Write out one echo. -/
def playEcho (l : Line) : Echo → Line
  | .byte c =>
    if l.settings.opost then l.emit c else { l with output := l.output.push c }
  | .control c =>
    { l with output := (l.output.push 94).push (c ^^^ 0x40), column := l.column + 2 }
  | .mark => { l with output := l.output.push 255, column := l.column + 1 }
  | .eraseTab columns afterTab =>
    let counted := if afterTab then columns else columns + l.canonColumn
    let back := 8 - counted % 8
    (List.replicate back ()).foldl
      (fun l _ => { l with output := l.output.push 8, column := l.column - 1 }) l
  | .setCanonColumn => { l with canonColumn := l.column }
  | .moveBack => { l with column := l.column - 1 }

/-- Write out every pending echo. -/
def flushEchoes (l : Line) : Line :=
  let l' := l.echoes.foldl playEcho l
  { l' with echoes := #[], echoRoom := 0 }

/-- Add an echo to the pending ones. -/
def addEcho (l : Line) (e : Echo) : Line :=
  { l with echoes := l.echoes.push e, echoRoom := l.echoRoom + e.size }

/-- Echo a byte as typed: control characters other than tab as `^X` when asked. -/
def echoChar (l : Line) (c : UInt8) : Line :=
  if c == 255 then l.addEcho .mark
  else if l.settings.echoctl && isControl c && c != 9 then l.addEcho (.control c)
  else l.addEcho (.byte c)

/-- Echo a byte through output processing, whatever it is. -/
def echoRaw (l : Line) (c : UInt8) : Line :=
  if c == 255 then l.addEcho .mark else l.addEcho (.byte c)

/-- Write the pending echoes out once a whole block of them has gathered. -/
def commit (l : Line) : Line :=
  if l.echoRoom ≥ 256 && l.echoRoom % 256 == 0 then l.flushEchoes else l

/-- Close a run of erased characters shown between backslash and slash. -/
def finishErasing (l : Line) : Line :=
  if l.erasing then { l.echoRaw 47 with erasing := false } else l

/-- Whether nothing of the current line has been typed yet. -/
def lineEmpty (l : Line) : Bool := l.queue.size == l.canonEnd

/-- Remember the column where a line starts, before its first byte is echoed. -/
def markLineStart (l : Line) : Line :=
  if l.lineEmpty then l.addEcho .setCanonColumn else l

/-- Queue one input byte. -/
def enqueue (l : Line) (c : UInt8) : Line := { l with queue := l.queue.push c }

/-- Queue a byte that ends a line; the end-of-file character is queued as zero. -/
def endLine (l : Line) (c : UInt8) : Line :=
  { l with terminators := l.terminators ++ [l.queue.size], queue := l.queue.push c,
           canonEnd := l.queue.size + 1 }

/-- Receive an ordinary byte: echo it and queue it. -/
def ordinary (l : Line) (c : UInt8) : Line :=
  let s := l.settings
  let l := if l.stopped && s.ixon && s.ixany then { l with stopped := false } else l
  let l := if s.echo then (l.finishErasing.markLineStart.echoChar c).commit else l
  let l := if c == 255 && s.parmrk then l.enqueue c else l
  l.enqueue c

/-- Receive a signal character: unless told not to, drop queued input and pending
echoes, then echo the character. -/
def interrupt (l : Line) (c : UInt8) : Line :=
  let s := l.settings
  let l := if s.noflsh then l
    else { l with echoes := #[], echoRoom := 0, queue := .empty, terminators := [],
                  canonEnd := 0, erasing := false }
  let l := if s.ixon then { l with stopped := false } else l
  if s.echo then (l.echoChar c).commit else l.flushEchoes

/-- How an erasing character erases. -/
inductive EraseKind where
  | char
  | word
  | line
  deriving DecidableEq

/-- The columns that the characters before a tab take on the line, and whether a
tab comes before them on the line. -/
def tabColumns (l : Line) (upTo : Nat) : Nat × Bool :=
  go upTo 0
where
  /-- Walk back from position `i`. -/
  go : Nat → Nat → Nat × Bool
    | i, n =>
      if h : l.canonEnd < i then
        let c := l.queue.get! (i - 1)
        if c == 9 then (n, true)
        else if isControl c then go (i - 1) (if l.settings.echoctl then n + 2 else n)
        else if l.continues c then go (i - 1) n
        else go (i - 1) (n + 1)
      else (n, false)
  termination_by i => i

/-- The echoes of erasing the byte `c` that stood at position `head`, `count` bytes
long. -/
def eraseEcho (l : Line) (kind : EraseKind) (c : UInt8) (head count : Nat) : Line :=
  let s := l.settings
  if s.echoprt then
    let l := if l.erasing then l else { l.echoRaw 92 with erasing := true }
    let l := l.echoChar c
    (List.range (count - 1)).foldl
      (fun l k => (l.echoRaw (l.queue.get! (head + 1 + k))).addEcho .moveBack) l
  else if kind == .char && !s.echoe then l.echoChar s.controls.erase
  else if c == 9 then
    let (n, afterTab) := l.tabColumns head
    l.addEcho (.eraseTab (n % 8) afterTab)
  else
    let rub (l : Line) : Line := ((l.echoRaw 8).echoRaw 32).echoRaw 8
    let l := if isControl c && s.echoctl then rub l else l
    if !isControl c || s.echoctl then rub l else l

/-- Erase backwards from the end of the line being edited. -/
def eraseLoop (kind : EraseKind) : Nat → Nat → Line → Line
  | 0, _, l => l
  | fuel + 1, seen, l =>
    if l.queue.size ≤ l.canonEnd then l
    else
      -- step back over one character, whole when the terminal reads UTF-8
      let rec back : Nat → Nat → Nat
        | 0, h => h
        | k + 1, h =>
          let h := h - 1
          if l.continues (l.queue.get! h) && l.canonEnd < h then back k h else h
      let head := back (l.queue.size - l.canonEnd) l.queue.size
      let c := l.queue.get! head
      if l.continues c then l
      else
        let isWord := isAlnum c || c == 95
        if kind == .word && !isWord && seen > 0 then l
        else
          let seen := if kind == .word && isWord then seen + 1 else seen
          let count := l.queue.size - head
          let erased := { l with queue := l.queue.extract 0 head }
          let l := if l.settings.echo then (erased.eraseEcho kind c head count) else erased
          if kind == .char then l else eraseLoop kind fuel seen l

/-- Receive an erasing character: erase, word erase or kill. -/
def eraser (l : Line) (c : UInt8) : Line :=
  let s := l.settings
  if l.lineEmpty then l
  else
    let kind : EraseKind :=
      if c == s.controls.erase then .char else if c == s.controls.werase then .word else .line
    let cut (l : Line) : Line := { l with queue := l.queue.extract 0 l.canonEnd }
    if kind == .line && !s.echo then cut l
    else if kind == .line && (!s.echok || !s.echoke || !s.echoe) then
      let l := ((cut l).finishErasing).echoChar s.controls.kill
      if s.echok then l.echoRaw 10 else l
    else
      let l := eraseLoop kind (l.queue.size - l.canonEnd) 0 l
      if l.lineEmpty && s.echo then l.finishErasing else l

/-- Whether a byte has a meaning of its own under the settings. -/
def isSpecial (s : Settings) (c : UInt8) : Bool :=
  let k := s.controls
  c != 0 && (
    ((s.igncr || s.icrnl) && c == 13) || (s.inlcr && c == 10) ||
    (s.icanon && (c == k.erase || c == k.kill || c == k.eof || c == 10 || c == k.eol ||
      (s.iexten && (c == k.werase || c == k.lnext || c == k.eol2 ||
        (s.echo && c == k.reprint))))) ||
    (s.ixon && (c == k.start || c == k.stop)) ||
    (s.isig && (c == k.intr || c == k.quit || c == k.susp)))

/-- The signal a signal character sends. -/
def signalOf (s : Settings) (c : UInt8) : Option Nat :=
  if !s.isig then none
  else if c == s.controls.intr then some 2
  else if c == s.controls.quit then some 3
  else if c == s.controls.susp then some 20
  else none

/-- Receive a byte, after stripping and case folding, that is not a signal or
flow-control character. -/
def plainSpecial (l : Line) (c : UInt8) : Line :=
  let s := l.settings
  let k := s.controls
  let l := if l.stopped && s.ixon && s.ixany then { l with stopped := false } else l
  let mapped : Option UInt8 :=
    if c == 13 then (if s.igncr then none else if s.icrnl then some 10 else some 13)
    else if c == 10 && s.inlcr then some 13 else some c
  match mapped with
  | none => l
  | some c =>
    let default (l : Line) : Line :=
      let l := if s.echo then
          let l := l.finishErasing
          (if c == 10 then l.echoRaw 10 else l.markLineStart.echoChar c).commit
        else l
      let l := if c == 255 && s.parmrk then l.enqueue c else l
      l.enqueue c
    if s.icanon then
      if c == k.erase || c == k.kill || (c == k.werase && s.iexten) then (l.eraser c).commit
      else if c == k.lnext && s.iexten then
        let l := { l with literalNext := true }
        if s.echo then
          let l := l.finishErasing
          if s.echoctl then ((l.echoRaw 94).echoRaw 8).commit else l
        else l
      else if c == k.reprint && s.echo && s.iexten then
        let l := (l.finishErasing.echoChar c).echoRaw 10
        let typed := (l.queue.extract l.canonEnd l.queue.size).toList
        (typed.foldl echoChar l).commit
      else if c == 10 then
        let l := if s.echo || s.echonl then (l.echoRaw 10).commit else l
        l.endLine 10
      else if c == k.eof then l.endLine 0
      else if c == k.eol || (c == k.eol2 && s.iexten) then
        let l := if s.echo then (l.markLineStart.echoChar c).commit else l
        let l := if c == 255 && s.parmrk then l.enqueue c else l
        l.endLine c
      else default l
    else default l

/-- Receive one byte; the answer names the signal it sends, if any. -/
def receiveByte (l : Line) (c0 : UInt8) : Line × Option Nat :=
  let s := l.settings
  let c := if s.istrip then c0 &&& 0x7F else c0
  let c := if s.iuclc && s.iexten then lowerByte c else c
  if l.literalNext then ({ l with literalNext := false }.ordinary c, none)
  else if !isSpecial s c then (l.ordinary c, none)
  else if s.ixon && (c == s.controls.start || c == s.controls.stop) then
    if c == s.controls.start then ({ l with stopped := false }, none)
    else ({ l with stopped := true }, none)
  else match signalOf s c with
    | some sig => (l.interrupt c, some sig)
    | none => (l.plainSpecial c, none)

/-- Receive a chunk of typed bytes, echoing at its end; the answer lists the signals
the chunk sends, in order. -/
def receive (l : Line) (data : ByteArray) : Line × List Nat :=
  if !l.settings.processesInput then ({ l with queue := l.queue ++ data }, [])
  else
    let (l, signals) := data.foldl (fun (acc : Line × List Nat) c =>
      let (l, sig) := acc.1.receiveByte c
      (l, match sig with | some n => acc.2 ++ [n] | none => acc.2)) (l, [])
    let s := l.settings
    (if s.echo || s.echonl then l.flushEchoes else l, signals)

/-- Whether a read asking for `wanted` bytes can return now. -/
def inputReady (l : Line) (wanted : Nat) : Bool :=
  if l.settings.icanon then l.canonEnd > 0
  else
    let least := l.settings.controls.min.toNat
    least == 0 || l.queue.size ≥ min least (max wanted 1)

/-- Drop the first `k` queued bytes. -/
def consume (l : Line) (k : Nat) : Line :=
  { l with queue := l.queue.extract k l.queue.size,
           terminators := (l.terminators.filter (k ≤ ·)).map (· - k),
           canonEnd := l.canonEnd - k }

/-- Read at most `wanted` bytes of input: in canonical mode at most one line, without
its end-of-file character. -/
def takeInput (l : Line) (wanted : Nat) : ByteArray × Line :=
  if l.settings.icanon then
    let n := min wanted l.canonEnd
    match l.terminators.head? with
    | some t =>
      if t < n then
        let copied := if l.queue.get! t == 0 then t else t + 1
        (l.queue.extract 0 copied, l.consume (t + 1))
      else (l.queue.extract 0 n, l.consume n)
    | none => (l.queue.extract 0 n, l.consume n)
  else
    let n := min wanted l.queue.size
    (l.queue.extract 0 n, l.consume n)

/-- Read at most `wanted` bytes of what was written towards the other side. -/
def takeOutput (l : Line) (wanted : Nat) : ByteArray × Line :=
  let n := min wanted l.output.size
  (l.output.extract 0 n, { l with output := l.output.extract n l.output.size })

/-- Change the settings, as a pseudo terminal keeps them.  Entering or leaving canonical mode turns the queued input
into one completed line, or into plain bytes. -/
def configure (l : Line) (s : Settings) : Line :=
  let s := s.onPseudoTerminal
  let old := l.settings
  let l := { l with settings := s }
  if old.icanon != s.icanon then
    let l := { l with erasing := false, literalNext := false }
    if !s.icanon || l.queue.size == 0 then { l with terminators := [], canonEnd := 0 }
    else { l with terminators := [l.queue.size - 1], canonEnd := l.queue.size }
  else l

end Line

end PseudoTerm.Terminal
