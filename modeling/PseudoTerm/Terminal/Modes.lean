import PseudoTerm.Terminal.Settings

/-!
# Named terminal modes

Every mode a terminal setting program can name: its word, the bits it sets and the
field of bits it occupies (a plain mode is one bit; the character size and the output
delays are fields with several values), whether it can be turned off with a leading `-`,
whether it is shown in listings, and its value in the sane settings.  The special
characters have names and slots, the speeds their codes.

A listing writes items separated by blanks and starts a new line before an item that
would pass the given width.
-/

namespace PseudoTerm.Terminal

/-- A named mode. -/
structure ModeEntry where
  name : String
  word : ModeWord
  /-- A leading `-` turns it off. -/
  reversible : Bool := true
  /-- It appears in listings. -/
  shown : Bool := true
  /-- Its value in the sane settings: on, off, or left alone. -/
  sane : Option Bool := none
  bits : UInt32
  /-- The field of bits it occupies, when wider than its own bits. -/
  mask : UInt32 := 0
  deriving Repr

namespace ModeEntry

/-- The bits a mode is compared on. -/
def field (m : ModeEntry) : UInt32 := if m.mask == 0 then m.bits else m.mask

/-- Whether a mode holds in the settings. -/
def holds (m : ModeEntry) (s : Settings) : Bool := s.word m.word &&& m.field == m.bits

/-- Turn a mode on, or off when `off`. -/
def apply (m : ModeEntry) (s : Settings) (off : Bool) : Settings :=
  let w := s.word m.word
  s.setWord m.word (if off then w &&& ~~~m.mask &&& ~~~m.bits else (w &&& ~~~m.mask) ||| m.bits)

end ModeEntry

/-- A plain one-bit mode. -/
def plainMode (name : String) (word : ModeWord) (bits : UInt32) (sane : Option Bool := none) : ModeEntry :=
  { name, word, bits, sane }

/-- A value of a field of bits. -/
def fieldMode (name : String) (word : ModeWord) (bits mask : UInt32) (sane : Bool) : ModeEntry :=
  { name, word, reversible := false, bits, mask, sane := some sane }

/-- A character size: a value of the size field, never named in the sane settings. -/
def sizeMode (name : String) (bits : UInt32) : ModeEntry :=
  { name, word := .control, reversible := false, bits, mask := 0x30 }

/-- Another name of a one-bit mode, not shown in listings. -/
def aliasMode (name : String) (word : ModeWord) (bits : UInt32) : ModeEntry :=
  { name, word, shown := false, bits }

/-- The named modes, in listing order. -/
def modeTable : List ModeEntry :=
  [ plainMode "parenb" .control 0x100, plainMode "parodd" .control 0x200,
    plainMode "cmspar" .control 0x40000000,
    sizeMode "cs5" 0x0, sizeMode "cs6" 0x10, sizeMode "cs7" 0x20, sizeMode "cs8" 0x30,
    plainMode "hupcl" .control 0x400, aliasMode "hup" .control 0x400,
    plainMode "cstopb" .control 0x40, plainMode "cread" .control 0x80 (some true),
    plainMode "clocal" .control 0x800, plainMode "crtscts" .control 0x80000000,
    plainMode "ignbrk" .input 0x1 (some false), plainMode "brkint" .input 0x2 (some true),
    plainMode "ignpar" .input 0x4, plainMode "parmrk" .input 0x8, plainMode "inpck" .input 0x10,
    plainMode "istrip" .input 0x20, plainMode "inlcr" .input 0x40 (some false),
    plainMode "igncr" .input 0x80 (some false), plainMode "icrnl" .input 0x100 (some true),
    plainMode "ixon" .input 0x400, plainMode "ixoff" .input 0x1000 (some false),
    aliasMode "tandem" .input 0x1000, plainMode "iuclc" .input 0x200 (some false),
    plainMode "ixany" .input 0x800 (some false), plainMode "imaxbel" .input 0x2000 (some true),
    plainMode "iutf8" .input 0x4000 (some false),
    plainMode "opost" .output 0x1 (some true), plainMode "olcuc" .output 0x2 (some false),
    plainMode "ocrnl" .output 0x8 (some false), plainMode "onlcr" .output 0x4 (some true),
    plainMode "onocr" .output 0x10 (some false), plainMode "onlret" .output 0x20 (some false),
    plainMode "ofill" .output 0x40 (some false), plainMode "ofdel" .output 0x80 (some false),
    fieldMode "nl1" .output 0x100 0x100 false, fieldMode "nl0" .output 0x0 0x100 true,
    fieldMode "cr3" .output 0x600 0x600 false, fieldMode "cr2" .output 0x400 0x600 false,
    fieldMode "cr1" .output 0x200 0x600 false, fieldMode "cr0" .output 0x0 0x600 true,
    fieldMode "tab3" .output 0x1800 0x1800 false, fieldMode "tab2" .output 0x1000 0x1800 false,
    fieldMode "tab1" .output 0x800 0x1800 false, fieldMode "tab0" .output 0x0 0x1800 true,
    fieldMode "bs1" .output 0x2000 0x2000 false, fieldMode "bs0" .output 0x0 0x2000 true,
    fieldMode "vt1" .output 0x4000 0x4000 false, fieldMode "vt0" .output 0x0 0x4000 true,
    fieldMode "ff1" .output 0x8000 0x8000 false, fieldMode "ff0" .output 0x0 0x8000 true,
    plainMode "isig" .lineModes 0x1 (some true), plainMode "icanon" .lineModes 0x2 (some true),
    plainMode "iexten" .lineModes 0x8000 (some true), plainMode "echo" .lineModes 0x8 (some true),
    plainMode "echoe" .lineModes 0x10 (some true), aliasMode "crterase" .lineModes 0x10,
    plainMode "echok" .lineModes 0x20 (some true), plainMode "echonl" .lineModes 0x40 (some false),
    plainMode "noflsh" .lineModes 0x80 (some false), plainMode "xcase" .lineModes 0x4 (some false),
    plainMode "tostop" .lineModes 0x100 (some false), plainMode "echoprt" .lineModes 0x400 (some false),
    aliasMode "prterase" .lineModes 0x400, plainMode "echoctl" .lineModes 0x200 (some true),
    aliasMode "ctlecho" .lineModes 0x200, plainMode "echoke" .lineModes 0x800 (some true),
    aliasMode "crtkill" .lineModes 0x800, plainMode "flusho" .lineModes 0x1000 (some false),
    plainMode "extproc" .lineModes 0x10000 (some false) ]

/-- The modes that stand for several changes at once, and whether each can be turned off
with a leading `-`. -/
def combinationModes : List (String × Bool) :=
  [("evenp", true), ("parity", true), ("oddp", true), ("nl", true), ("ek", false), ("sane", false),
   ("cooked", true), ("raw", true), ("pass8", true), ("litout", true), ("cbreak", true),
   ("decctlq", true), ("tabs", true), ("lcase", true), ("LCASE", true), ("crt", false),
   ("dec", false)]

/-- The special characters by name: their slot and their sane value. -/
def controlTable : List (String × Nat × UInt8) :=
  [("intr", 0, 3), ("quit", 1, 28), ("erase", 2, 127), ("kill", 3, 21), ("eof", 4, 4),
   ("eol", 11, 0), ("eol2", 16, 0), ("swtch", 7, 0), ("start", 8, 17), ("stop", 9, 19),
   ("susp", 10, 26), ("rprnt", 12, 18), ("werase", 14, 23), ("lnext", 15, 22),
   ("discard", 13, 15), ("min", 6, 1), ("time", 5, 0)]

/-- The line speeds and their codes in the control word. -/
def speedTable : List (Nat × UInt32) :=
  [(0, 0), (50, 1), (75, 2), (110, 3), (134, 4), (150, 5), (200, 6), (300, 7), (600, 8),
   (1200, 9), (1800, 10), (2400, 11), (4800, 12), (9600, 13), (19200, 14), (38400, 15),
   (57600, 0x1001), (115200, 0x1002), (230400, 0x1003), (460800, 0x1004), (500000, 0x1005),
   (576000, 0x1006), (921600, 0x1007), (1000000, 0x1008), (1152000, 0x1009),
   (1500000, 0x100a), (2000000, 0x100b), (2500000, 0x100c), (3000000, 0x100d),
   (3500000, 0x100e), (4000000, 0x100f)]

/-- The bits of the speed code in the control word. -/
def speedMask : UInt32 := 0x100f

namespace Settings

/-- The line speed in baud. -/
def speed (s : Settings) : Nat :=
  ((speedTable.find? fun (_, code) => code == s.controlFlags &&& speedMask).map (·.1)).getD 0

/-- Set the line speed by its code. -/
def withSpeed (s : Settings) (code : UInt32) : Settings :=
  { s with controlFlags := (s.controlFlags &&& ~~~speedMask) ||| code }

/-- The sane settings of the special characters and modes, keeping the rest. -/
def sane (s : Settings) : Settings :=
  let controls := controlTable.foldl (fun c (_, slot, v) => c.set slot v) s.controls
  let s := { s with controls }
  modeTable.foldl (fun s m =>
    match m.sane with
    | some true => m.apply s false
    | some false => m.apply s true
    | none => s) s

/-- Change the settings by a combination mode, turned off when `off`. -/
def combine (s : Settings) (name : String) (off : Bool) : Settings :=
  let c := s.controlFlags
  let i := s.inputFlags
  let o := s.outputFlags
  let l := s.localFlags
  match name with
  | "evenp" | "parity" =>
    if off then { s with controlFlags := (c &&& ~~~0x100 &&& ~~~0x30) ||| 0x30 }
    else { s with controlFlags := (c &&& ~~~0x200 &&& ~~~0x30) ||| 0x100 ||| 0x20 }
  | "oddp" =>
    if off then { s with controlFlags := (c &&& ~~~0x100 &&& ~~~0x30) ||| 0x30 }
    else { s with controlFlags := (c &&& ~~~0x30) ||| 0x20 ||| 0x200 ||| 0x100 }
  | "nl" =>
    if off then { s with inputFlags := (i ||| 0x100) &&& ~~~0x40 &&& ~~~0x80,
                         outputFlags := (o ||| 0x4) &&& ~~~0x8 &&& ~~~0x20 }
    else { s with inputFlags := i &&& ~~~0x100, outputFlags := o &&& ~~~0x4 }
  | "ek" => { s with controls := { s.controls with erase := 127, kill := 21 } }
  | "sane" => s.sane
  | "cbreak" => { s with localFlags := if off then l ||| 0x2 else l &&& ~~~0x2 }
  | "pass8" =>
    if off then { s with controlFlags := (c &&& ~~~0x30) ||| 0x20 ||| 0x100, inputFlags := i ||| 0x20 }
    else { s with controlFlags := (c &&& ~~~0x100 &&& ~~~0x30) ||| 0x30, inputFlags := i &&& ~~~0x20 }
  | "litout" =>
    if off then { s with controlFlags := (c &&& ~~~0x30) ||| 0x20 ||| 0x100, inputFlags := i ||| 0x20,
                         outputFlags := o ||| 0x1 }
    else { s with controlFlags := (c &&& ~~~0x100 &&& ~~~0x30) ||| 0x30, inputFlags := i &&& ~~~0x20,
                  outputFlags := o &&& ~~~0x1 }
  | "raw" | "cooked" =>
    if (name == "raw") == off then
      { s with inputFlags := i ||| 0x2 ||| 0x4 ||| 0x20 ||| 0x100 ||| 0x400, outputFlags := o ||| 0x1,
               localFlags := l ||| 0x1 ||| 0x2 }
    else
      { s with inputFlags := 0, outputFlags := o &&& ~~~0x1, localFlags := l &&& ~~~(0x1 ||| 0x2 ||| 0x4),
               controls := { s.controls with min := 1, time := 0 } }
  | "decctlq" => { s with inputFlags := if off then i ||| 0x800 else i &&& ~~~0x800 }
  | "tabs" => { s with outputFlags := (o &&& ~~~0x1800) ||| (if off then 0x1800 else 0) }
  | "lcase" | "LCASE" =>
    if off then { s with localFlags := l &&& ~~~0x4, inputFlags := i &&& ~~~0x200, outputFlags := o &&& ~~~0x2 }
    else { s with localFlags := l ||| 0x4, inputFlags := i ||| 0x200, outputFlags := o ||| 0x2 }
  | "crt" => { s with localFlags := l ||| 0x10 ||| 0x200 ||| 0x800 }
  | "dec" =>
    { s with controls := { s.controls with intr := 3, erase := 127, kill := 21 },
             localFlags := l ||| 0x10 ||| 0x200 ||| 0x800, inputFlags := i &&& ~~~0x800 }
  | _ => s

end Settings

/-- A special character as listings show it: `<undef>` when disabled, `^X` for a control
character, `^?` for delete, `M-` before characters with the eighth bit. -/
def visibleControl (c : UInt8) : String :=
  if c == 0 then "<undef>"
  else
    let n := c.toNat
    if n < 32 then "^" ++ String.singleton (Char.ofNat (n + 64))
    else if n < 127 then String.singleton (Char.ofNat n)
    else if n == 127 then "^?"
    else if n ≥ 160 then
      if n < 255 then "M-" ++ String.singleton (Char.ofNat (n - 128)) else "M-^?"
    else "M-^" ++ String.singleton (Char.ofNat (n - 128 + 64))

/-- Lines being filled with items up to a width. -/
structure Listing where
  width : Nat
  text : String := ""
  column : Nat := 0

namespace Listing

/-- Add an item counted as `n` columns, starting a new line first when it would pass the
width, else a blank when the line has items already. -/
def addCounted (l : Listing) (item : String) (n : Nat) : Listing :=
  if l.column > 0 then
    if l.width < l.column + n then { l with text := l.text ++ "\n" ++ item, column := n }
    else { l with text := l.text ++ " " ++ item, column := l.column + 1 + n }
  else { l with text := l.text ++ item, column := l.column + n }

/-- Add an item. -/
def add (l : Listing) (item : String) : Listing := l.addCounted item item.length

/-- Add an item that ends its line. -/
def addLast (l : Listing) (item : String) : Listing :=
  { l.addCounted (item ++ "\n") (item.length + 1) with column := 0 }

/-- End the current line. -/
def newline (l : Listing) : Listing := { l with text := l.text ++ "\n", column := 0 }

end Listing

/-- The line speed as listings show it. -/
def speedItem (s : Settings) : String := s!"speed {s.speed} baud;"

/-- The special characters shown by name, in listing order. -/
def namedControls : List (String × Nat × UInt8) :=
  controlTable.filter fun (name, _, _) => name != "min" && name != "time"

/-- The item of a special character. -/
def controlItem (s : Settings) (name : String) (slot : Nat) : String :=
  s!"{name} = {visibleControl (s.controls.get slot)};"

/-- The item of the counts of non-canonical reads. -/
def countsItem (s : Settings) : String :=
  s!"min = {s.controls.min.toNat}; time = {s.controls.time.toNat};"

/-- The listing of all settings, with the window size when known, for a width: speed,
size and line discipline; the special characters; then the modes, a line for each word,
a mode that is off shown with `-` when it can be turned off. -/
def listAll (s : Settings) (window : Option (Nat × Nat)) (width : Nat) : String :=
  let l : Listing := { width }
  let l := l.add (speedItem s)
  let l := match window with
    | some (rows, cols) => l.add s!"rows {rows}; columns {cols};"
    | none => l
  let l := (l.add "line = 0;").newline
  let l := namedControls.foldl (fun l (name, slot, _) => l.add (controlItem s name slot)) l
  let l := l.add (countsItem s)
  let l := if l.column != 0 then l.newline else l
  let (l, _) := (modeTable.filter (·.shown)).foldl (fun (l, prev) m =>
    let l := if m.word != prev then l.newline else l
    let l := if m.holds s then l.add m.name else if m.reversible then l.add ("-" ++ m.name) else l
    (l, m.word)) (l, ModeWord.control)
  l.newline.text

/-- The listing of the settings that differ from the sane ones: speed and line
discipline; the special characters that differ, with the read counts when input is not
canonical; then the modes that differ, a line for each word that has any. -/
def listChanged (s : Settings) (width : Nat) : String :=
  let l : Listing := { width }
  let l := ((l.add (speedItem s)).add "line = 0;").newline
  let changed := namedControls.filter fun (_, slot, sane) => s.controls.get slot != sane
  let l := changed.foldl (fun l (name, slot, _) => l.add (controlItem s name slot)) l
  let l := if !s.icanon then l.addLast (countsItem s)
    else if !changed.isEmpty then l.newline
    else l
  let (l, _, empty) := (modeTable.filter (·.shown)).foldl (fun (l, prev, empty) m =>
    let (l, empty) := if m.word != prev && !empty then (l.newline, true) else (l, empty)
    if m.holds s then
      if m.sane == some false then (l.add m.name, m.word, false) else (l, m.word, empty)
    else if m.sane == some true && m.reversible then (l.add ("-" ++ m.name), m.word, false)
    else (l, m.word, empty)) (l, ModeWord.control, true)
  (if empty then l else l.newline).text

/-- The settings as one line of hexadecimal numbers: the four mode words, then the
special characters of all slots, separated by colons. -/
def savedForm (s : Settings) : String :=
  let hex (n : Nat) : String := String.ofList (Nat.toDigits 16 n)
  let words := [s.inputFlags, s.outputFlags, s.controlFlags, s.localFlags].map fun w => hex w.toNat
  let chars := s.controls.toArray.toList.map fun c => hex c.toNat
  ":".intercalate (words ++ chars)

/-- Settings read back from their saved form: four words and a character for each slot. -/
def readSavedForm (text : String) : Option Settings :=
  let parts := text.splitOn ":"
  let value (p : String) : Option Nat :=
    if p.isEmpty then none
    else p.toList.foldlM (fun acc c =>
      let d := if c.isDigit then some (c.toNat - 48)
        else if 'a' ≤ c && c ≤ 'f' then some (c.toNat - 87)
        else if 'A' ≤ c && c ≤ 'F' then some (c.toNat - 55)
        else none
      d.map (acc * 16 + ·)) 0
  if parts.length != 4 + Controls.slots then none
  else do
    let values ← parts.mapM value
    let words := values.take 4
    let chars := values.drop 4
    if words.any (· ≥ Nat.pow 2 32) || chars.any (· ≥ 256) then none
    else
      some { inputFlags := (words.getD 0 0).toUInt32, outputFlags := (words.getD 1 0).toUInt32,
             controlFlags := (words.getD 2 0).toUInt32, localFlags := (words.getD 3 0).toUInt32,
             controls := Controls.ofArray (chars.map Nat.toUInt8).toArray }

end PseudoTerm.Terminal
