/-!
# Terminal settings

The settings of a terminal decide how its line discipline treats the bytes typed at it
and the bytes programs write to it: which characters are special (interrupt, erase,
end of file, …), whether input is edited a line at a time, whether it is echoed, and how
output is translated (a line feed written as carriage return and line feed).

They are kept as the system keeps them: four words of mode bits (input, output, control
and local modes) and the table of special characters.  Each mode has a bit, or for the
character size and the output delays a field of bits; the names below read them.

A fresh pseudo terminal reads carriage return as line feed and honours flow control on
input, translates line feeds on output, runs at 38400 baud with eight-bit characters
and the receiver on, and edits input a line at a time with echo, visual erase, control
characters echoed as `^X`, and signal characters.
-/

namespace PseudoTerm.Terminal

/-- The special characters of a terminal, and the counts of non-canonical reads.  A
character of value zero is disabled. -/
structure Controls where
  intr : UInt8 := 3
  quit : UInt8 := 28
  erase : UInt8 := 127
  kill : UInt8 := 21
  eof : UInt8 := 4
  time : UInt8 := 0
  min : UInt8 := 1
  swtch : UInt8 := 0
  start : UInt8 := 17
  stop : UInt8 := 19
  susp : UInt8 := 26
  eol : UInt8 := 0
  reprint : UInt8 := 18
  discard : UInt8 := 15
  werase : UInt8 := 23
  lnext : UInt8 := 22
  eol2 : UInt8 := 0
  deriving DecidableEq, Repr, Inhabited

namespace Controls

/-- The number of slots of the table of special characters. -/
def slots : Nat := 32

/-- The special characters by slot number; the slots past the seventeenth are zero. -/
def toArray (c : Controls) : Array UInt8 :=
  #[c.intr, c.quit, c.erase, c.kill, c.eof, c.time, c.min, c.swtch, c.start, c.stop, c.susp,
    c.eol, c.reprint, c.discard, c.werase, c.lnext, c.eol2] ++ Array.replicate 15 0

/-- The special characters of a table by slot number. -/
def ofArray (a : Array UInt8) : Controls :=
  { intr := a.getD 0 0, quit := a.getD 1 0, erase := a.getD 2 0, kill := a.getD 3 0,
    eof := a.getD 4 0, time := a.getD 5 0, min := a.getD 6 0, swtch := a.getD 7 0,
    start := a.getD 8 0, stop := a.getD 9 0, susp := a.getD 10 0, eol := a.getD 11 0,
    reprint := a.getD 12 0, discard := a.getD 13 0, werase := a.getD 14 0,
    lnext := a.getD 15 0, eol2 := a.getD 16 0 }

/-- The character in a slot. -/
def get (c : Controls) (slot : Nat) : UInt8 := c.toArray.getD slot 0

/-- Change the character in a slot. -/
def set (c : Controls) (slot : Nat) (v : UInt8) : Controls :=
  ofArray (c.toArray.setIfInBounds slot v)

end Controls

/-- The four words of mode bits. -/
inductive ModeWord where
  | input
  | output
  | control
  | lineModes
  deriving DecidableEq, Repr

/-- The modes of a terminal: four words of bits and the special characters. -/
structure Settings where
  /-- Input modes: carriage return as line feed, flow control, … -/
  inputFlags : UInt32 := 0x500
  /-- Output modes: output processing, line feed as carriage return and line feed, … -/
  outputFlags : UInt32 := 0x5
  /-- Control modes: speed, character size, receiver, parity, … -/
  controlFlags : UInt32 := 0xbf
  /-- Local modes: signals, canonical input, echo, … -/
  localFlags : UInt32 := 0x8a3b
  /-- The special characters. -/
  controls : Controls := {}
  deriving DecidableEq, Repr, Inhabited

namespace Settings

/-- A word of mode bits. -/
def word (s : Settings) : ModeWord → UInt32
  | .input => s.inputFlags
  | .output => s.outputFlags
  | .control => s.controlFlags
  | .lineModes => s.localFlags

/-- Replace a word of mode bits. -/
def setWord (s : Settings) : ModeWord → UInt32 → Settings
  | .input, v => { s with inputFlags := v }
  | .output, v => { s with outputFlags := v }
  | .control, v => { s with controlFlags := v }
  | .lineModes, v => { s with localFlags := v }

/-- Whether all of `bits` are set in an input word. -/
def inputHas (s : Settings) (bits : UInt32) : Bool := s.inputFlags &&& bits == bits
/-- Whether all of `bits` are set in the output word. -/
def outputHas (s : Settings) (bits : UInt32) : Bool := s.outputFlags &&& bits == bits
/-- Whether all of `bits` are set in the local word. -/
def localHas (s : Settings) (bits : UInt32) : Bool := s.localFlags &&& bits == bits

/-- Ignore a break condition. -/
def ignbrk (s : Settings) : Bool := s.inputHas 0x1
/-- A break interrupts. -/
def brkint (s : Settings) : Bool := s.inputHas 0x2
/-- Mark parity errors. -/
def parmrk (s : Settings) : Bool := s.inputHas 0x8
/-- Clear the eighth bit of input bytes. -/
def istrip (s : Settings) : Bool := s.inputHas 0x20
/-- Read a line feed as a carriage return. -/
def inlcr (s : Settings) : Bool := s.inputHas 0x40
/-- Drop carriage returns from input. -/
def igncr (s : Settings) : Bool := s.inputHas 0x80
/-- Read a carriage return as a line feed. -/
def icrnl (s : Settings) : Bool := s.inputHas 0x100
/-- Read upper case input as lower case. -/
def iuclc (s : Settings) : Bool := s.inputHas 0x200
/-- Start and stop characters control output. -/
def ixon (s : Settings) : Bool := s.inputHas 0x400
/-- Any character restarts stopped output. -/
def ixany (s : Settings) : Bool := s.inputHas 0x800
/-- Ring the bell when the input buffer is full. -/
def imaxbel (s : Settings) : Bool := s.inputHas 0x2000
/-- Input is UTF-8: erasing removes whole characters. -/
def iutf8 (s : Settings) : Bool := s.inputHas 0x4000

/-- Process output. -/
def opost (s : Settings) : Bool := s.outputHas 0x1
/-- Write lower case output as upper case. -/
def olcuc (s : Settings) : Bool := s.outputHas 0x2
/-- Write a line feed as carriage return and line feed. -/
def onlcr (s : Settings) : Bool := s.outputHas 0x4
/-- Write a carriage return as a line feed. -/
def ocrnl (s : Settings) : Bool := s.outputHas 0x8
/-- Write no carriage return at column zero. -/
def onocr (s : Settings) : Bool := s.outputHas 0x10
/-- A line feed also returns the carriage. -/
def onlret (s : Settings) : Bool := s.outputHas 0x20
/-- Write tabs as spaces: the tab delay field at its largest value. -/
def xtabs (s : Settings) : Bool := s.outputHas 0x1800

/-- Signal characters send signals. -/
def isig (s : Settings) : Bool := s.localHas 0x1
/-- Input is edited and read a line at a time. -/
def icanon (s : Settings) : Bool := s.localHas 0x2
/-- Echo input. -/
def echo (s : Settings) : Bool := s.localHas 0x8
/-- The erase character erases visibly. -/
def echoe (s : Settings) : Bool := s.localHas 0x10
/-- The kill character is followed by a line feed. -/
def echok (s : Settings) : Bool := s.localHas 0x20
/-- Echo line feeds even without echo. -/
def echonl (s : Settings) : Bool := s.localHas 0x40
/-- Signal characters do not flush the buffers. -/
def noflsh (s : Settings) : Bool := s.localHas 0x80
/-- Echo control characters as `^X`. -/
def echoctl (s : Settings) : Bool := s.localHas 0x200
/-- Echo erased characters between backslash and slash. -/
def echoprt (s : Settings) : Bool := s.localHas 0x400
/-- The kill character erases the line visibly. -/
def echoke (s : Settings) : Bool := s.localHas 0x800
/-- Extended input processing (word erase, literal next, reprint). -/
def iexten (s : Settings) : Bool := s.localHas 0x8000

/-- The settings of a fresh pseudo terminal's child side. -/
def initial : Settings := {}

/-- The settings of a pseudo terminal's parent side: nothing is processed. -/
def passThrough : Settings :=
  { inputFlags := 0, outputFlags := 0, localFlags := 0 }

/-- Raw mode: bytes pass one by one, unechoed and untranslated, and no character is
special; characters have eight bits and no parity. -/
def makeRaw (s : Settings) : Settings :=
  { s with inputFlags := s.inputFlags &&& ~~~(0x1 ||| 0x2 ||| 0x8 ||| 0x20 ||| 0x40 ||| 0x80 ||| 0x100 ||| 0x400),
           outputFlags := s.outputFlags &&& ~~~0x1,
           localFlags := s.localFlags &&& ~~~(0x8 ||| 0x40 ||| 0x2 ||| 0x1 ||| 0x8000),
           controlFlags := (s.controlFlags &&& ~~~(0x30 ||| 0x100)) ||| 0x30,
           controls := { s.controls with min := 1, time := 0 } }

/-- The settings as a pseudo terminal keeps them: its characters always have eight bits,
no parity, and the receiver on, whatever was asked. -/
def onPseudoTerminal (s : Settings) : Settings :=
  { s with controlFlags := (s.controlFlags &&& ~~~(0x30 ||| 0x100)) ||| 0x30 ||| 0x80 }

/-- Whether input bytes need any processing; when not, they are queued as they come. -/
def processesInput (s : Settings) : Bool :=
  s.istrip || s.iuclc || s.igncr || s.icrnl || s.inlcr || s.icanon || s.ixon || s.isig ||
  s.echo || s.parmrk

end Settings

end PseudoTerm.Terminal
