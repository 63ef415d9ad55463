import PseudoTerm.Programs.Common
import PseudoTerm.Programs.CommandLine
import PseudoTerm.Text.Mention

/-!
# A running utility

A standard utility keeps its output in a buffer: on a terminal the buffer is written at
the end of each line, elsewhere whenever it holds a whole block of 4096 bytes, and at the
end.  A message on the error output first writes out the buffered output, so the two
keep their order when they go to the same place.  A utility that could not write its
output says so at the end and fails.

Its messages start with the name it was called by.  A misused option is reported with a
pointer to the utility's help.
-/

namespace PseudoTerm.Programs

open PseudoTerm.Machine PseudoTerm.Text

/-- The state of a running utility. -/
structure ToolState where
  /-- The name it was called by. -/
  name : String
  /-- Output not yet written. -/
  pending : ByteArray := .empty
  /-- The output is a terminal, written a line at a time. -/
  lineOutput : Bool := false
  /-- The exit status so far. -/
  status : Nat := 0
  /-- Why writing the output failed, once it did. -/
  writeError : Option Errno := none

/-- The steps of a running utility. -/
abbrev Tool (μ : Type) := StateT ToolState (Prog μ)

namespace Tool

variable {μ : Type}

/-- The size of an output block. -/
def blockSize : Nat := 4096

/-- Write bytes of the output now, keeping the first error. -/
def writeOut (data : ByteArray) : Tool μ Unit := do
  if data.size == 0 || (← get).writeError.isSome then return
  let (_, err) ← Sys.writeAll (μ := μ) 1 data
  if let some e := err then modify fun s => { s with writeError := some e }

/-- Write all buffered output. -/
def flush : Tool μ Unit := do
  let data := (← get).pending
  modify fun s => { s with pending := .empty }
  writeOut data

/-- The length of the part of a buffer that is written at once: through the last line
feed on a terminal, else the whole blocks. -/
def readyLength (lineOutput : Bool) (pending : ByteArray) : Nat :=
  if lineOutput then
    match (List.range pending.size).reverse.find? (fun i => pending.get! i == 10) with
    | some i => i + 1
    | none => 0
  else pending.size / blockSize * blockSize

/-- Add bytes to the output. -/
def emit (data : ByteArray) : Tool μ Unit := do
  let s ← get
  let pending := s.pending ++ data
  let n := readyLength s.lineOutput pending
  set { s with pending := pending.extract n pending.size }
  writeOut (pending.extract 0 n)

/-- Add text to the output. -/
def say (text : String) : Tool μ Unit := emit text.toUTF8

/-- Report a problem on the error output, after the buffered output. -/
def warn (msg : String) : Tool μ Unit := do
  flush
  Sys.print (μ := μ) 2 s!"{(← get).name}: {msg}\n"

/-- Report a problem and remember to fail with `code`. -/
def complain (msg : String) (code : Nat := 1) : Tool μ Unit := do
  warn msg
  modify fun s => { s with status := code }

/-- End, writing what is buffered; a failed write is reported and fails. -/
def finish {α : Type} : Tool μ α := do
  flush
  let s ← get
  match s.writeError with
  | some e =>
    Sys.print (μ := μ) 2 s!"{s.name}: write error: {e.sentence}\n"
    monadLift (Sys.exit (μ := μ) 1)
  | none => monadLift (Sys.exit (μ := μ) s.status)

/-- Report a problem and end with `code`. -/
def fail {α : Type} (msg : String) (code : Nat := 1) : Tool μ α := do
  complain msg code
  finish

/-- Report a misuse with the pointer to the help, and end with `code`. -/
def misuse {α : Type} (msg : String) (code : Nat := 1) : Tool μ α := do
  flush
  let name := (← get).name
  Sys.print (μ := μ) 2 s!"{name}: {msg}\nTry '{name} --help' for more information.\n"
  modify fun s => { s with status := code }
  finish

/-- Report a misuse when the command line has a problem. -/
def checkOptions (c : CommandLine) (code : Nat := 1) : Tool μ Unit := do
  if let some p := c.problem then misuse p.message code

/-- Open an input: `-` is the standard input. -/
def openInput (path : String) : Tool μ (Except Errno Nat) :=
  if path == "-" then pure (.ok 0) else Sys.openPath (μ := μ) path {}

/-- Close an input opened by `openInput`. -/
def closeInput (fd : Nat) : Tool μ Unit := do
  if fd != 0 then let _ ← Sys.close (μ := μ) fd

/-- Read all of an input. -/
def readAll (fd : Nat) : Tool μ (ByteArray × Option Errno) := Sys.readToEnd (μ := μ) fd

/-- Read an input a chunk at a time, of at most `size` bytes for the state at hand,
handing each chunk to `step` with the state, until the end of the input, a failed read,
or `step` answers that it is done; answers the state and the error of a failed read. -/
def eachChunk {σ : Type} (fd : Nat) (size : σ → Nat) (step : σ → ByteArray → Tool μ (σ × Bool)) :
    Nat → σ → Tool μ (σ × Option Errno)
  | 0, s => pure (s, none)
  | fuel + 1, s => do
    match ← Sys.read (μ := μ) fd (size s) with
    | .error e => pure (s, some e)
    | .ok chunk =>
      if chunk.size == 0 then pure (s, none)
      else
        let (s, done) ← step s chunk
        if done then pure (s, none) else eachChunk fd size step fuel s

/-- Run a utility: its output on a terminal is written a line at a time. -/
def run (inv : Invocation) (body : Tool μ Unit) : Prog μ Unit := do
  let lineOutput := match ← Sys.settingsOf (μ := μ) 1 with
    | .ok _ => true
    | .error _ => false
  let (_, s) ← StateT.run (do body; finish (α := Unit)) { name := inv.args.headD "", lineOutput }
  Sys.exit s.status

end Tool

end PseudoTerm.Programs
