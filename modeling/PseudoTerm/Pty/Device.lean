import PseudoTerm.Fault
import PseudoTerm.Machine.Interface

/-!
# Terminal devices

The calls that make and size pseudo terminals.  Opening `/dev/ptmx` makes a new
terminal and answers its parent side, read-write, non-blocking, closed on exec and
never becoming the caller's controlling terminal.  The parent side knows the number of
its child device, `/dev/pts/N`, which opens (read-write, closed on exec, again without
becoming a controlling terminal) once the parent side has unlocked it.

Window sizes are set with each dimension saturated at 65535.  Every call on a
descriptor that is not a terminal fails with `ENOTTY`, and on a closed one with
`EBADF`; a failed open names the path.
-/

namespace PseudoTerm.Pty

open PseudoTerm.Machine PseudoTerm.Terminal

variable {μ : Type}

/-- The device that makes a new terminal. -/
def makerPath : String := "/dev/ptmx"

/-- The directory of the child devices. -/
def childDirectory : String := "/dev/pts/"

/-- The flags the parent side is opened with. -/
def parentFlags : OpenFlags :=
  { read := true, write := true, noControllingTerminal := true, nonBlocking := true, closeOnExec := true }

/-- The flags a child device is opened with. -/
def childFlags : OpenFlags :=
  { read := true, write := true, noControllingTerminal := true, closeOnExec := true }

/-- Make a new terminal; answers its parent side. -/
def openParent : Prog μ (Except Fault Nat) := do
  match ← Sys.openPath (μ := μ) makerPath parentFlags 0 with
  | .ok fd => pure (.ok fd)
  | .error e => pure (.error (.path "open" makerPath (.errno e)))

/-- Check that a descriptor is a terminal's parent side. -/
def grant (fd : Nat) : Prog μ (Except Fault Unit) := do
  match ← Sys.terminalNumber (μ := μ) fd with
  | .ok _ => pure (.ok ())
  | .error e => pure (.error (.errno e))

/-- Let the child device of a parent side be opened. -/
def unlock (fd : Nat) : Prog μ (Except Fault Unit) := do
  match ← Sys.setLock (μ := μ) fd false with
  | .ok () => pure (.ok ())
  | .error e => pure (.error (.errno e))

/-- The path of the child device of a parent side. -/
def childPathOf (fd : Nat) : Prog μ (Except Fault String) := do
  match ← Sys.terminalNumber (μ := μ) fd with
  | .ok n => pure (.ok (childDirectory ++ toString n))
  | .error e => pure (.error (.errno e))

/-- Open a child device. -/
def openChild (path : String) : Prog μ (Except Fault Nat) := do
  match ← Sys.openPath (μ := μ) path childFlags 0 with
  | .ok fd => pure (.ok fd)
  | .error e => pure (.error (.path "open" path (.errno e)))

/-- Set the window size of the terminal behind a descriptor, each dimension saturated. -/
def resizeDescriptor (fd cols rows : Nat) : Prog μ (Except Fault Unit) := do
  match ← Sys.setWindow (μ := μ) fd (Window.ofRequest cols rows) with
  | .ok () => pure (.ok ())
  | .error e => pure (.error (.errno e))

/-- The window size of the terminal behind a descriptor. -/
def sizeOfDescriptor (fd : Nat) : Prog μ (Except Fault Window) := do
  match ← Sys.windowOf (μ := μ) fd with
  | .ok w => pure (.ok w)
  | .error e => pure (.error (.errno e))

end PseudoTerm.Pty
