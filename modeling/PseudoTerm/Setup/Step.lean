/-!
# Steps of setting up a pseudo terminal

Allocating a pseudo terminal runs five steps (open the parent side, grant and unlock the
child device, find its name, open it) and starting a program on it runs five more
(duplicate the standard streams, create a session, take the controlling terminal, start
the program, register the parent side for readiness events).  A failure names its step.

Allocation steps are counted from zero as signed numbers; spawn steps are counted from
one and travel as a single byte, so any byte value can occur and only `1 … 5` are valid.
-/

namespace PseudoTerm

/-- An allocation step, numbered from zero: open, grant, unlock, child-name, open-child. -/
structure AllocStep where
  index : Int
  deriving DecidableEq, Repr, Inhabited

namespace AllocStep

def openParent : AllocStep := ⟨0⟩
def grant : AllocStep := ⟨1⟩
def unlock : AllocStep := ⟨2⟩
def childName : AllocStep := ⟨3⟩
def openChild : AllocStep := ⟨4⟩

/-- The name of a known step, or `AllocateStep(n)` for any other number. -/
def name (s : AllocStep) : String :=
  match s.index with
  | 0 => "open"
  | 1 => "grant"
  | 2 => "unlock"
  | 3 => "child-name"
  | 4 => "open-child"
  | n => s!"AllocateStep({n})"

end AllocStep

/-- A spawn step as one byte: 1 duplicate-stdio, 2 create-session,
3 set-controlling-terminal, 4 spawn, 5 register. -/
structure SpawnStep where
  byte : UInt8
  deriving DecidableEq, Repr, Inhabited

namespace SpawnStep

def duplicateStdio : SpawnStep := ⟨1⟩
def createSession : SpawnStep := ⟨2⟩
def setControllingTerminal : SpawnStep := ⟨3⟩
def startProgram : SpawnStep := ⟨4⟩
def register : SpawnStep := ⟨5⟩

/-- A step is valid when its byte is one of the five named steps. -/
def valid (s : SpawnStep) : Bool := 1 ≤ s.byte && s.byte ≤ 5

/-- The name of a valid step, or `SpawnStep(n)` for any other byte. -/
def name (s : SpawnStep) : String :=
  match s.byte.toNat with
  | 1 => "duplicate-stdio"
  | 2 => "create-session"
  | 3 => "set-controlling-terminal"
  | 4 => "spawn"
  | 5 => "register"
  | n => s!"SpawnStep({n})"

/-- A step read back from a status record: an invalid byte counts as starting the program. -/
def normalize (s : SpawnStep) : SpawnStep := if s.valid then s else startProgram

end SpawnStep

end PseudoTerm
