import PseudoTerm.Fault
import PseudoTerm.Text.Hex

/-!
# Status records of the setup helper

A helper process that sets up a session reports a failing step to its parent as a
five-byte record: the step byte, then the error number as a big-endian 32-bit word.  A
cause without an error number is reported as `EINVAL`; a wider error number keeps its
low 32 bits.  Reading a record back turns an invalid step byte into the step of starting
the program.
-/

namespace PseudoTerm

/-- A helper status record: the failing step and its error number. -/
structure StatusRecord where
  step : SpawnStep
  code : UInt32
  deriving DecidableEq, Repr, Inhabited

namespace StatusRecord

/-- The length of a record in bytes. -/
def length : Nat := 5

/-- The error number reported for a cause: its first error number, or `EINVAL`. -/
def reportedErrno (cause : Fault) : Errno := cause.errno?.getD Errno.einval

/-- The record written for a step that failed with `cause`. -/
def ofFailure (step : SpawnStep) (cause : Fault) : StatusRecord :=
  ⟨step, (reportedErrno cause).code.toUInt32⟩

/-- The five bytes of a record. -/
def bytes (r : StatusRecord) : List UInt8 :=
  let w := r.code.toNat
  [r.step.byte, (w / Nat.pow 2 24 % 256).toUInt8, (w / Nat.pow 2 16 % 256).toUInt8,
    (w / Nat.pow 2 8 % 256).toUInt8, (w % 256).toUInt8]

/-- The record held by exactly five bytes. -/
def ofBytes? : List UInt8 → Option StatusRecord
  | [s, b3, b2, b1, b0] =>
    some ⟨⟨s⟩, (b3.toNat * Nat.pow 2 24 + b2.toNat * Nat.pow 2 16 + b1.toNat * Nat.pow 2 8 + b0.toNat).toUInt32⟩
  | _ => none

/-- The fault a parent reports for a record it read. -/
def toFault (r : StatusRecord) : Fault :=
  .spawn r.step.normalize (.errno ⟨r.code.toNat⟩)

/-- The record as ten lowercase hexadecimal digits. -/
def hex (r : StatusRecord) : String := Text.hexOfBytes r.bytes

end StatusRecord

end PseudoTerm
