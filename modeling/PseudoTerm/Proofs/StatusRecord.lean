import Mathlib
import PseudoTerm.Setup.Status

namespace PseudoTerm

/-!
# Status records read back

The setup helper reports a failing step to its parent as five bytes: the step byte, then
the error number of the cause as a big-endian 32-bit word.  The parent reads the bytes
back as the fault of that step.

The format carries exactly what it promises.  Reading back the record written for a step
and a cause gives the step, or the step of starting the program for a byte that names no
step, together with the first error number met while unwrapping the cause (`EINVAL` when
the chain holds none), cut down to its low 32 bits.  In the other direction a record is
written back byte for byte exactly when its first byte names a step.
-/

namespace Fault

theorem sizeOf_lt_of_inner?
    {f cause : Fault}
    (unwrapped : f.inner? = some cause) :
    sizeOf cause < sizeOf f := by
  cases f <;> simp [inner?] at unwrapped <;> subst unwrapped <;> simp

/-- The layers of a chain, outermost first, as unwrapping meets them one after another. -/
def layers (f : Fault) : List Fault :=
  f :: match unwrapped : f.inner? with
    | some cause =>
      have := sizeOf_lt_of_inner? unwrapped
      cause.layers
    | none => []
termination_by sizeOf f

theorem layers_eq (f : Fault) :
    f.layers = f :: (f.inner?.map layers).getD [] := by
  rw [layers]
  split <;> simp_all

/-- The error number a layer is, as opposed to one it wraps. -/
def ownErrno? : Fault → Option Errno
  | errno e => some e
  | _ => none

/-- The error number of a chain is the first layer, from the outside in, that is an error
number: the one a search of the unwrap chain for an error number finds. -/
theorem errno?_eq_findSome?_layers (f : Fault) :
    f.errno? = f.layers.findSome? ownErrno? := by
  induction f <;> rw [layers_eq] <;>
    simp [errno?, inner?, ownErrno?, List.findSome?_cons, *]

end Fault

namespace SpawnStep

theorem normalize_byte_eq_iff (step : SpawnStep) :
    step.normalize.byte = step.byte ↔ 1 ≤ step.byte ∧ step.byte ≤ 5 := by
  by_cases named : 1 ≤ step.byte ∧ step.byte ≤ 5
  · simp [normalize, valid, named]
  · have unnamed : step.valid = false := by
      simpa [valid] using named
    simp only [normalize, unnamed, Bool.false_eq_true, ↓reduceIte, named, iff_false]
    intro same
    apply named
    rw [← same]
    decide

end SpawnStep

namespace StatusRecord

/-- The number that bytes spell, most significant byte first. -/
def bigEndianValue (bytes : List UInt8) : Nat :=
  bytes.foldl (fun value byte => value * 256 + byte.toNat) 0

/-- The bytes of a record: its step byte, then its error number most significant byte
first. -/
theorem bytes_layout (record : StatusRecord) :
    record.bytes.length = 5 ∧
    record.bytes.head? = some record.step.byte ∧
    bigEndianValue (record.bytes.drop 1) = record.code.toNat := by
  have bound := record.code.toNat_lt
  simp only [bytes, List.length_cons, List.length_nil, List.head?_cons, List.drop_succ_cons,
    List.drop_zero, bigEndianValue, List.foldl_cons, List.foldl_nil, true_and]
  simp
  omega

@[simp] theorem ofBytes?_bytes (record : StatusRecord) :
    ofBytes? record.bytes = some record := by
  obtain ⟨step, code⟩ := record
  have bound := code.toNat_lt
  simp only [bytes, ofBytes?, Option.some.injEq, mk.injEq, true_and]
  rw [← UInt32.toNat_inj]
  simp
  omega

theorem bytes_of_ofBytes?
    {raw : List UInt8}
    {record : StatusRecord}
    (decoded : ofBytes? raw = some record) :
    record.bytes = raw := by
  unfold ofBytes? at decoded
  split at decoded
  · rename_i s b₃ b₂ b₁ b₀
    simp only [Option.some.injEq] at decoded
    subst decoded
    have := b₃.toNat_lt
    have := b₂.toNat_lt
    have := b₁.toNat_lt
    have := b₀.toNat_lt
    simp only [bytes, List.cons.injEq, and_true, true_and]
    refine ⟨?_, ?_, ?_, ?_⟩ <;> rw [← UInt8.toNat_inj] <;> simp <;> omega
  · cases decoded

@[simp] theorem ofFailure_errno (step : SpawnStep) (e : Errno) :
    ofFailure step (.errno e) = ⟨step, e.code.toUInt32⟩ := rfl

/-- Helper status records are a faithful carrier.  The record written for any step byte
and any cause is five bytes: the step byte, then the first error number of the cause's
unwrap chain (`EINVAL` when there is none) cut to 32 bits, most significant byte first; it
reads back as the step (a byte naming no step reads as starting the program) with that
error number.  Any five bytes read back as a step and an error number, and writing those
again gives the same five bytes exactly when the first byte names a step. -/
theorem codec_round_trip :
    (∀ (step : SpawnStep) (cause : Fault),
      let x := ((cause.layers.findSome? Fault.ownErrno?).getD Errno.einval).code
      (ofFailure step cause).bytes.length = 5 ∧
      (ofFailure step cause).bytes.head? = some step.byte ∧
      bigEndianValue ((ofFailure step cause).bytes.drop 1) = x % 2 ^ 32 ∧
      (ofBytes? (ofFailure step cause).bytes).map toFault =
        some (.spawn (if 1 ≤ step.byte ∧ step.byte ≤ 5 then step else .startProgram)
          (.errno ⟨x % 2 ^ 32⟩))) ∧
    (∀ s b₃ b₂ b₁ b₀ : UInt8,
      ∃ step e,
        (ofBytes? [s, b₃, b₂, b₁, b₀]).map toFault = some (.spawn step (.errno e)) ∧
        ((ofFailure step (.errno e)).bytes = [s, b₃, b₂, b₁, b₀] ↔
          1 ≤ s ∧ s ≤ 5)) := by
  constructor
  · intro step cause
    obtain ⟨length, head, value⟩ := bytes_layout (ofFailure step cause)
    refine ⟨length, head, ?_, ?_⟩
    · rw [value]
      simp [ofFailure, reportedErrno, ← Fault.errno?_eq_findSome?_layers]
    · simp [toFault, ofFailure, reportedErrno, SpawnStep.normalize, SpawnStep.valid,
        ← Fault.errno?_eq_findSome?_layers]
  · intro s b₃ b₂ b₁ b₀
    obtain ⟨record, decoded⟩ : ∃ record, ofBytes? [s, b₃, b₂, b₁, b₀] = some record :=
      ⟨_, rfl⟩
    have written := bytes_of_ofBytes? decoded
    obtain ⟨⟨byte⟩, code⟩ := record
    have first : byte = s := by
      simp only [ofBytes?, Option.some.injEq, mk.injEq, SpawnStep.mk.injEq] at decoded
      exact decoded.1.symm
    subst first
    refine ⟨SpawnStep.normalize ⟨byte⟩, ⟨code.toNat⟩, by simp [decoded, toFault], ?_⟩
    simp only [bytes, List.cons.injEq] at written
    obtain ⟨-, high, upper, lower, low, -⟩ := written
    simp only [ofFailure_errno, Nat.toUInt32_eq, UInt32.ofNat_toNat, bytes, List.cons.injEq,
      high, upper, lower, low, and_true]
    exact SpawnStep.normalize_byte_eq_iff ⟨byte⟩

end StatusRecord

end PseudoTerm
