import PseudoTerm.Bench.Value
import PseudoTerm.Fault

/-!
# Reading requests

Fields of a request are read with a type and a range.  A missing required field, a value
of the wrong kind, a fraction where an integer is wanted, or an integer outside the
field's range refuses the request with a message naming the field.  Missing optional
fields take their zero value.
-/

namespace PseudoTerm.Bench

/-- Reading a request: a value, or the message refusing the request. -/
abbrev Decode (α : Type) := Except String α

/-- The integer held by a number value, refusing fractions and other kinds. -/
def integerOf (name : String) : Value → Decode Int
  | .num m 0 => .ok m
  | .num m d =>
    if m % (Nat.pow 10 d : Nat) == 0 then .ok (m / (Nat.pow 10 d : Nat))
    else .error s!"field \"{name}\" must be an integer"
  | _ => .error s!"field \"{name}\" must be a number"

/-- An integer kept within `lo … hi`, the range named `kind` in the refusal. -/
def integerIn (name kind : String) (lo hi : Int) (v : Value) : Decode Int := do
  let n ← integerOf name v
  if lo ≤ n && n ≤ hi then pure n else throw s!"field \"{name}\": not {kind}: {n}"

/-- The bounds of the integer kinds requests use. -/
def int64Min : Int := -(Int.pow 2 63)
def int64Max : Int := Int.pow 2 63 - 1

/-- A required field. -/
def need (req : Value) (name : String) : Decode Value :=
  match req.field? name with
  | some v => pure v
  | none => throw s!"missing field \"{name}\""

/-- An optional field; a null counts as missing. -/
def opt (req : Value) (name : String) : Option Value :=
  match req.field? name with
  | some .null => none
  | other => other

/-- A text value. -/
def textOf (name : String) : Value → Decode String
  | .str s => pure s
  | _ => throw s!"field \"{name}\" must be a string"

/-- A boolean value. -/
def boolOf (name : String) : Value → Decode Bool
  | .bool b => pure b
  | _ => throw s!"field \"{name}\" must be a boolean"

/-- A list of texts. -/
def textsOf (name : String) : Value → Decode (List String)
  | .arr items => items.mapM (textOf name)
  | _ => throw s!"field \"{name}\" must be a list"

/-- Bytes given as a text (its UTF-8 bytes) or as an object with hexadecimal digits. -/
def bytesOf (name : String) : Value → Decode (List UInt8)
  | .str s => pure s.toUTF8.toList
  | v@(.obj _) =>
    match v.field? "hex" with
    | some (.str h) =>
      match Text.bytesOfHex? h.toList with
      | some bytes => pure bytes
      | none => throw s!"field \"{name}\": bad hex"
    | _ => throw s!"field \"{name}\" must be bytes"
  | _ => throw s!"field \"{name}\" must be bytes"

/-- A required integer in a range. -/
def intField (req : Value) (name kind : String) (lo hi : Int) : Decode Int := do
  integerIn name kind lo hi (← need req name)

/-- An optional integer in a range, with a default. -/
def intFieldD (req : Value) (name kind : String) (lo hi dflt : Int) : Decode Int :=
  match opt req name with
  | some v => integerIn name kind lo hi v
  | none => pure dflt

/-- A required 32-bit unsigned field. -/
def uint32Field (req : Value) (name : String) : Decode Nat := do
  return (← intField req name "a uint32" 0 (Int.pow 2 32 - 1)).toNat

/-- An optional 32-bit unsigned field, zero when missing. -/
def uint32FieldD (req : Value) (name : String) : Decode Nat := do
  return (← intFieldD req name "a uint32" 0 (Int.pow 2 32 - 1) 0).toNat

/-- A required signed 64-bit field. -/
def int64Field (req : Value) (name : String) : Decode Int :=
  intField req name "an int64" int64Min int64Max

/-- An optional signed 64-bit field with a default. -/
def int64FieldD (req : Value) (name : String) (dflt : Int) : Decode Int :=
  intFieldD req name "an int64" int64Min int64Max dflt

/-- A required text field. -/
def textField (req : Value) (name : String) : Decode String := do
  textOf name (← need req name)

/-- An optional text field, empty when missing. -/
def textFieldD (req : Value) (name : String) : Decode String :=
  match opt req name with
  | some v => textOf name v
  | none => pure ""

/-- An optional boolean field, false when missing. -/
def boolFieldD (req : Value) (name : String) : Decode Bool :=
  match opt req name with
  | some v => boolOf name v
  | none => pure false

/-- An optional list of texts, empty when missing. -/
def textsFieldD (req : Value) (name : String) : Decode (List String) :=
  match opt req name with
  | some v => textsOf name v
  | none => pure []

/-- A required list of texts. -/
def textsField (req : Value) (name : String) : Decode (List String) := do
  textsOf name (← need req name)

/-- A required byte field. -/
def bytesField (req : Value) (name : String) : Decode (List UInt8) := do
  bytesOf name (← need req name)

/-- An optional byte field, empty when missing. -/
def bytesFieldD (req : Value) (name : String) : Decode (List UInt8) :=
  match opt req name with
  | some v => bytesOf name v
  | none => pure []

/-- A fault built from its description: an error number, a text, a path operation, a
system call, a program start, a wrapped cause, or one of the sentinel causes. -/
def faultOf (name : String) : Value → Nat → Decode Fault
  | _, 0 => throw s!"field \"{name}\" is nested too deeply"
  | v, fuel + 1 => do
    if let some n := v.field? "errno" then
      return .errno ⟨(← integerIn name "a uint64" 0 (Int.pow 2 64 - 1) n).toNat⟩
    if let some t := v.field? "text" then
      return .text (← textOf name t)
    if let some p := v.field? "path" then
      return .path (← textField p "op") (← textField p "path") (← faultOf name (← need p "err") fuel)
    if let some s := v.field? "syscall" then
      return .syscall (← textField s "name") (← faultOf name (← need s "err") fuel)
    if let some e := v.field? "exec" then
      let cause ← match e.field? "err" with
        | some c => faultOf name c fuel
        | none => pure Fault.notInSearchPath
      return .exec (← textField e "name") cause
    if let some w := v.field? "wrap" then
      return .wrap (← textField w "prefix") (← faultOf name (← need w "err") fuel)
    if (v.field? "pair_consumed").isSome then return .pairConsumed
    if (v.field? "closed").isSome then return .closed
    throw s!"field \"{name}\": unknown error spec"

/-- A required fault field. -/
def faultField (req : Value) (name : String) : Decode Fault := do
  faultOf name (← need req name) 64

end PseudoTerm.Bench
