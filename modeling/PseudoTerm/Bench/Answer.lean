import PseudoTerm.Bench.Value
import PseudoTerm.Fault

/-!
# Writing answers

A fault is answered as an object with its kind, its message and, where they apply, the
first setup step, the first error number and the sentinel causes found in its chain.  The
kind is read from the outermost layer only.

Texts that name machine-specific places are masked before they are answered: a child
terminal number becomes `<N>` and other known places become their fixed names.
-/

namespace PseudoTerm.Bench

/-- Replace every `/dev/pts/` followed by digits with `/dev/pts/<N>`. -/
def maskTerminalNumbers (s : String) : String :=
  String.ofList (go s.toList s.length)
where
  /-- Walk the characters, rewriting each terminal number. -/
  go : List Char → Nat → List Char
    | [], _ => []
    | cs, 0 => cs
    | c :: rest, fuel + 1 =>
      let marker := "/dev/pts/".toList
      if (c :: rest).take marker.length == marker then
        let after := (c :: rest).drop marker.length
        let digits := after.takeWhile Char.isDigit
        if digits.isEmpty then c :: go rest fuel
        else marker ++ "<N>".toList ++ go (after.drop digits.length) fuel
      else c :: go rest fuel

/-- Replace every occurrence of `place` with `name`. -/
def maskPlace (place name : String) (s : String) : String :=
  if place.isEmpty then s else name.intercalate (s.splitOn place)

/-- A masking rule: the places to hide, longest first, and the names shown instead. -/
structure Mask where
  places : List (String × String) := []
  deriving Repr, Inhabited

/-- Apply a mask and hide terminal numbers. -/
def Mask.apply (m : Mask) (s : String) : String :=
  maskTerminalNumbers (m.places.foldl (fun acc (p, n) => maskPlace p n acc) s)

/-- Bytes as an answer: their text, masked, when they are valid UTF-8, else their
hexadecimal digits. -/
def bytesValue (m : Mask) (data : ByteArray) : Value :=
  match String.fromUTF8? data with
  | some s => .str (m.apply s)
  | none => .obj [("hex", .str (Text.hexOfBytes data.toList))]

/-- The kind of a fault, read from its outermost layer. -/
def faultKind : Fault → String
  | .allocate _ _ => "AllocateError"
  | .spawn _ _ => "SpawnError"
  | .resize _ => "ResizeError"
  | .pairConsumed => "ErrPairConsumed"
  | .notFound => "ErrNotFound"
  | .notRunning => "ErrNotRunning"
  | .endOfStream => "EOF"
  | .canceled => "Canceled"
  | .deadlineExceeded => "DeadlineExceeded"
  | .path _ _ _ => "PathError"
  | .syscall _ _ => "SyscallError"
  | .exec _ _ => "ExecError"
  | .errno _ => "Errno"
  | _ => "error"

/-- A fault as an answer object. -/
def faultValue (m : Mask) (f : Fault) : Value :=
  let base : List (String × Value) := [("error", .str (faultKind f)), ("message", .str (m.apply f.message))]
  let step := match f.stepName? with
    | some s => [("step", Value.str s)]
    | none => []
  let errno := match f.errno? with
    | some e => [("errno", Value.nat (e.code % Nat.pow 2 64))]
    | none => []
  let flag (name : String) (b : Bool) : List (String × Value) := if b then [(name, .bool true)] else []
  .obj (base ++ step ++ errno ++ flag "is_pair_consumed" f.isPairConsumed ++
    flag "is_closed" f.isClosed ++ flag "is_deadline" f.isTimeout)

/-- A fault as an answer object with the count of bytes moved before it. -/
def faultValueWithCount (m : Mask) (f : Fault) (n : Nat) : Value :=
  (faultValue m f).withField "n" (.nat n)

/-- A successful step: `{"ok": v}`. -/
def okValue (v : Value) : Value := .obj [("ok", v)]

/-- A step answer: the value, or the fault. -/
def stepValue (m : Mask) : Except Fault Value → Value
  | .ok v => okValue v
  | .error f => faultValue m f

/-- A refused request or step. -/
def refusal (message : String) : Value :=
  .obj [("error", .str "bad_input"), ("message", .str message)]

end PseudoTerm.Bench
