import PseudoTerm.Programs.Tool
import PseudoTerm.Text.Quantity

/-!
# `base64`: bytes as printable text and back

Encoding writes each group of three bytes as four characters of the alphabet `A-Z`,
`a-z`, `0-9`, `+`, `/`, a last short group padded with `=`, in lines of 76 characters
(`-w`; 0 for one line), ending with a line feed when anything was written.

Decoding (`-d`) skips line feeds (with `-i`, every character outside the alphabet) and
reads groups of four characters; a group that is broken or cut short ends the output
with the bytes decoded so far and an error.
-/

namespace PseudoTerm.Programs

open PseudoTerm.Machine PseudoTerm.Text Tool

variable {μ : Type}

namespace Encoding

/-- The alphabet. -/
def alphabet : Array UInt8 := "ABCDEFGHIJKLMNOPQRSTUVWXYZabcdefghijklmnopqrstuvwxyz0123456789+/".toUTF8.data

/-- The value of a character of the alphabet. -/
def valueOf (c : UInt8) : Option Nat :=
  if 65 ≤ c && c ≤ 90 then some (c.toNat - 65)
  else if 97 ≤ c && c ≤ 122 then some (c.toNat - 71)
  else if 48 ≤ c && c ≤ 57 then some (c.toNat + 4)
  else if c == 43 then some 62
  else if c == 47 then some 63
  else none

/-- Encode bytes, without line breaks. -/
def encode (data : List UInt8) : List UInt8 :=
  let char (n : Nat) : UInt8 := alphabet[n % 64]!
  let rec go : Nat → List UInt8 → List UInt8
    | 0, _ => []
    | _, [] => []
    | _ + 1, [a] =>
      let n := a.toNat * 65536
      [char (n / 262144), char (n / 4096), 61, 61]
    | _ + 1, [a, b] =>
      let n := a.toNat * 65536 + b.toNat * 256
      [char (n / 262144), char (n / 4096), char (n / 64), 61]
    | fuel + 1, a :: b :: c :: rest =>
      let n := a.toNat * 65536 + b.toNat * 256 + c.toNat
      [char (n / 262144), char (n / 4096), char (n / 64), char n] ++ go fuel rest
  go data.length data

/-- Break text into lines of a width (none for 0), ending with a line feed. -/
def wrap (width : Nat) (text : List UInt8) : List UInt8 :=
  if text.isEmpty then []
  else if width == 0 then text
  else
    let rec go : Nat → List UInt8 → List UInt8
      | 0, _ => []
      | fuel + 1, t => if t.length ≤ width then t ++ [10] else t.take width ++ [10] ++ go fuel (t.drop width)
    go text.length text

/-- Decode one group of characters (at most four); answers the bytes and whether the
group was whole and sound. -/
def decodeGroup (g : List UInt8) : List UInt8 × Bool :=
  match g with
  | c0 :: c1 :: rest =>
    match valueOf c0, valueOf c1 with
    | some v0, some v1 =>
      let b0 := (v0 * 4 + v1 / 16).toUInt8
      match rest with
      | [] => ([b0], false)
      | [61, 61] => ([b0], true)
      | 61 :: _ => ([b0], false)
      | c2 :: more =>
        match valueOf c2 with
        | none => ([b0], false)
        | some v2 =>
          let b1 := ((v1 % 16) * 16 + v2 / 4).toUInt8
          match more with
          | [] => ([b0, b1], false)
          | [61] => ([b0, b1], true)
          | [c3] =>
            match valueOf c3 with
            | some v3 => ([b0, b1, ((v2 % 4) * 64 + v3).toUInt8], true)
            | none => ([b0, b1], false)
          | _ => ([b0, b1], false)
    | _, _ => ([], false)
  | _ => ([], false)

/-- Decode text: the bytes decoded and whether all of it was sound. -/
def decode (text : List UInt8) : List UInt8 × Bool :=
  go text.length text []
where
  /-- Group after group. -/
  go : Nat → List UInt8 → List UInt8 → List UInt8 × Bool
    | 0, _, acc => (acc, true)
    | _, [], acc => (acc, true)
    | fuel + 1, t, acc =>
      let (bytes, ok) := decodeGroup (t.take 4)
      if ok then go fuel (t.drop 4) (acc ++ bytes) else (acc ++ bytes, false)

/-- The options of `base64`. -/
def options : List OptionDef :=
  [letterOption 'd' .none (some "decode"), letterOption 'i' .none (some "ignore-garbage"),
   letterOption 'w' .required (some "wrap")]

end Encoding

open Encoding in
/-- `base64`. -/
def base64Program (inv : Invocation) : Prog μ Unit := Tool.run inv do
  let c := readCommandLine options (inv.args.drop 1)
  let mut width := 76
  for o in c.options do
    if o.key == "w" then
      let v := o.value.getD ""
      match readQuantity v [] false false with
      | .value n false => width := n
      | _ => fail s!"invalid wrap size: {mention v}"
  checkOptions c
  let path ← match c.operands with
    | [] => pure "-"
    | [p] => pure p
    | _ :: extra :: _ => misuse s!"extra operand {mention extra}"
  let fd ← match ← openInput path with
    | .ok fd => pure fd
    | .error e => fail s!"{mentionFile path}: {e.sentence}"
  let (data, err) ← readAll fd
  if let some e := err then fail s!"read error: {e.sentence}"
  if c.has "d" then
    let text := data.toList.filter fun b =>
      if c.has "i" then (valueOf b).isSome || b == 61 else b != 10
    let (bytes, ok) := decode text
    emit (ByteArray.mk bytes.toArray)
    if !ok then fail "invalid input"
  else emit (ByteArray.mk (wrap width (encode data.toList)).toArray)

end PseudoTerm.Programs
