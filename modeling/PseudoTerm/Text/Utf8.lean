/-!
# Decoding UTF-8 with replacement

Bytes that are not well-formed UTF-8 still make a text: each byte at which no complete,
shortest, in-range sequence starts stands for one replacement character `U+FFFD`, and
decoding goes on with the next byte.  Well-formed sequences are those of the standard:
no overlong forms, no surrogates, nothing above `U+10FFFF`.
-/

namespace PseudoTerm.Text

/-- The range the second byte of a sequence must lie in, by its first byte, with the
sequence's width; none when the byte cannot start a sequence of two or more. -/
def secondByteRange (b : UInt8) : Option (UInt8 × UInt8 × Nat) :=
  if 0xC2 ≤ b && b ≤ 0xDF then some (0x80, 0xBF, 2)
  else if b == 0xE0 then some (0xA0, 0xBF, 3)
  else if b == 0xED then some (0x80, 0x9F, 3)
  else if 0xE1 ≤ b && b ≤ 0xEF then some (0x80, 0xBF, 3)
  else if b == 0xF0 then some (0x90, 0xBF, 4)
  else if b == 0xF4 then some (0x80, 0x8F, 4)
  else if 0xF1 ≤ b && b ≤ 0xF3 then some (0x80, 0xBF, 4)
  else none

/-- Whether a byte continues a sequence. -/
def isContinuation (b : UInt8) : Bool := 0x80 ≤ b && b ≤ 0xBF

/-- The character at the start of `bytes` and how many bytes it takes, when a
well-formed sequence starts there. -/
def decodeSequence (bytes : List UInt8) : Option (Char × Nat) :=
  match bytes with
  | [] => none
  | b :: rest =>
    if b < 0x80 then some (Char.ofNat b.toNat, 1)
    else
      match secondByteRange b with
      | none => none
      | some (lo, hi, width) =>
        let tail := rest.take (width - 1)
        match tail with
        | second :: more =>
          if tail.length == width - 1 && lo ≤ second && second ≤ hi && more.all isContinuation then
            let lead := if width == 2 then b.toNat % 32 else if width == 3 then b.toNat % 16 else b.toNat % 8
            let value := tail.foldl (fun acc t => acc * 64 + t.toNat % 64) lead
            some (Char.ofNat value, width)
          else none
        | [] => none

/-- The text of some bytes, each byte that starts no well-formed sequence standing for a
replacement character. -/
def decodeLossy (bytes : List UInt8) : String :=
  go bytes bytes.length ""
where
  /-- Decode with a bound on the steps: each step takes at least one byte. -/
  go : List UInt8 → Nat → String → String
    | [], _, acc => acc
    | _, 0, acc => acc
    | b :: rest, fuel + 1, acc =>
      match decodeSequence (b :: rest) with
      | some (c, w) => go ((b :: rest).drop w) fuel (acc.push c)
      | none => go rest fuel (acc.push '�')

end PseudoTerm.Text
