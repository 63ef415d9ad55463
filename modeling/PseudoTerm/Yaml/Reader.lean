/-!
# Reading the characters of a YAML stream

A stream is UTF-8, or UTF-16 when it starts with a UTF-16 byte order mark; a UTF-8 byte
order mark is skipped.  Only printable characters, tabs and line breaks are allowed.

The bytes are read in blocks of 512, and each block is decoded whole when the scanner
first needs a character past the ones decoded before; a character cut by the end of a
block waits for the next one.  A bad sequence in a block therefore stops the reader as
soon as that block is needed: the characters of the earlier blocks are readable, and the
problem is met when the scanner looks past them.  A sequence cut short by the end of the
stream is met only when the scanner reaches it, and so is a failure to read the bytes.

What the scanner sees of this is a `Supply`: the characters, the number decoded after each
block, and the problem met after the last block, if any.
-/

namespace PseudoTerm.Yaml

/-- The size of the blocks a stream is read in. -/
def readBlock : Nat := 512

/-- Whether a character may appear in a stream. -/
def allowedChar (c : Nat) : Bool :=
  c == 0x09 || c == 0x0A || c == 0x0D || (0x20 ≤ c && c ≤ 0x7E) || c == 0x85 ||
  (0xA0 ≤ c && c ≤ 0xD7FF) || (0xE000 ≤ c && c ≤ 0xFFFD) || (0x10000 ≤ c && c ≤ 0x10FFFF)

/-- The encodings of a stream. -/
inductive Encoding where
  | utf8
  | utf16 (bigEndian : Bool)
  deriving Repr, DecidableEq

/-- The width of a UTF-8 sequence from its first byte, zero when it cannot start one. -/
def sequenceWidth (b : UInt8) : Nat :=
  if b &&& 0x80 == 0 then 1
  else if b &&& 0xE0 == 0xC0 then 2
  else if b &&& 0xF0 == 0xE0 then 3
  else if b &&& 0xF8 == 0xF0 then 4
  else 0

/-- One step of decoding: a character and the bytes it took, more bytes needed, or the
problem with the bytes. -/
inductive DecodeStep where
  | char (c : Char) (width : Nat)
  | short
  | bad (problem : String)
  deriving Repr

/-- A decoded value, checked against the characters a stream may hold. -/
def allowedStep (value width : Nat) : DecodeStep :=
  if allowedChar value then .char (Char.ofNat value) width
  else .bad "control characters are not allowed"

/-- Decode the UTF-8 sequence at the start of `raw`; `ended` tells that no bytes follow. -/
def decodeUtf8 (raw : List UInt8) (ended : Bool) : DecodeStep :=
  match raw with
  | [] => .short
  | b :: rest =>
    let w := sequenceWidth b
    if w == 0 then .bad "invalid leading UTF-8 octet"
    else if rest.length + 1 < w then
      if ended then .bad "incomplete UTF-8 octet sequence" else .short
    else
      let tail := rest.take (w - 1)
      if !tail.all (fun t => t &&& 0xC0 == 0x80) then .bad "invalid trailing UTF-8 octet"
      else
        let lead : Nat := match w with
          | 1 => b.toNat
          | 2 => (b &&& 0x1F).toNat
          | 3 => (b &&& 0x0F).toNat
          | _ => (b &&& 0x07).toNat
        let value := tail.foldl (fun acc t => acc * 64 + (t &&& 0x3F).toNat) lead
        if (w == 2 && value < 0x80) || (w == 3 && value < 0x800) || (w == 4 && value < 0x10000) then
          .bad "invalid length of a UTF-8 sequence"
        else if (0xD800 ≤ value && value ≤ 0xDFFF) || value > 0x10FFFF then
          .bad "invalid Unicode character"
        else allowedStep value w

/-- The 16-bit unit of two bytes in the given order. -/
def unitOf (bigEndian : Bool) (first second : UInt8) : Nat :=
  if bigEndian then first.toNat * 256 + second.toNat else second.toNat * 256 + first.toNat

/-- Decode the UTF-16 character at the start of `raw`; `ended` tells that no bytes follow. -/
def decodeUtf16 (bigEndian : Bool) (raw : List UInt8) (ended : Bool) : DecodeStep :=
  match raw with
  | b0 :: b1 :: rest =>
    let value := unitOf bigEndian b0 b1
    if value / 1024 == 0xDC00 / 1024 then .bad "unexpected low surrogate area"
    else if value / 1024 == 0xD800 / 1024 then
      match rest with
      | b2 :: b3 :: _ =>
        let low := unitOf bigEndian b2 b3
        if low / 1024 != 0xDC00 / 1024 then .bad "expected low surrogate area"
        else allowedStep (0x10000 + (value % 1024) * 1024 + low % 1024) 4
      | _ => if ended then .bad "incomplete UTF-16 surrogate pair" else .short
    else allowedStep value 2
  | _ => if ended then .bad "incomplete UTF-16 character" else .short

/-- Decode the character at the start of `raw`. -/
def decodeStep (e : Encoding) (raw : List UInt8) (ended : Bool) : DecodeStep :=
  match e with
  | .utf8 => decodeUtf8 raw ended
  | .utf16 big => decodeUtf16 big raw ended

/-- Decode the characters of one block: the characters, the bytes left of a character the
block cuts, and the problem that stopped the decoding, if one did. -/
def decodeBlock (e : Encoding) (ended : Bool) : List UInt8 → Nat → Array Char →
    Array Char × List UInt8 × Option String
  | raw, 0, acc => (acc, raw, none)
  | [], _ + 1, acc => (acc, [], none)
  | raw, fuel + 1, acc =>
    match decodeStep e raw ended with
    | .char c w => decodeBlock e ended (raw.drop w) fuel (acc.push c)
    | .short => (acc, raw, none)
    | .bad problem => (acc, raw, some problem)

/-- What the scanner can take from a stream: its characters, the number of characters
decoded after each block, and the problem met after the last block (none when the stream
ends there). -/
structure Supply where
  chars : Array Char := #[]
  blockEnds : List Nat := []
  fault : Option String := none
  deriving Repr, Inhabited

/-- The encoding a stream starts with, and the bytes of its byte order mark. -/
def detectEncoding (bytes : List UInt8) : Encoding × Nat :=
  match bytes with
  | 0xFF :: 0xFE :: _ => (.utf16 false, 2)
  | 0xFE :: 0xFF :: _ => (.utf16 true, 2)
  | 0xEF :: 0xBB :: 0xBF :: _ => (.utf8, 3)
  | _ => (.utf8, 0)

/-- The supply of a stream of `bytes`, after which reading fails with `readError` (or the
stream ends, when there is none). -/
def Supply.ofBytes (bytes : List UInt8) (readError : Option String := none) : Supply :=
  let (enc, mark) := detectEncoding bytes
  let first := bytes.take readBlock
  let rest := bytes.drop readBlock
  if first.isEmpty then { fault := readError }
  else go enc ((first.drop mark)) rest #[] [] (bytes.length + 2)
where
  /-- Decode the raw block `raw`, then read the next one from `rest`. -/
  go (enc : Encoding) : List UInt8 → List UInt8 → Array Char → List Nat → Nat → Supply
    | _, _, acc, ends, 0 => { chars := acc, blockEnds := ends.reverse }
    | raw, rest, acc, ends, fuel + 1 =>
      let (chars, left, problem) := decodeBlock enc false raw (raw.length + 1) acc
      match problem with
      | some p => { chars := acc, blockEnds := ends.reverse, fault := some p }
      | none =>
        let ends := chars.size :: ends
        let room := readBlock - left.length
        let more := rest.take room
        if more.isEmpty then
          -- the next read meets the end of the stream, or the read error
          match readError with
          | some e => { chars, blockEnds := ends.reverse, fault := some e }
          | none =>
            let (_, _, problem) := decodeBlock enc true left (left.length + 1) chars
            { chars, blockEnds := ends.reverse, fault := problem }
        else go enc (left ++ more) (rest.drop room) chars ends fuel

end PseudoTerm.Yaml
