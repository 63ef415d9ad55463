/-!
# Message digests and checksums

The digests MD5, SHA-1, SHA-224, SHA-256, SHA-384 and SHA-512, and the POSIX `cksum`
cyclic redundancy check.

Each digest pads the message (a one bit, zeros, and the message's length in bits) to a
whole number of blocks, runs a compression step over the blocks in order starting from
fixed words, and writes the final words out.  MD5 reads and writes its words with the
low byte first, the SHA family with the high byte first.

The `cksum` check divides the message, followed by the bytes of its length (low byte
first, as many as it needs), by the polynomial `0x04C11DB7`, high bit first, and
complements the remainder.
-/

namespace PseudoTerm.Text.Digest

/-- Rotate a 32-bit word left. -/
def rotl32 (x : UInt32) (n : UInt32) : UInt32 := (x <<< n) ||| (x >>> (32 - n))

/-- Rotate a 32-bit word right. -/
def rotr32 (x : UInt32) (n : UInt32) : UInt32 := (x >>> n) ||| (x <<< (32 - n))

/-- Rotate a 64-bit word right. -/
def rotr64 (x : UInt64) (n : UInt64) : UInt64 := (x >>> n) ||| (x <<< (64 - n))

/-- The bytes of a number, `count` of them, the high one first. -/
def bigEndian (count : Nat) (v : Nat) : List UInt8 :=
  (List.range count).reverse.map fun i => ((v / Nat.pow 2 (8 * i)) % 256).toUInt8

/-- Pad a message to whole blocks of `block` bytes, the length field taking `lengthBytes`
bytes at the end, written the high byte first or not. -/
def pad (message : ByteArray) (block lengthBytes : Nat) (highFirst : Bool) : ByteArray :=
  let n := message.size
  let room := block - lengthBytes
  let zeros := (room + block - (n + 1) % block) % block
  let lengthField := bigEndian lengthBytes (8 * n)
  let lengthField := if highFirst then lengthField else lengthField.reverse
  message ++ ByteArray.mk ((128 : UInt8) :: List.replicate zeros 0 ++ lengthField).toArray

/-- A 32-bit word of four bytes at `i`, the low byte first. -/
def wordLow (b : ByteArray) (i : Nat) : UInt32 :=
  (b.get! i).toUInt32 ||| ((b.get! (i + 1)).toUInt32 <<< 8) |||
    ((b.get! (i + 2)).toUInt32 <<< 16) ||| ((b.get! (i + 3)).toUInt32 <<< 24)

/-- A 32-bit word of four bytes at `i`, the high byte first. -/
def wordHigh (b : ByteArray) (i : Nat) : UInt32 :=
  ((b.get! i).toUInt32 <<< 24) ||| ((b.get! (i + 1)).toUInt32 <<< 16) |||
    ((b.get! (i + 2)).toUInt32 <<< 8) ||| (b.get! (i + 3)).toUInt32

/-- A 64-bit word of eight bytes at `i`, the high byte first. -/
def wordHigh64 (b : ByteArray) (i : Nat) : UInt64 :=
  (List.range 8).foldl (fun acc k => (acc <<< 8) ||| (b.get! (i + k)).toUInt64) 0

/-- Two hexadecimal digits of a byte. -/
def hexByte (b : UInt8) : String :=
  let digit (n : Nat) : Char := if n < 10 then Char.ofNat (48 + n) else Char.ofNat (87 + n)
  String.ofList [digit (b.toNat / 16), digit (b.toNat % 16)]

/-- The hexadecimal digits of 32-bit words, each written the low byte first or not. -/
def hexWords (highFirst : Bool) (ws : List UInt32) : String :=
  String.join (ws.map fun w =>
    let bytes := (List.range 4).map fun k => (w >>> (8 * k).toUInt32).toUInt8
    String.join ((if highFirst then bytes.reverse else bytes).map hexByte))

/-- The hexadecimal digits of 64-bit words, each written the high byte first. -/
def hexWords64 (ws : List UInt64) : String :=
  String.join (ws.map fun w =>
    String.join (((List.range 8).reverse.map fun k => (w >>> (8 * k).toUInt64).toUInt8).map hexByte))

/-- Run a compression step over the blocks of a padded message. -/
def blocks {σ : Type} (step : ByteArray → Nat → σ → σ) (padded : ByteArray) (size : Nat) (s : σ) : σ :=
  (List.range (padded.size / size)).foldl (fun s k => step padded (k * size) s) s

/-! ## MD5 -/

/-- The additive constants of MD5. -/
def md5Constants : Array UInt32 :=
  #[0xd76aa478, 0xe8c7b756, 0x242070db, 0xc1bdceee, 0xf57c0faf, 0x4787c62a, 0xa8304613, 0xfd469501,
    0x698098d8, 0x8b44f7af, 0xffff5bb1, 0x895cd7be, 0x6b901122, 0xfd987193, 0xa679438e, 0x49b40821,
    0xf61e2562, 0xc040b340, 0x265e5a51, 0xe9b6c7aa, 0xd62f105d, 0x02441453, 0xd8a1e681, 0xe7d3fbc8,
    0x21e1cde6, 0xc33707d6, 0xf4d50d87, 0x455a14ed, 0xa9e3e905, 0xfcefa3f8, 0x676f02d9, 0x8d2a4c8a,
    0xfffa3942, 0x8771f681, 0x6d9d6122, 0xfde5380c, 0xa4beea44, 0x4bdecfa9, 0xf6bb4b60, 0xbebfbc70,
    0x289b7ec6, 0xeaa127fa, 0xd4ef3085, 0x04881d05, 0xd9d4d039, 0xe6db99e5, 0x1fa27cf8, 0xc4ac5665,
    0xf4292244, 0x432aff97, 0xab9423a7, 0xfc93a039, 0x655b59c3, 0x8f0ccc92, 0xffeff47d, 0x85845dd1,
    0x6fa87e4f, 0xfe2ce6e0, 0xa3014314, 0x4e0811a1, 0xf7537e82, 0xbd3af235, 0x2ad7d2bb, 0xeb86d391]

/-- The rotations of MD5, four for each quarter of the rounds. -/
def md5Shifts : Array UInt32 :=
  #[7, 12, 17, 22, 5, 9, 14, 20, 4, 11, 16, 23, 6, 10, 15, 21]

/-- One block of MD5. -/
def md5Step (b : ByteArray) (at_ : Nat) (h : UInt32 × UInt32 × UInt32 × UInt32) :
    UInt32 × UInt32 × UInt32 × UInt32 :=
  let m : Array UInt32 := (List.range 16).toArray.map fun k => wordLow b (at_ + 4 * k)
  let (a0, b0, c0, d0) := h
  let (a, bb, c, d) := (List.range 64).foldl (fun (a, bb, c, d) i =>
    let (f, g) :=
      if i < 16 then ((bb &&& c) ||| (~~~bb &&& d), i)
      else if i < 32 then ((d &&& bb) ||| (~~~d &&& c), (5 * i + 1) % 16)
      else if i < 48 then (bb ^^^ c ^^^ d, (3 * i + 5) % 16)
      else (c ^^^ (bb ||| ~~~d), (7 * i) % 16)
    let f := f + a + md5Constants[i]! + m[g]!
    (d, bb + rotl32 f md5Shifts[(i / 16) * 4 + i % 4]!, bb, c)) (a0, b0, c0, d0)
  (a0 + a, b0 + bb, c0 + c, d0 + d)

/-- The MD5 digest of a message, in hexadecimal. -/
def md5 (message : ByteArray) : String :=
  let (a, b, c, d) := blocks md5Step (pad message 64 8 false) 64
    (0x67452301, 0xefcdab89, 0x98badcfe, 0x10325476)
  hexWords false [a, b, c, d]

/-! ## SHA-1 -/

/-- One block of SHA-1. -/
def sha1Step (b : ByteArray) (at_ : Nat) (h : List UInt32) : List UInt32 :=
  let m : Array UInt32 := (List.range 16).toArray.map fun k => wordHigh b (at_ + 4 * k)
  let w := (List.range 64).foldl (fun (w : Array UInt32) i =>
    w.push (rotl32 (w[i + 13]! ^^^ w[i + 8]! ^^^ w[i + 2]! ^^^ w[i]!) 1)) m
  match h with
  | [h0, h1, h2, h3, h4] =>
    let (a, bb, c, d, e) := (List.range 80).foldl (fun (a, bb, c, d, e) i =>
      let (f, k) : UInt32 × UInt32 :=
        if i < 20 then ((bb &&& c) ||| (~~~bb &&& d), 0x5A827999)
        else if i < 40 then (bb ^^^ c ^^^ d, 0x6ED9EBA1)
        else if i < 60 then ((bb &&& c) ||| (bb &&& d) ||| (c &&& d), 0x8F1BBCDC)
        else (bb ^^^ c ^^^ d, 0xCA62C1D6)
      let t := rotl32 a 5 + f + e + k + w[i]!
      (t, a, rotl32 bb 30, c, d)) (h0, h1, h2, h3, h4)
    [h0 + a, h1 + bb, h2 + c, h3 + d, h4 + e]
  | other => other

/-- The SHA-1 digest of a message, in hexadecimal. -/
def sha1 (message : ByteArray) : String :=
  hexWords true (blocks sha1Step (pad message 64 8 true) 64
    [0x67452301, 0xEFCDAB89, 0x98BADCFE, 0x10325476, 0xC3D2E1F0])

/-! ## SHA-224 and SHA-256 -/

/-- The round constants of SHA-256. -/
def sha256Constants : Array UInt32 :=
  #[0x428a2f98, 0x71374491, 0xb5c0fbcf, 0xe9b5dba5, 0x3956c25b, 0x59f111f1, 0x923f82a4, 0xab1c5ed5,
    0xd807aa98, 0x12835b01, 0x243185be, 0x550c7dc3, 0x72be5d74, 0x80deb1fe, 0x9bdc06a7, 0xc19bf174,
    0xe49b69c1, 0xefbe4786, 0x0fc19dc6, 0x240ca1cc, 0x2de92c6f, 0x4a7484aa, 0x5cb0a9dc, 0x76f988da,
    0x983e5152, 0xa831c66d, 0xb00327c8, 0xbf597fc7, 0xc6e00bf3, 0xd5a79147, 0x06ca6351, 0x14292967,
    0x27b70a85, 0x2e1b2138, 0x4d2c6dfc, 0x53380d13, 0x650a7354, 0x766a0abb, 0x81c2c92e, 0x92722c85,
    0xa2bfe8a1, 0xa81a664b, 0xc24b8b70, 0xc76c51a3, 0xd192e819, 0xd6990624, 0xf40e3585, 0x106aa070,
    0x19a4c116, 0x1e376c08, 0x2748774c, 0x34b0bcb5, 0x391c0cb3, 0x4ed8aa4a, 0x5b9cca4f, 0x682e6ff3,
    0x748f82ee, 0x78a5636f, 0x84c87814, 0x8cc70208, 0x90befffa, 0xa4506ceb, 0xbef9a3f7, 0xc67178f2]

/-- One block of SHA-256. -/
def sha256Step (b : ByteArray) (at_ : Nat) (h : Array UInt32) : Array UInt32 :=
  let m : Array UInt32 := (List.range 16).toArray.map fun k => wordHigh b (at_ + 4 * k)
  let w := (List.range 48).foldl (fun (w : Array UInt32) i =>
    let x := w[i + 1]!
    let y := w[i + 14]!
    let s0 := rotr32 x 7 ^^^ rotr32 x 18 ^^^ (x >>> 3)
    let s1 := rotr32 y 17 ^^^ rotr32 y 19 ^^^ (y >>> 10)
    w.push (w[i]! + s0 + w[i + 9]! + s1)) m
  let v := (List.range 64).foldl (fun (v : Array UInt32) i =>
    let a := v[0]!
    let e := v[4]!
    let s1 := rotr32 e 6 ^^^ rotr32 e 11 ^^^ rotr32 e 25
    let ch := (e &&& v[5]!) ^^^ (~~~e &&& v[6]!)
    let t1 := v[7]! + s1 + ch + sha256Constants[i]! + w[i]!
    let s0 := rotr32 a 2 ^^^ rotr32 a 13 ^^^ rotr32 a 22
    let maj := (a &&& v[1]!) ^^^ (a &&& v[2]!) ^^^ (v[1]! &&& v[2]!)
    #[t1 + s0 + maj, a, v[1]!, v[2]!, v[3]! + t1, e, v[5]!, v[6]!]) h
  (h.zip v).map fun (x, y) => x + y

/-- The SHA-256 digest of a message, in hexadecimal. -/
def sha256 (message : ByteArray) : String :=
  hexWords true (blocks sha256Step (pad message 64 8 true) 64
    #[0x6a09e667, 0xbb67ae85, 0x3c6ef372, 0xa54ff53a, 0x510e527f, 0x9b05688c, 0x1f83d9ab, 0x5be0cd19]).toList

/-- The SHA-224 digest of a message, in hexadecimal. -/
def sha224 (message : ByteArray) : String :=
  hexWords true ((blocks sha256Step (pad message 64 8 true) 64
    #[0xc1059ed8, 0x367cd507, 0x3070dd17, 0xf70e5939, 0xffc00b31, 0x68581511, 0x64f98fa7, 0xbefa4fa4]).toList.take 7)

/-! ## SHA-384 and SHA-512 -/

/-- The round constants of SHA-512. -/
def sha512Constants : Array UInt64 :=
  #[0x428a2f98d728ae22, 0x7137449123ef65cd, 0xb5c0fbcfec4d3b2f, 0xe9b5dba58189dbbc, 0x3956c25bf348b538,
    0x59f111f1b605d019, 0x923f82a4af194f9b, 0xab1c5ed5da6d8118, 0xd807aa98a3030242, 0x12835b0145706fbe,
    0x243185be4ee4b28c, 0x550c7dc3d5ffb4e2, 0x72be5d74f27b896f, 0x80deb1fe3b1696b1, 0x9bdc06a725c71235,
    0xc19bf174cf692694, 0xe49b69c19ef14ad2, 0xefbe4786384f25e3, 0x0fc19dc68b8cd5b5, 0x240ca1cc77ac9c65,
    0x2de92c6f592b0275, 0x4a7484aa6ea6e483, 0x5cb0a9dcbd41fbd4, 0x76f988da831153b5, 0x983e5152ee66dfab,
    0xa831c66d2db43210, 0xb00327c898fb213f, 0xbf597fc7beef0ee4, 0xc6e00bf33da88fc2, 0xd5a79147930aa725,
    0x06ca6351e003826f, 0x142929670a0e6e70, 0x27b70a8546d22ffc, 0x2e1b21385c26c926, 0x4d2c6dfc5ac42aed,
    0x53380d139d95b3df, 0x650a73548baf63de, 0x766a0abb3c77b2a8, 0x81c2c92e47edaee6, 0x92722c851482353b,
    0xa2bfe8a14cf10364, 0xa81a664bbc423001, 0xc24b8b70d0f89791, 0xc76c51a30654be30, 0xd192e819d6ef5218,
    0xd69906245565a910, 0xf40e35855771202a, 0x106aa07032bbd1b8, 0x19a4c116b8d2d0c8, 0x1e376c085141ab53,
    0x2748774cdf8eeb99, 0x34b0bcb5e19b48a8, 0x391c0cb3c5c95a63, 0x4ed8aa4ae3418acb, 0x5b9cca4f7763e373,
    0x682e6ff3d6b2b8a3, 0x748f82ee5defb2fc, 0x78a5636f43172f60, 0x84c87814a1f0ab72, 0x8cc702081a6439ec,
    0x90befffa23631e28, 0xa4506cebde82bde9, 0xbef9a3f7b2c67915, 0xc67178f2e372532b, 0xca273eceea26619c,
    0xd186b8c721c0c207, 0xeada7dd6cde0eb1e, 0xf57d4f7fee6ed178, 0x06f067aa72176fba, 0x0a637dc5a2c898a6,
    0x113f9804bef90dae, 0x1b710b35131c471b, 0x28db77f523047d84, 0x32caab7b40c72493, 0x3c9ebe0a15c9bebc,
    0x431d67c49c100d4c, 0x4cc5d4becb3e42b6, 0x597f299cfc657e2a, 0x5fcb6fab3ad6faec, 0x6c44198c4a475817]

/-- One block of SHA-512. -/
def sha512Step (b : ByteArray) (at_ : Nat) (h : Array UInt64) : Array UInt64 :=
  let m : Array UInt64 := (List.range 16).toArray.map fun k => wordHigh64 b (at_ + 8 * k)
  let w := (List.range 64).foldl (fun (w : Array UInt64) i =>
    let x := w[i + 1]!
    let y := w[i + 14]!
    let s0 := rotr64 x 1 ^^^ rotr64 x 8 ^^^ (x >>> 7)
    let s1 := rotr64 y 19 ^^^ rotr64 y 61 ^^^ (y >>> 6)
    w.push (w[i]! + s0 + w[i + 9]! + s1)) m
  let v := (List.range 80).foldl (fun (v : Array UInt64) i =>
    let a := v[0]!
    let e := v[4]!
    let s1 := rotr64 e 14 ^^^ rotr64 e 18 ^^^ rotr64 e 41
    let ch := (e &&& v[5]!) ^^^ (~~~e &&& v[6]!)
    let t1 := v[7]! + s1 + ch + sha512Constants[i]! + w[i]!
    let s0 := rotr64 a 28 ^^^ rotr64 a 34 ^^^ rotr64 a 39
    let maj := (a &&& v[1]!) ^^^ (a &&& v[2]!) ^^^ (v[1]! &&& v[2]!)
    #[t1 + s0 + maj, a, v[1]!, v[2]!, v[3]! + t1, e, v[5]!, v[6]!]) h
  (h.zip v).map fun (x, y) => x + y

/-- The SHA-512 digest of a message, in hexadecimal. -/
def sha512 (message : ByteArray) : String :=
  hexWords64 (blocks sha512Step (pad message 128 16 true) 128
    #[0x6a09e667f3bcc908, 0xbb67ae8584caa73b, 0x3c6ef372fe94f82b, 0xa54ff53a5f1d36f1,
      0x510e527fade682d1, 0x9b05688c2b3e6c1f, 0x1f83d9abfb41bd6b, 0x5be0cd19137e2179]).toList

/-- The SHA-384 digest of a message, in hexadecimal. -/
def sha384 (message : ByteArray) : String :=
  hexWords64 ((blocks sha512Step (pad message 128 16 true) 128
    #[0xcbbb9d5dc1059ed8, 0x629a292a367cd507, 0x9159015a3070dd17, 0x152fecd8f70e5939,
      0x67332667ffc00b31, 0x8eb44a8768581511, 0xdb0c2e0d64f98fa7, 0x47b5481dbefa4fa4]).toList.take 6)

/-! ## The cksum check -/

/-- The remainder table of the `cksum` polynomial, one entry a byte. -/
def crcTable : Array UInt32 :=
  (List.range 256).toArray.map fun (i : Nat) =>
    let start : UInt32 := i.toUInt32 <<< 24
    (List.range 8).foldl (fun (c : UInt32) _ =>
      if c &&& 0x80000000 != 0 then (c <<< 1) ^^^ 0x04C11DB7 else c <<< 1) start

/-- Feed bytes to the check. -/
def crcFeed (crc : UInt32) (bytes : List UInt8) : UInt32 :=
  bytes.foldl (fun c b => (c <<< 8) ^^^ crcTable[((c >>> 24) ^^^ b.toUInt32).toNat &&& 255]!) crc

/-- The bytes of a length as `cksum` feeds them: the low byte first, as many as needed. -/
def lengthBytes (n : Nat) : List UInt8 :=
  go n 9
where
  /-- Byte after byte. -/
  go : Nat → Nat → List UInt8
    | 0, _ => []
    | _, 0 => []
    | v, fuel + 1 => (v % 256).toUInt8 :: go (v / 256) fuel

/-- The `cksum` check of a message. -/
def cksum (message : ByteArray) : UInt32 :=
  ~~~(crcFeed (crcFeed 0 message.toList) (lengthBytes message.size))

end PseudoTerm.Text.Digest
