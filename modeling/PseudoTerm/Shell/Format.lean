import PseudoTerm.Text.FloatText
import PseudoTerm.Text.Utf8

/-!
# Formatted output: `echo` and `printf`

Both work on bytes, since their escapes can make bytes that are not text.

A backslash escape in a format is `\\ \a \b \f \n \r \t \v` or one to three octal
digits; before any other character the backslash stands for itself.  In an argument
of `echo` or of `%b` the octal form may also start with a `0` that does not count
among the three digits, and `\c` ends all output at once.

A `printf` conversion is `%` with flags (`-+ #0`), a width and a precision (either may
be `*`, taken from the arguments), and one of `b c s d i o u x X e E f F g G a A`; `%%`
is a percent sign.  The format is used again while arguments are left and some were
used.  A missing argument is empty or zero.  A number argument may be signed, decimal,
octal or hexadecimal (or a decimal or hexadecimal float for the float conversions), or
a quote followed by a character (its first byte); a bad one is zero (or the part that
was read), and it and one out of range make the status 1.  Another conversion letter,
or none, stops `printf` with an error.
-/

namespace PseudoTerm.Shell

namespace Format

/-- Whether a byte is an octal digit. -/
def isOctal (b : UInt8) : Bool := 48 ≤ b && b ≤ 55

/-- Read up to `n` octal digits: their value and the rest. -/
def octal : Nat → List UInt8 → Nat → Nat × List UInt8
  | 0, rest, acc => (acc, rest)
  | _, [], acc => (acc, [])
  | n + 1, b :: rest, acc =>
    if isOctal b then octal n rest (acc * 8 + (b.toNat - 48)) else (acc, b :: rest)

/-- Read one escape after a backslash: the byte it makes and the rest.  With
`extended`, a leading `0` before octal digits is skipped. -/
def escape (extended : Bool) (bs : List UInt8) : UInt8 × List UInt8 :=
  let bs := match bs with
    | 48 :: b :: rest => if extended && isOctal b then b :: rest else bs
    | _ => bs
  match bs with
  | 92 :: rest => (92, rest)
  | 97 :: rest => (7, rest)
  | 98 :: rest => (8, rest)
  | 102 :: rest => (12, rest)
  | 110 :: rest => (10, rest)
  | 114 :: rest => (13, rest)
  | 116 :: rest => (9, rest)
  | 118 :: rest => (11, rest)
  | b :: rest =>
    if isOctal b then
      let (v, rest) := octal 3 (b :: rest) 0
      (v.toUInt8, rest)
    else (92, b :: rest)
  | [] => (92, [])

/-- Expand the escapes of an `echo` argument or a `%b` argument; answers the bytes and
whether `\c` ended the output. -/
def expandEscapes (bs : List UInt8) : List UInt8 × Bool :=
  go (bs.length + 1) bs #[]
where
  /-- Expand from the rest `bs`. -/
  go : Nat → List UInt8 → Array UInt8 → List UInt8 × Bool
    | 0, _, acc => (acc.toList, false)
    | _, [], acc => (acc.toList, false)
    | _ + 1, 92 :: 99 :: _, acc => (acc.toList, true)
    | fuel + 1, 92 :: rest, acc =>
      let (b, rest) := escape true rest
      go fuel rest (acc.push b)
    | fuel + 1, b :: rest, acc => go fuel rest (acc.push b)

/-- The bytes `echo` writes for its arguments: separated by blanks, ended by a newline
unless the first argument is `-n`, with escapes expanded; `\c` stops everything. -/
def echo (args : List String) : ByteArray :=
  let (noNewline, args) := match args with
    | "-n" :: rest => (true, rest)
    | rest => (false, rest)
  let rec build : List String → Array UInt8 → Array UInt8
    | [], acc => if noNewline then acc else acc.push 10
    | a :: rest, acc =>
      let (bytes, stop) := expandEscapes a.toUTF8.toList
      let acc := acc ++ bytes.toArray
      if stop then acc
      else if rest.isEmpty then build rest acc
      else build rest (acc.push 32)
  ⟨build args #[]⟩

/-- An integer read from the start of an argument, C style (blanks, a sign, then a
decimal, octal or hexadecimal number): its value, and whether all of the argument was
read (`none` when nothing was). -/
def readInteger (s : String) : Int × Option Bool :=
  let cs := s.toList.dropWhile Text.isSpaceChar
  let (neg, body) := match cs with
    | '-' :: r => (true, r)
    | '+' :: r => (false, r)
    | r => (false, r)
  let (base, digits0) : Nat × List Char := match body with
    | '0' :: 'x' :: r | '0' :: 'X' :: r =>
      if (r.head?.bind Text.hexDigit?).isSome then (16, r)
      else (8, '0' :: 'x' :: r)
    | '0' :: r => (8, '0' :: r)
    | r => (10, r)
  let digits := digits0.takeWhile fun c => (Text.hexDigit? c).any (· < base)
  if digits.isEmpty then (0, none)
  else
    let v : Nat := digits.foldl (fun acc c => acc * base + (Text.hexDigit? c).getD 0) 0
    let rest := digits0.drop digits.length
    ((if neg then -(v : Int) else v), some rest.isEmpty)

/-- A conversion's flags, width and precision. -/
structure Spec where
  leftAlign : Bool := false
  plus : Bool := false
  space : Bool := false
  alternate : Bool := false
  zero : Bool := false
  width : Nat := 0
  precision : Option Nat := none

/-- Pad bytes to the width of a spec. -/
def pad (spec : Spec) (body : List UInt8) (zeroAllowed : Bool) (signLen : Nat) : List UInt8 :=
  if body.length ≥ spec.width then body
  else
    let n := spec.width - body.length
    if spec.leftAlign then body ++ List.replicate n 32
    else if spec.zero && zeroAllowed then body.take signLen ++ List.replicate n 48 ++ body.drop signLen
    else List.replicate n 32 ++ body

/-- Digits of a natural number in a base, lower or upper case. -/
def digitsOf (n base : Nat) (upper : Bool) : List UInt8 :=
  let ds := Nat.toDigits base n
  ds.map fun c => (if upper then c.toUpper else c).toNat.toUInt8

/-- Format an integer conversion; the value of an unsigned one is taken modulo `2 ^ 64`. -/
def integer (spec : Spec) (conv : Char) (v : Int) : List UInt8 :=
  let signed := conv == 'd' || conv == 'i'
  let mag : Nat := if signed then v.natAbs else (v % Int.pow 2 64).toNat
  let base := if conv == 'o' then 8 else if conv == 'x' || conv == 'X' then 16 else 10
  let ds := if spec.precision == some 0 && mag == 0 then [] else digitsOf mag base (conv == 'X')
  let ds := match spec.precision with
    | some p => if ds.length < p then List.replicate (p - ds.length) 48 ++ ds else ds
    | none => ds
  let ds := if spec.alternate && conv == 'o' && ds.head? != some 48 then 48 :: ds else ds
  let pre : List UInt8 :=
    if signed then
      if v < 0 then [45] else if spec.plus then [43] else if spec.space then [32] else []
    else if spec.alternate && mag != 0 && conv == 'x' then [48, 120]
    else if spec.alternate && mag != 0 && conv == 'X' then [48, 88]
    else []
  pad spec (pre ++ ds) spec.precision.isNone pre.length

/-- The outcome of `printf`: the bytes, the warnings, the error that stopped it (if
one did), and whether all went well otherwise. -/
structure Printed where
  bytes : ByteArray
  warnings : List String
  error : Option String := none
  ok : Bool

/-- The state of one run over the format. -/
structure Run where
  args : List String
  used : Bool := false
  out : Array UInt8 := #[]
  warnings : Array String := #[]
  ok : Bool := true
  stopped : Bool := false
  error : Option String := none

/-- Take the next argument, if any. -/
def Run.next (r : Run) : Option String × Run :=
  match r.args with
  | a :: rest => (some a, { r with args := rest, used := true })
  | [] => (none, r)

/-- Record a problem with an argument, which makes the status 1. -/
def Run.warn (r : Run) (w : String) : Run := { r with warnings := r.warnings.push w, ok := false }

/-- The message of a value out of range. -/
def rangeMessage : String := "Numerical result out of range"

/-- Take the next argument as a number: a quote and a character stand for the first byte
of the character.  Signed numbers stay within 64-bit signed integers and unsigned ones
within 64-bit unsigned integers, a larger value being out of range. -/
def Run.nextInt (r : Run) (unsigned : Bool) : Int × Run :=
  match r.next with
  | (none, r) => (0, r)
  | (some a, r) =>
    match a.toList with
    | '\'' :: c :: _ | '"' :: c :: _ => ((c.toString.toUTF8.get! 0).toNat, r)
    | '\'' :: [] | '"' :: [] => (0, r)
    | _ =>
      let (v, complete) := readInteger a
      let (v, inRange) :=
        if unsigned then
          if v.natAbs ≥ Nat.pow 2 64 then ((Int.pow 2 64 - 1 : Int), false) else (v, true)
        else if v ≥ Int.pow 2 63 then ((Int.pow 2 63 - 1 : Int), false)
        else if v < -(Int.pow 2 63) then (-(Int.pow 2 63), false)
        else (v, true)
      match complete with
      | some true => if inRange then (v, r) else (v, r.warn s!"{a}: {rangeMessage}")
      | some false => (v, r.warn s!"{a}: not completely converted")
      | none => (v, r.warn s!"{a}: expected numeric value")

/-- Take the next argument as a binary64 number. -/
def Run.nextFloat (r : Run) : Text.Binary64 × Run :=
  match r.next with
  | (none, r) => (.finite false 0 0, r)
  | (some a, r) =>
    match a.toList with
    | '\'' :: c :: _ | '"' :: c :: _ =>
      let b := (c.toString.toUTF8.get! 0).toNat
      (.finite false b 0, r)
    | '\'' :: [] | '"' :: [] => (.finite false 0 0, r)
    | _ =>
      let read := Text.readFloat a
      if read.consumed == 0 then (read.value, r.warn s!"{a}: expected numeric value")
      else if read.consumed < a.length then (read.value, r.warn s!"{a}: not completely converted")
      else if read.outOfRange then (read.value, r.warn s!"{a}: {rangeMessage}")
      else (read.value, r)

/-- Read flags. -/
def flags : Nat → List UInt8 → Spec → Spec × List UInt8
  | 0, bs, s => (s, bs)
  | n + 1, b :: rest, s =>
    if b == 45 then flags n rest { s with leftAlign := true }
    else if b == 43 then flags n rest { s with plus := true }
    else if b == 32 then flags n rest { s with space := true }
    else if b == 35 then flags n rest { s with alternate := true }
    else if b == 48 then flags n rest { s with zero := true }
    else (s, b :: rest)
  | _, [], s => (s, [])

/-- Read decimal digits: their value (if any) and the rest. -/
def number (bs : List UInt8) : Option Nat × List UInt8 :=
  let ds := bs.takeWhile fun b => 48 ≤ b && b ≤ 57
  if ds.isEmpty then (none, bs)
  else (some (ds.foldl (fun acc b => acc * 10 + (b.toNat - 48)) 0), bs.drop ds.length)

/-- A width or precision taken from an argument: as a C `int`. -/
def asInt (v : Int) : Int :=
  let w := v % Int.pow 2 32
  if w ≥ Int.pow 2 31 then w - Int.pow 2 32 else w

/-- Carry out one conversion whose spec has been read; `conv` is its letter. -/
def convert (spec : Spec) (conv : UInt8) (r : Run) : Run :=
  let c := Char.ofNat conv.toNat
  if c == 's' then
    let (a, r) := r.next
    let bytes := (a.getD "").toUTF8.toList
    let bytes := match spec.precision with
      | some p => bytes.take p
      | none => bytes
    { r with out := r.out ++ (pad spec bytes false 0).toArray }
  else if c == 'b' then
    let (a, r) := r.next
    let (bytes, stop) := expandEscapes (a.getD "").toUTF8.toList
    let bytes := match spec.precision with
      | some p => bytes.take p
      | none => bytes
    { r with out := r.out ++ (pad spec bytes false 0).toArray, stopped := stop }
  else if c == 'c' then
    -- the first byte of the argument, a NUL byte when there is none
    let (a, r) := r.next
    let bytes := ((a.getD "").toUTF8.toList.take 1)
    let bytes := if bytes.isEmpty then [0] else bytes
    { r with out := r.out ++ (pad spec bytes false 0).toArray }
  else if c == 'd' || c == 'i' || c == 'o' || c == 'u' || c == 'x' || c == 'X' then
    let (v, r) := r.nextInt (c != 'd' && c != 'i')
    { r with out := r.out ++ (integer spec c v).toArray }
  else
    let (v, r) := r.nextFloat
    let fs : Text.FloatSpec :=
      { conv := c
        leftAlign := spec.leftAlign
        plus := spec.plus
        space := spec.space
        alternate := spec.alternate
        zero := spec.zero
        width := spec.width
        precision := spec.precision }
    { r with out := r.out ++ (fs.render v).toUTF8.toList.toArray }

/-- The conversion letters. -/
def conversions : List Char := "bcsdiouxXeEfFgGaA".toList

/-- Run over the format once. -/
def pass : Nat → List UInt8 → Run → Run
  | 0, _, r => r
  | _, [], r => r
  | fuel + 1, 92 :: rest, r =>
    let (b, rest) := escape false rest
    pass fuel rest { r with out := r.out.push b }
  | fuel + 1, 37 :: 37 :: rest, r => pass fuel rest { r with out := r.out.push 37 }
  | fuel + 1, 37 :: rest, r =>
    let (spec, afterFlags) := flags rest.length rest {}
    let (spec, rest', r) := match afterFlags with
      | 42 :: more =>
        let (v, r) := r.nextInt false
        let v := asInt v
        let spec := if v < 0 then { spec with leftAlign := true, width := v.natAbs } else { spec with width := v.toNat }
        (spec, more, r)
      | _ =>
        let (w, more) := number afterFlags
        ({ spec with width := w.getD 0 }, more, r)
    let rest' := rest'.dropWhile fun b => (48 ≤ b && b ≤ 57) || b == 42
    let (spec, rest', r) := match rest' with
      | 46 :: 42 :: more =>
        let (v, r) := r.nextInt false
        let v := asInt v
        ({ spec with precision := if v < 0 then none else some v.toNat }, more, r)
      | 46 :: more =>
        let (p, more') := number more
        ({ spec with precision := some (p.getD 0) }, more'.dropWhile fun b => (48 ≤ b && b ≤ 57) || b == 42, r)
      | _ => (spec, rest', r)
    match rest' with
    | conv :: more =>
      let c := Char.ofNat conv.toNat
      if conversions.contains c then
        let r := convert spec conv r
        if r.stopped then r else pass fuel more r
      else
        let shown := Text.decodeLossy (37 :: (rest.take (rest.length - more.length)))
        { r with error := some s!"{shown}: invalid directive", stopped := true }
    | [] => { r with error := some "missing format character", stopped := true }
  | fuel + 1, b :: rest, r => pass fuel rest { r with out := r.out.push b }

/-- Run `printf` with a format and arguments: the format is used again while arguments
are left and the last pass took some. -/
def printf (fmt : String) (args : List String) : Printed :=
  let bytes := fmt.toUTF8.toList
  let fuel := bytes.length + 1
  let rec again : Nat → Run → Run
    | 0, r => r
    | n + 1, r =>
      let r := pass fuel bytes { r with used := false }
      if r.stopped || r.args.isEmpty || !r.used then r else again n r
  let r := again (args.length + 1) { args }
  { bytes := ⟨r.out⟩, warnings := r.warnings.toList, error := r.error, ok := r.ok }

end Format

end PseudoTerm.Shell
