import PseudoTerm.Text.Decimal
import PseudoTerm.Text.Numeric

/-!
# Reading and writing binary64 numbers as text

Numbers are read the way the C library reads them: blanks first, a sign, then `inf` or
`infinity`, `nan` (with an optional parenthesised tag), a hexadecimal number after
`0x` with an optional binary exponent after `p`, or decimal digits with an optional
point and an optional exponent after `e`.  The value is the binary64 value nearest to
the exact one, ties going to the even significand; too large a value is an infinity
and a range error, and so is a nonzero value that rounds to zero.

Numbers are written in the styles of the `f`, `e`, `g` and `a` conversions: a fixed
number of decimals; one digit, decimals and a decimal exponent of at least two digits;
whichever of the two shows the value best with a number of significant digits, without
trailing zeros; or hexadecimal digits and a binary exponent.  Every digit comes from the
exact value of the binary number, rounded to the nearest and ties to the even digit.
-/

namespace PseudoTerm.Text

/-- A binary64 value: a finite one is `significand * 2 ^ exponent`, exactly. -/
inductive Binary64 where
  | nan (negative : Bool)
  | infinite (negative : Bool)
  | finite (negative : Bool) (significand : Nat) (exponent : Int)
  deriving DecidableEq, Repr, Inhabited

namespace Binary64

/-- Whether the sign bit is set. -/
def negative : Binary64 → Bool
  | nan n | infinite n | finite n _ _ => n

/-- The value with the sign flipped. -/
def negate : Binary64 → Binary64
  | nan n => nan !n
  | infinite n => infinite !n
  | finite n m e => finite (!n) m e

/-- The exact magnitude of a finite value as a numerator and denominator. -/
def ratio : Binary64 → Nat × Nat
  | finite _ m e => scaled m e
  | _ => (0, 1)

/-- The order of two values, none when either is not a number; the two zeros are equal. -/
def order? : Binary64 → Binary64 → Option Ordering
  | nan _, _ | _, nan _ => none
  | infinite n, infinite m => some (if n == m then .eq else if n then .lt else .gt)
  | infinite n, _ => some (if n then .lt else .gt)
  | _, infinite m => some (if m then .gt else .lt)
  | a@(finite n1 _ _), b@(finite n2 _ _) =>
    let (p1, q1) := a.ratio
    let (p2, q2) := b.ratio
    let x : Int := (if n1 then -(p1 : Int) else p1) * q2
    let y : Int := (if n2 then -(p2 : Int) else p2) * q1
    some (compare x y)

end Binary64

/-- Whether `num / den ≥ 2 ^ k`. -/
def atLeastPow2 (num den : Nat) (k : Int) : Bool :=
  if k ≥ 0 then num ≥ den * Nat.pow 2 k.toNat else num * Nat.pow 2 (-k).toNat ≥ den

/-- The significand and exponent of the binary64 value nearest to `num / den`, ties to
the even significand, below the normal range with the smallest exponent; none when the
value is too large for the format. -/
def roundBinary64 (num den : Nat) : Option (Nat × Int) :=
  if num == 0 || den == 0 then some (0, 0)
  else
    let estimate : Int := (bitLength num : Int) - (bitLength den : Int)
    let floorLog : Int := if atLeastPow2 num den estimate then estimate else estimate - 1
    let e : Int := max (floorLog - 52) (-1074)
    let (n, d) := scaled num (-e)
    let m := roundHalfEven n (d * den)
    let (m, e) := if m == Nat.pow 2 53 then (Nat.pow 2 52, e + 1) else (m, e)
    if m == 0 then some (0, 0)
    else if e > 971 then none
    else some (m, e)

/-- The number of decimal digits of a positive number. -/
def decimalLength (n : Nat) : Nat := (Nat.toDigits 10 n).length

/-- `num * 10 ^ shift` as a numerator and denominator pair, for a signed shift. -/
def scaled10 (num : Nat) (shift : Int) : Nat × Nat :=
  if shift ≥ 0 then (num * Nat.pow 10 shift.toNat, 1) else (num, Nat.pow 10 (-shift).toNat)

/-- The decimal exponent of a positive `num / den`: the `x` with
`10 ^ x ≤ num / den < 10 ^ (x + 1)`. -/
def decimalExponent (num den : Nat) : Int :=
  let estimate : Int := (decimalLength num : Int) - (decimalLength den : Int)
  let (n, d) := scaled10 num (-estimate)
  if n ≥ d * den then estimate else estimate - 1

/-- `num / den` rounded to `places` decimals, as the integer of that many decimals. -/
def roundedUnits (num den : Nat) (places : Int) : Nat :=
  let (n, d) := scaled10 num places
  roundHalfEven n (d * den)

/-- The digits of `num / den` with `places` significant digits after the first: the
decimal exponent and the `places + 1` digits as a number. -/
def scientificParts (num den : Nat) (places : Nat) : Int × Nat :=
  if num == 0 then (0, 0)
  else
    let x := decimalExponent num den
    let m := roundedUnits num den ((places : Int) - x)
    if m == Nat.pow 10 (places + 1) then (x + 1, Nat.pow 10 places) else (x, m)

/-- Decimal digits of a number, padded with zeros on the left to `width`. -/
def zeroPadded (width n : Nat) : String :=
  let ds := toString n
  String.ofList (List.replicate (width - ds.length) '0') ++ ds

/-- The text of `num / den` with `places` decimals; with `point`, the point stays also
without decimals. -/
def fixedForm (num den places : Nat) (point : Bool) : String :=
  let units := roundedUnits num den places
  let whole := toString (units / Nat.pow 10 places)
  if places == 0 then (if point then whole ++ "." else whole)
  else whole ++ "." ++ zeroPadded places (units % Nat.pow 10 places)

/-- A decimal exponent as written after `e`: a sign and at least two digits. -/
def exponentText (x : Int) : String :=
  (if x < 0 then "-" else "+") ++ zeroPadded 2 x.natAbs

/-- The text of `num / den` as one digit, `places` decimals and an exponent. -/
def scientificForm (num den places : Nat) (point upper : Bool) : String :=
  let (x, m) := scientificParts num den places
  let digits := zeroPadded (places + 1) m
  let head := digits.take 1
  let tail := (digits.drop 1).toString
  let mantissa := if places == 0 then (if point then head.toString ++ "." else head.toString)
    else head.toString ++ "." ++ tail
  mantissa ++ (if upper then "E" else "e") ++ exponentText x

/-- A number's text without the zeros that end its decimals, and without the point when
no decimals are left. -/
def trimDecimals (s : String) : String :=
  if !s.contains '.' then s
  else
    let cs := (s.toList.reverse.dropWhile (· == '0'))
    let cs := match cs with
      | '.' :: rest => rest
      | _ => cs
    String.ofList cs.reverse

/-- The text of `num / den` with `significant` significant digits, in fixed form when
its exponent is at least -4 and below the digit count, else in scientific form; zeros
at the end of the decimals go unless `keep`. -/
def generalForm (num den significant : Nat) (keep upper : Bool) : String :=
  let p := if significant == 0 then 1 else significant
  let (x, _) := scientificParts num den (p - 1)
  if x < p && x ≥ -4 then
    let s := fixedForm num den (p - 1 - x).toNat keep
    if keep then s else trimDecimals s
  else
    let s := scientificForm num den (p - 1) keep upper
    if keep then s
    else
      match s.splitOn (if upper then "E" else "e") with
      | [mantissa, expo] => trimDecimals mantissa ++ (if upper then "E" else "e") ++ expo
      | _ => s

/-- Lowercase hexadecimal digits of a number, padded with zeros to `width`. -/
def hexPaddedDigits (width n : Nat) : String :=
  let ds := String.ofList (Nat.toDigits 16 n)
  String.ofList (List.replicate (width - ds.length) '0') ++ ds

/-- The text of a finite binary64 value in hexadecimal: a leading digit, the fraction
in hexadecimal digits (all thirteen without trailing zeros, or `places` rounded), and
the binary exponent.  Values below the normal range lead with `0`. -/
def hexForm (m : Nat) (e : Int) (places : Option Nat) (point upper : Bool) : String :=
  let (lead, frac, expo) : Nat × Nat × Int :=
    if m == 0 then (0, 0, 0)
    else
      -- normalise to a leading bit at position 52, or keep the smallest exponent
      let shift := 53 - bitLength m
      if e - shift < -1074 then (0, m, -1022)
      else
        let mm := m * Nat.pow 2 shift
        (1, mm % Nat.pow 2 52, e - shift + 52)
  let (lead, digits) : Nat × String := match places with
    | none =>
      let full := hexPaddedDigits 13 frac
      (lead, String.ofList (full.toList.reverse.dropWhile (· == '0')).reverse)
    | some p =>
      if p ≥ 13 then (lead, hexPaddedDigits 13 frac ++ String.ofList (List.replicate (p - 13) '0'))
      else
        let total := lead * Nat.pow 2 52 + frac
        let unit := Nat.pow 2 (4 * (13 - p))
        let r := roundHalfEven total unit
        let lead' := r / Nat.pow 2 (4 * p)
        (lead', if p == 0 then "" else hexPaddedDigits p (r % Nat.pow 2 (4 * p)))
  let body := "0x" ++ toString lead ++ (if digits.isEmpty && !point then "" else ".") ++ digits ++ "p" ++
    (if expo < 0 then "-" else "+") ++ toString expo.natAbs
  if upper then body.toUpper else body

/-- How a number is written: the conversion letter (`f F e E g G a A`), flags, width and
precision. -/
structure FloatSpec where
  conv : Char
  leftAlign : Bool := false
  plus : Bool := false
  space : Bool := false
  alternate : Bool := false
  zero : Bool := false
  width : Nat := 0
  precision : Option Nat := none
  deriving Repr

/-- A number's text padded to a spec's width: on the right when left-aligned, else with
zeros after the sign and hexadecimal mark (for finite values), else with blanks. -/
def FloatSpec.pad (spec : FloatSpec) (sign body : String) (finite : Bool) : String :=
  let text := sign ++ body
  if text.length ≥ spec.width then text
  else
    let fill := spec.width - text.length
    if spec.leftAlign then text ++ String.ofList (List.replicate fill ' ')
    else if spec.zero && finite then
      -- zeros go after the sign and after the hexadecimal mark
      let lead := if body.startsWith "0x" || body.startsWith "0X" then sign ++ (body.take 2).toString else sign
      lead ++ String.ofList (List.replicate fill '0') ++ (text.drop lead.length).toString
    else String.ofList (List.replicate fill ' ') ++ text

/-- The sign a spec writes before a number. -/
def FloatSpec.signText (spec : FloatSpec) (negative : Bool) : String :=
  if negative then "-" else if spec.plus then "+" else if spec.space then " " else ""

/-- The digits of a finite magnitude `n / d` in a decimal form of a spec (`f`, `e`, `g`). -/
def FloatSpec.decimalBody (spec : FloatSpec) (n d : Nat) : String :=
  let upper := spec.conv.isUpper
  let p := spec.precision.getD 6
  let lower := Char.ofNat (spec.conv.toNat ||| 32)
  if lower == 'f' then fixedForm n d p spec.alternate
  else if lower == 'e' then scientificForm n d p spec.alternate upper
  else generalForm n d p spec.alternate upper

/-- The text of a binary64 value written as a spec says. -/
def FloatSpec.render (spec : FloatSpec) (v : Binary64) : String :=
  let upper := spec.conv.isUpper
  let (body, finite) : String × Bool := match v with
    | .nan _ => (if upper then "NAN" else "nan", false)
    | .infinite _ => (if upper then "INF" else "inf", false)
    | .finite _ m e =>
      let (n, d) := v.ratio
      let lower := Char.ofNat (spec.conv.toNat ||| 32)
      if lower == 'a' then (hexForm m e spec.precision spec.alternate upper, true)
      else (spec.decimalBody n d, true)
  spec.pad (spec.signText v.negative) body finite

/-- The text of an exact number `±n / d` written in a decimal form of a spec. -/
def FloatSpec.renderExact (spec : FloatSpec) (negative : Bool) (n d : Nat) : String :=
  spec.pad (spec.signText negative) (spec.decimalBody n d) true

/-- The outcome of reading a number: the value, how many characters were read (zero
when no number starts the text), and whether the value was out of range. -/
structure FloatRead where
  value : Binary64
  consumed : Nat
  outOfRange : Bool := false
  deriving Repr

/-- Whether a character is a blank the reader skips. -/
def isSpaceChar (c : Char) : Bool :=
  c == ' ' || c == '\t' || c == '\n' || c == '\x0b' || c == '\x0c' || c == '\r'

/-- The value of a hexadecimal digit. -/
def hexDigit? (c : Char) : Option Nat :=
  if c.isDigit then some (c.toNat - 48)
  else if 'a' ≤ c && c ≤ 'f' then some (c.toNat - 87)
  else if 'A' ≤ c && c ≤ 'F' then some (c.toNat - 55)
  else none

/-- Whether a text starts with a word, ignoring case. -/
def startsWithWord (cs : List Char) (word : String) : Bool :=
  (cs.take word.length).map lowerAscii == word.toList

/-- The digits of a mantissa in a base: the number they make, how many digits came after
the point, how many characters were read, and whether there was a digit at all. -/
def mantissaDigits (base : Nat) : List Char → Nat → Nat → Nat → Bool → Bool → Nat × Nat × Nat × Bool
  | [], acc, after, used, _, seen => (acc, after, used, seen)
  | c :: rest, acc, after, used, point, seen =>
    match hexDigit? c with
    | some v =>
      if v < base then mantissaDigits base rest (acc * base + v) (if point then after + 1 else after) (used + 1) point true
      else (acc, after, used, seen)
    | none =>
      if c == '.' && !point then mantissaDigits base rest acc after (used + 1) true seen
      else (acc, after, used, seen)

/-- An exponent after its letter: its value and how many characters it took, or nothing
when no digits follow. -/
def exponentDigits (cs : List Char) : Option (Int × Nat) :=
  let (neg, body, signLen) := match cs with
    | '-' :: r => (true, r, 1)
    | '+' :: r => (false, r, 1)
    | r => (false, r, 0)
  let ds := body.takeWhile Char.isDigit
  if ds.isEmpty then none
  else
    -- exponents beyond any range are capped; their value is infinite or zero anyway
    let v : Nat := min (ds.foldl (fun acc d => acc * 10 + (d.toNat - 48)) 0) 100000
    some (if neg then -(v : Int) else (v : Int), signLen + ds.length)

/-- A finite value from its exact magnitude `num / den`, with a range check. -/
def finiteValue (negative : Bool) (num den : Nat) : Binary64 × Bool :=
  match roundBinary64 num den with
  | some (m, e) => (.finite negative m e, m == 0 && num != 0)
  | none => (.infinite negative, true)

/-- Read a number from the start of a text, as described above. -/
def readFloat (s : String) : FloatRead :=
  let all := s.toList
  let cs := all.dropWhile isSpaceChar
  let blanks := all.length - cs.length
  let (negative, cs, signLen) := match cs with
    | '-' :: r => (true, r, 1)
    | '+' :: r => (false, r, 1)
    | r => (false, r, 0)
  let lead := blanks + signLen
  if startsWithWord cs "infinity" then { value := .infinite negative, consumed := lead + 8 }
  else if startsWithWord cs "inf" then { value := .infinite negative, consumed := lead + 3 }
  else if startsWithWord cs "nan" then
    -- an optional tag of letters, digits and underscores in parentheses
    let rest := cs.drop 3
    let tagLen := match rest with
      | '(' :: more =>
        let body := more.takeWhile fun c => c.isAlphanum || c == '_'
        if (more.drop body.length).head? == some ')' then body.length + 2 else 0
      | _ => 0
    { value := .nan negative, consumed := lead + 3 + tagLen }
  else
    let hex := match cs with
      | '0' :: x :: r => (x == 'x' || x == 'X') && (match r with
        | c :: more => (hexDigit? c).isSome || (c == '.' && (more.head?.bind hexDigit?).isSome)
        | [] => false)
      | _ => false
    if hex then
      let body := cs.drop 2
      let (acc, after, used, _) := mantissaDigits 16 body 0 0 0 false false
      let rest := body.drop used
      let (expo, expoLen) := match rest with
        | p :: more => if p == 'p' || p == 'P' then
            match exponentDigits more with
            | some (x, n) => (x, n + 1)
            | none => (0, 0)
          else (0, 0)
        | [] => (0, 0)
      let shift : Int := expo - 4 * (after : Int)
      let size : Int := (bitLength acc : Int) + shift
      let (value, range) :=
        if acc == 0 then (.finite negative 0 0, false)
        else if size > 1100 then (.infinite negative, true)
        else if size < -1200 then (.finite negative 0 0, true)
        else
          let (num, den) := scaled acc shift
          finiteValue negative num den
      { value, consumed := lead + 2 + used + expoLen, outOfRange := range }
    else
      let (acc, after, used, seen) := mantissaDigits 10 cs 0 0 0 false false
      if !seen then { value := .finite false 0 0, consumed := 0 }
      else
        let rest := cs.drop used
        let (expo, expoLen) := match rest with
          | e :: more => if e == 'e' || e == 'E' then
              match exponentDigits more with
              | some (x, n) => (x, n + 1)
              | none => (0, 0)
            else (0, 0)
          | [] => (0, 0)
        let shift : Int := expo - (after : Int)
        let size : Int := (decimalLength acc : Int) + shift
        let (value, range) :=
          if acc == 0 then (.finite negative 0 0, false)
          else if size > 330 then (.infinite negative, true)
          else if size < -360 then (.finite negative 0 0, true)
          else
            let (num, den) := scaled10 acc shift
            finiteValue negative num den
        { value, consumed := lead + used + expoLen, outOfRange := range }

end PseudoTerm.Text
