import PseudoTerm.Text.FloatText

/-!
# Numbers of the awk language

Numbers are binary64 values.  They are read from text the way the C library reads a
number at the start of a string (blanks, a sign, digits, a point, an exponent, also
`inf`, `nan` and hexadecimal), and a string is numeric when such a number is all of it
apart from blanks around it.

A number is written as an integer when it is one (and within 64-bit integers), else in
the `%.6g` style of the output format.
-/

namespace PseudoTerm.Awk

open PseudoTerm.Text

/-- The binary64 value of a machine float. -/
def ofFloat (x : Float) : Binary64 :=
  let bits : Nat := x.toBits.toNat
  let negative : Bool := bits ≥ Nat.pow 2 63
  let expo : Nat := (bits / Nat.pow 2 52) % 2048
  let frac : Nat := bits % Nat.pow 2 52
  if expo == 2047 then (if frac == 0 then .infinite negative else .nan negative)
  else if expo == 0 then .finite negative frac (-1074)
  else .finite negative (frac + Nat.pow 2 52) ((expo : Int) - 1075)

/-- The number of bits of a natural number. -/
def bitCount (n : Nat) : Nat := (Nat.toDigits 2 n).length

/-- The machine float of a binary64 value (one that fits, as read values do). -/
def toFloat (v : Binary64) : Float :=
  let sign : Nat := if v.negative then Nat.pow 2 63 else 0
  match v with
  | .nan _ => Float.ofBits (UInt64.ofNat (sign + 2047 * Nat.pow 2 52 + Nat.pow 2 51))
  | .infinite _ => Float.ofBits (UInt64.ofNat (sign + 2047 * Nat.pow 2 52))
  | .finite _ m e =>
    if m == 0 then Float.ofBits (UInt64.ofNat sign)
    else
      let len := bitCount m
      let top : Int := e + (len : Int) - 1
      if top < -1022 then
        -- a subnormal value: its significand counts units of 2 ^ -1074
        let shift := e + 1074
        let frac := if shift ≥ 0 then m * Nat.pow 2 shift.toNat else m / Nat.pow 2 (-shift).toNat
        Float.ofBits (UInt64.ofNat (sign + frac))
      else if top > 1023 then Float.ofBits (UInt64.ofNat (sign + 2047 * Nat.pow 2 52))
      else
        let full := if len ≤ 53 then m * Nat.pow 2 (53 - len) else m / Nat.pow 2 (len - 53)
        Float.ofBits (UInt64.ofNat (sign + (top + 1023).toNat * Nat.pow 2 52 + (full - Nat.pow 2 52)))

/-- The number at the start of a text, and how many characters it took (zero when none). -/
def leadingNumber (s : String) : Float × Nat :=
  let r := readFloat s
  if r.consumed == 0 then (0, 0) else (toFloat r.value, r.consumed)

/-- The numeric value of a string: its leading number, or zero. -/
def numberOf (s : String) : Float := (leadingNumber s).1

/-- Whether a character is a blank around a number. -/
def blankChar (c : Char) : Bool := c == ' ' || c == '\t' || c == '\n'

/-- Whether a string is numeric: a number and nothing else but blanks around it. -/
def looksNumeric (s : String) : Bool :=
  let t := String.ofList ((s.toList.dropWhile blankChar).reverse.dropWhile blankChar).reverse
  if t.isEmpty then false
  else
    let (_, n) := leadingNumber t
    n == t.length

/-- The integer a float truncates to. -/
def truncate (x : Float) : Int :=
  match ofFloat x with
  | .finite negative m e =>
    let mag : Nat := if e ≥ 0 then m * Nat.pow 2 e.toNat else m / Nat.pow 2 (-e).toNat
    if negative then -(mag : Int) else mag
  | _ => 0

/-- Whether a float is an integer within 64-bit integers. -/
def integral (x : Float) : Bool :=
  match ofFloat x with
  | .finite _ m e => (e ≥ 0 || m % Nat.pow 2 (-e).toNat == 0) && (truncate x).natAbs < Nat.pow 2 63
  | _ => false

/-- A number in a `printf` style for floats such as `%.6g`; none when the style is not one. -/
def formatFloat (style : String) (x : Float) : Option String :=
  match style.toList with
  | '%' :: rest =>
    let flags := rest.takeWhile fun c => c == '-' || c == '+' || c == ' ' || c == '#' || c == '0'
    let rest := rest.drop flags.length
    let width := rest.takeWhile Char.isDigit
    let rest := rest.drop width.length
    let (precision, rest) := match rest with
      | '.' :: more =>
        let p := more.takeWhile Char.isDigit
        (some ((String.ofList p).toNat?.getD 0), more.drop p.length)
      | _ => (none, rest)
    match rest with
    | [conv] =>
      if "eEfFgG".toList.contains conv then
        let spec : FloatSpec :=
          { conv, leftAlign := flags.contains '-', plus := flags.contains '+',
            space := flags.contains ' ', alternate := flags.contains '#', zero := flags.contains '0',
            width := (String.ofList width).toNat?.getD 0, precision }
        some (spec.render (ofFloat x))
      else none
    | _ => none
  | _ => none

/-- A number as text: an integer as one, anything else in a style (`%.6g` when the style
is not one for floats). -/
def showNumber (style : String) (x : Float) : String :=
  if integral x then toString (truncate x)
  else
    match formatFloat style x with
    | some s => s
    | none => (formatFloat "%.6g" x).getD ""

end PseudoTerm.Awk
