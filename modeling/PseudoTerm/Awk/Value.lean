import PseudoTerm.Awk.Number
import PseudoTerm.Shell.Format

/-!
# Values of the awk language

A value is a number, a string, a string read from input (which is a number too when it
looks like one), or nothing yet (the empty string and zero at once).  Numbers become
strings with `CONVFMT` (with `OFMT` when printed), integers always as integers.

Two values compare as numbers when both are numbers, input that looks numeric, or
nothing; otherwise as strings, byte by byte.

`printf` formats follow the C library: flags `- + space # 0`, a width and a precision
(`*` takes them from the arguments), and the conversions `c d i o x X u e E f F g G s %`.
-/

namespace PseudoTerm.Awk

open PseudoTerm.Text

/-- A value. -/
inductive Value where
  | num (v : Float)
  | str (s : String)
  /-- A string read from input. -/
  | strnum (s : String)
  | uninit
  deriving Repr, Inhabited

namespace Value

/-- The number of a value. -/
def toNum : Value → Float
  | num v => v
  | str s | strnum s => numberOf s
  | uninit => 0

/-- The string of a value, numbers written with a format. -/
def toStr (fmt : String) : Value → String
  | num v => showNumber fmt v
  | str s | strnum s => s
  | uninit => ""

/-- Whether a value counts as a number in comparisons. -/
def numeric : Value → Bool
  | num _ | uninit => true
  | strnum s => looksNumeric s
  | str _ => false

/-- The truth of a value. -/
def truth : Value → Bool
  | num v => v != 0
  | str s => !s.isEmpty
  | strnum s => if looksNumeric s then numberOf s != 0 else !s.isEmpty
  | uninit => false

/-- Compare two values: as numbers when both are numeric, else as strings. -/
def compareWith (fmt : String) (a b : Value) : Ordering :=
  if a.numeric && b.numeric then
    let x := a.toNum
    let y := b.toNum
    if x < y then .lt else if x > y then .gt else .eq
  else compare (a.toStr fmt) (b.toStr fmt)

end Value

/-- A string of bytes as a string of one character a byte. -/
def ofBytes (b : ByteArray) : String := String.ofList (b.toList.map fun x => Char.ofNat x.toNat)

/-- The bytes of a string of one character a byte. -/
def toBytes (s : String) : ByteArray := ByteArray.mk (s.toList.map fun c => c.toNat.toUInt8).toArray

/-- Text as one character a byte. -/
def ofText (s : String) : String := ofBytes s.toUTF8

/-- Text from one character a byte. -/
def toText (s : String) : String := String.fromUTF8? (toBytes s) |>.getD s

/-- The exact remainder of a division, with the sign of the dividend. -/
def remainder (x y : Float) : Float :=
  if integral x && integral y && y != 0 then Float.ofInt ((truncate x).tmod (truncate y))
  else
  match ofFloat x, ofFloat y with
  | .finite nx _ _, .finite _ my _ =>
    if my == 0 then 0 / 0
    else
      let (a, b) := (ofFloat x).ratio
      let (c, d) := (ofFloat y).ratio
      -- |x| mod |y| = (a/b) - floor((a d) / (b c)) * (c/d)
      let q := (a * d) / (b * c)
      let num := a * d - q * b * c
      let den := b * d
      match roundBinary64 num den with
      | some (m, e) => toFloat (.finite nx m e)
      | none => 0 / 0
  | .finite _ _ _, .infinite _ => x
  | _, _ => 0 / 0

/-- An integer as a float. -/
def ofInt (i : Int) : Float := Float.ofInt i

/-- The integer a float stands for, within 64-bit integers. -/
def clampInt (x : Float) : Int :=
  if x.isNaN then 0
  else
    let t := truncate x
    if x.isInf then (if x < 0 then -(Int.pow 2 63) else Int.pow 2 63 - 1)
    else max (-(Int.pow 2 63)) (min (Int.pow 2 63 - 1) t)

/-- A conversion of a `printf` format. -/
structure Conversion where
  spec : Shell.Format.Spec
  conv : Char

/-- A problem while formatting. -/
inductive FormatProblem where
  | tooFewArguments
  deriving Inhabited

/-- Pad a string to a width. -/
def padText (spec : Shell.Format.Spec) (s : String) : String :=
  if s.length ≥ spec.width then s
  else
    let fill := String.ofList (List.replicate (spec.width - s.length) ' ')
    if spec.leftAlign then s ++ fill else fill ++ s

/-- Format one value by a conversion. -/
def formatOne (c : Conversion) (fmt : String) (v : Value) : String :=
  let spec := c.spec
  match c.conv with
  | 'c' =>
    let s := match v with
      | .num x => (Char.ofNat ((clampInt x) % 256).toNat).toString
      | other => ((other.toStr fmt).toList.head?.map toString).getD ""
    padText spec s
  | 'd' | 'i' =>
    ofBytes (ByteArray.mk (Shell.Format.integer spec 'd' (clampInt v.toNum)).toArray)
  | 'o' | 'x' | 'X' | 'u' =>
    ofBytes (ByteArray.mk (Shell.Format.integer spec c.conv (clampInt v.toNum)).toArray)
  | 'e' | 'E' | 'f' | 'F' | 'g' | 'G' =>
    let fs : FloatSpec := { conv := c.conv, leftAlign := spec.leftAlign, plus := spec.plus,
                            space := spec.space, alternate := spec.alternate, zero := spec.zero,
                            width := spec.width, precision := spec.precision }
    fs.render (ofFloat v.toNum)
  | _ =>
    let s := v.toStr fmt
    let s := match spec.precision with
      | some p => (s.take p).toString
      | none => s
    padText spec s

/-- Read the flags of a conversion. -/
def readFlags : List Char → Shell.Format.Spec → Nat → Shell.Format.Spec × List Char
  | cs, spec, 0 => (spec, cs)
  | c :: rest, spec, fuel + 1 =>
    if c == '-' then readFlags rest { spec with leftAlign := true } fuel
    else if c == '+' then readFlags rest { spec with plus := true } fuel
    else if c == ' ' then readFlags rest { spec with space := true } fuel
    else if c == '#' then readFlags rest { spec with alternate := true } fuel
    else if c == '0' then readFlags rest { spec with zero := true } fuel
    else (spec, c :: rest)
  | [], spec, _ => (spec, [])

/-- Format values by a `printf` format; too few values is a problem. -/
def format (fmtText : String) (convfmt : String) (args : List Value) : Except FormatProblem String :=
  go fmtText.toList args "" (fmtText.length + 1)
where
  /-- Character after character of the format. -/
  go : List Char → List Value → String → Nat → Except FormatProblem String
    | _, _, out, 0 => pure out
    | [], _, out, _ => pure out
    | '%' :: '%' :: rest, args, out, fuel + 1 => go rest args (out.push '%') fuel
    | '%' :: rest, args, out, fuel + 1 => do
      let (spec, rest) := readFlags rest {} (rest.length + 1)
      -- the width, from the arguments with `*`
      let (spec, rest, args) ← match rest with
        | '*' :: more =>
          match args with
          | a :: others =>
            let w := clampInt a.toNum
            let spec := if w < 0 then { spec with leftAlign := true, width := w.natAbs } else { spec with width := w.toNat }
            pure (spec, more, others)
          | [] => throw .tooFewArguments
        | _ =>
          let ds := rest.takeWhile Char.isDigit
          pure ({ spec with width := (String.ofList ds).toNat?.getD 0 }, rest.drop ds.length, args)
      let (spec, rest, args) ← match rest with
        | '.' :: '*' :: more =>
          match args with
          | a :: others =>
            let p := clampInt a.toNum
            pure ({ spec with precision := if p < 0 then none else some p.toNat }, more, others)
          | [] => throw .tooFewArguments
        | '.' :: more =>
          let ds := more.takeWhile Char.isDigit
          pure ({ spec with precision := some ((String.ofList ds).toNat?.getD 0) }, more.drop ds.length, args)
        | _ => pure (spec, rest, args)
      -- length modifiers are read and dropped
      let rest := rest.dropWhile fun c => c == 'l' || c == 'h' || c == 'L' || c == 'q' || c == 'j' || c == 'z'
      match rest with
      | conv :: more =>
        if "cdiouxXeEfFgGs".toList.contains conv then
          match args with
          | a :: others => go more others (out ++ formatOne { spec, conv } convfmt a) fuel
          | [] => throw .tooFewArguments
        else go more args (out ++ "%" ++ conv.toString) fuel
      | [] => pure (out.push '%')
    | c :: rest, args, out, fuel + 1 => go rest args (out.push c) fuel

end PseudoTerm.Awk
