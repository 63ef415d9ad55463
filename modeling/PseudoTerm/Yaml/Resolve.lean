import PseudoTerm.Text.Decimal

/-!
# Resolving plain scalars

A plain scalar's type is read from its text: the null, boolean and special float
spellings are looked up, then integers (decimal, or with a `0x`, `0o`, `0b` or leading
`0` base prefix, underscores ignored), decimal floats, and dates.  Anything else is a
string.  A float that overflows the binary64 range is not a float, so it stays a string.

Floats keep their binary64 value, since converting them to an integer truncates that
value and not the decimal text.
-/

namespace PseudoTerm.Yaml

open PseudoTerm.Text

/-- The long form of the standard tags. -/
def standardTagPrefix : String := "tag:yaml.org,2002:"

def nullTag : String := "!!null"
def boolTag : String := "!!bool"
def strTag : String := "!!str"
def intTag : String := "!!int"
def floatTag : String := "!!float"
def timestampTag : String := "!!timestamp"
def seqTag : String := "!!seq"
def mapTag : String := "!!map"
def mergeTag : String := "!!merge"
def binaryTag : String := "!!binary"

/-- A standard tag in its short form. -/
def shortTag (tag : String) : String :=
  if tag.startsWith standardTagPrefix then
    "!!" ++ String.ofList (tag.toList.drop standardTagPrefix.length)
  else tag

/-- A binary64 value. -/
inductive Real64 where
  | nan
  | infinite (negative : Bool)
  | finite (negative : Bool) (magnitude : Binary)
  deriving DecidableEq, Repr

/-- The value a scalar resolves to. -/
inductive Resolved where
  | null
  | bool (b : Bool)
  /-- An integer in the range of 64-bit signed or unsigned integers. -/
  | int (n : Int)
  | float (f : Real64)
  | text (s : String)
  | timestamp
  deriving DecidableEq, Repr

/-- The fixed spellings. -/
def fixedSpellings : List (String × String × Resolved) :=
  [("true", boolTag, .bool true), ("True", boolTag, .bool true), ("TRUE", boolTag, .bool true),
   ("false", boolTag, .bool false), ("False", boolTag, .bool false), ("FALSE", boolTag, .bool false),
   ("", nullTag, .null), ("~", nullTag, .null), ("null", nullTag, .null), ("Null", nullTag, .null),
   ("NULL", nullTag, .null),
   (".nan", floatTag, .float .nan), (".NaN", floatTag, .float .nan), (".NAN", floatTag, .float .nan),
   (".inf", floatTag, .float (.infinite false)), (".Inf", floatTag, .float (.infinite false)),
   (".INF", floatTag, .float (.infinite false)),
   ("+.inf", floatTag, .float (.infinite false)), ("+.Inf", floatTag, .float (.infinite false)),
   ("+.INF", floatTag, .float (.infinite false)),
   ("-.inf", floatTag, .float (.infinite true)), ("-.Inf", floatTag, .float (.infinite true)),
   ("-.INF", floatTag, .float (.infinite true)),
   ("<<", mergeTag, .text "<<")]

/-- The kind of text a first character hints at: `M` for a fixed spelling, `D` for a
digit, `S` for a sign, `.` for a point, and nothing otherwise. -/
def hintOf (c : Char) : Option Char :=
  if c.isDigit then some 'D'
  else if c == '+' || c == '-' then some 'S'
  else if "yYnNtTfFoO~".toList.contains c then some 'M'
  else if c == '.' then some '.'
  else none

/-- The value of a digit in a base, if it is one. -/
def digitIn (base : Nat) (c : Char) : Option Nat :=
  let v := if c.isDigit then c.toNat - 48
    else if 'a' ≤ c && c ≤ 'z' then c.toNat - 87
    else if 'A' ≤ c && c ≤ 'Z' then c.toNat - 55
    else 99
  if v < base then some v else none

/-- The value of a nonempty run of digits in a base. -/
def digitsValue (base : Nat) (cs : List Char) : Option Nat :=
  if cs.isEmpty then none
  else cs.foldlM (fun acc c => (digitIn base c).map (acc * base + ·)) 0

/-- The magnitude of an unsigned integer with an optional base prefix. -/
def prefixedValue (cs : List Char) : Option Nat :=
  match cs with
  | '0' :: 'x' :: rest | '0' :: 'X' :: rest => digitsValue 16 rest
  | '0' :: 'o' :: rest | '0' :: 'O' :: rest => digitsValue 8 rest
  | '0' :: 'b' :: rest | '0' :: 'B' :: rest => digitsValue 2 rest
  | '0' :: rest@(_ :: _) => digitsValue 8 rest
  | _ => digitsValue 10 cs

/-- A signed 64-bit integer with an optional sign and base prefix. -/
def signedInteger? (s : String) : Option Int :=
  let (negative, body) := match s.toList with
    | '-' :: rest => (true, rest)
    | '+' :: rest => (false, rest)
    | cs => (false, cs)
  match prefixedValue body with
  | some v =>
    if negative then (if v ≤ Nat.pow 2 63 then some (-(v : Int)) else none)
    else if v < Nat.pow 2 63 then some v else none
  | none => none

/-- An unsigned 64-bit integer with an optional base prefix and no sign. -/
def unsignedInteger? (s : String) : Option Nat :=
  match prefixedValue s.toList with
  | some v => if v < Nat.pow 2 64 then some v else none
  | none => none

/-- The parts of a decimal float: sign, digits, fraction digits and exponent. -/
structure DecimalText where
  negative : Bool
  whole : List Char
  fraction : List Char
  exponent : Int

/-- Split `[-+]?(\.[0-9]+|[0-9]+(\.[0-9]*)?)([eE][-+]?[0-9]+)?`. -/
def decimalText? (s : String) : Option DecimalText :=
  let (negative, cs) := match s.toList with
    | '-' :: rest => (true, rest)
    | '+' :: rest => (false, rest)
    | cs => (false, cs)
  let whole := cs.takeWhile Char.isDigit
  let cs := cs.drop whole.length
  let (fraction, hasPoint, cs) := match cs with
    | '.' :: rest => (rest.takeWhile Char.isDigit, true, rest.drop (rest.takeWhile Char.isDigit).length)
    | _ => ([], false, cs)
  let mantissaOk := if whole.isEmpty then hasPoint && !fraction.isEmpty else true
  let expo : Option Int := match cs with
    | [] => some 0
    | e :: rest =>
      if e == 'e' || e == 'E' then
        let (eneg, ds) := match rest with
          | '-' :: r => (true, r)
          | '+' :: r => (false, r)
          | r => (false, r)
        if !ds.isEmpty && ds.all Char.isDigit then
          let v := min (ds.foldl (fun acc d => acc * 10 + (d.toNat - 48)) (0 : Nat)) 100000
          some (if eneg then -(v : Int) else v)
        else none
      else none
  if mantissaOk then expo.map fun e => ⟨negative, whole, fraction, e⟩ else none

/-- The binary64 value of a decimal float, or nothing when it overflows. -/
def DecimalText.value? (d : DecimalText) : Option Real64 :=
  let digits := (d.whole ++ d.fraction).dropWhile (· == '0')
  let m := digits.foldl (fun acc c => acc * 10 + (c.toNat - 48)) 0
  let e : Int := d.exponent - d.fraction.length
  if m == 0 then some (.finite d.negative ⟨0, 0⟩)
  else if (digits.length : Int) + e > 310 then none
  else if (digits.length : Int) + e < -400 then some (.finite d.negative ⟨0, 0⟩)
  else
    let (num, den) := if e ≥ 0 then (m * Nat.pow 10 e.toNat, 1) else (m, Nat.pow 10 (-e).toNat)
    let b := nearestBinary num den
    if b.exponent + 53 > 1024 then none else some (.finite d.negative b)

/-- The number of days in a month. -/
def daysInMonth (year month : Nat) : Nat :=
  if month == 2 then
    if (year % 4 == 0 && year % 100 != 0) || year % 400 == 0 then 29 else 28
  else if month == 4 || month == 6 || month == 9 || month == 11 then 30 else 31

/-- One or two digits. -/
def smallNumber (cs : List Char) : Option (Nat × List Char) :=
  match cs with
  | a :: b :: rest =>
    if a.isDigit then
      if b.isDigit then some ((a.toNat - 48) * 10 + (b.toNat - 48), rest)
      else some (a.toNat - 48, b :: rest)
    else none
  | [a] => if a.isDigit then some (a.toNat - 48, []) else none
  | [] => none

/-- A date `YYYY-M-D`, with what follows it. -/
def datePart (cs : List Char) : Option (List Char) := do
  let year := cs.take 4
  if year.length != 4 || !year.all Char.isDigit then none
  let y := year.foldl (fun acc c => acc * 10 + (c.toNat - 48)) 0
  let rest := cs.drop 4
  let rest ← match rest with | '-' :: r => some r | _ => none
  let (month, rest) ← smallNumber rest
  let rest ← match rest with | '-' :: r => some r | _ => none
  let (day, rest) ← smallNumber rest
  if month < 1 || month > 12 || day < 1 || day > daysInMonth y month then none
  some rest

/-- A time `h:m:s` with an optional fraction, with what follows it. -/
def timePart (cs : List Char) : Option (List Char) := do
  let (h, rest) ← smallNumber cs
  let rest ← match rest with | ':' :: r => some r | _ => none
  let (m, rest) ← smallNumber rest
  let rest ← match rest with | ':' :: r => some r | _ => none
  let (s, rest) ← smallNumber rest
  if h ≥ 24 || m ≥ 60 || s ≥ 60 then none
  match rest with
  | c :: d :: more =>
    if (c == '.' || c == ',') && d.isDigit then some (more.dropWhile Char.isDigit) else some rest
  | _ => some rest

/-- A zone `Z` or `±hh:mm`. -/
def zonePart (cs : List Char) : Option (List Char) :=
  match cs with
  | 'Z' :: rest => some rest
  | s :: h1 :: h2 :: ':' :: m1 :: m2 :: rest =>
    if (s == '+' || s == '-') && [h1, h2, m1, m2].all Char.isDigit then
      let h := (h1.toNat - 48) * 10 + (h2.toNat - 48)
      let m := (m1.toNat - 48) * 10 + (m2.toNat - 48)
      if h > 24 || m > 60 then none else some rest
    else none
  | _ => none

/-- Whether a text is a date, or a date and time, in one of the accepted layouts. -/
def isTimestamp (s : String) : Bool :=
  let cs := s.toList
  let lead := cs.takeWhile Char.isDigit
  if lead.length != 4 || cs.length == 4 || cs.getD 4 ' ' != '-' then false
  else
    let withZone (sep : Char) : Bool :=
      match datePart cs with
      | some (c :: rest) =>
        c == sep && (match timePart rest with
          | some r => (zonePart r).any List.isEmpty
          | none => false)
      | _ => false
    -- the space between date and time may be a run of spaces
    let plainTime : Bool :=
      match datePart cs with
      | some (' ' :: rest) => (timePart (rest.dropWhile (· == ' '))).any List.isEmpty
      | _ => false
    withZone 'T' || withZone 't' || plainTime || (datePart cs).any List.isEmpty

/-- Whether every underscore of a number stands between two digits (a sign may come
first). -/
def underscoresBetweenDigits (cs : List Char) : Bool :=
  let body := match cs with
    | '-' :: rest | '+' :: rest => rest
    | _ => cs
  -- the class of the last character: 0 start, 1 digit, 2 underscore, 3 other
  let last := body.foldl (fun (acc : Option Nat) c =>
    acc.bind fun saw =>
      if c.isDigit then some 1
      else if c == '_' then (if saw == 1 then some 2 else none)
      else if saw == 2 then none
      else some 3) (some 0)
  match last with
  | some saw => saw != 2
  | none => false

/-- Resolve a plain text by its spelling alone. -/
def resolvePlain (tag s : String) : String × Resolved :=
  let hint := match s.toList with
    | [] => some 'N'
    | c :: _ => hintOf c
  match hint with
  | none => (strTag, .text s)
  | some h =>
    match fixedSpellings.find? (·.1 == s) with
    | some (_, t, v) => (t, v)
    | none =>
      if h == '.' then
        -- underscores may stand between digits
        let bare := String.ofList (s.toList.filter (· != '_'))
        match if underscoresBetweenDigits s.toList then (decimalText? bare).bind DecimalText.value? else none with
        | some f => (floatTag, .float f)
        | none => (strTag, .text s)
      else if h == 'D' || h == 'S' then
        if (tag == "" || tag == timestampTag) && isTimestamp s then (timestampTag, .timestamp)
        else
          let bare := String.ofList (s.toList.filter (· != '_'))
          match signedInteger? bare with
          | some n => (intTag, .int n)
          | none =>
            match unsignedInteger? bare with
            | some n => (intTag, .int n)
            | none =>
              match (decimalText? bare).bind DecimalText.value? with
              | some f => (floatTag, .float f)
              | none => (strTag, .text s)
      else (strTag, .text s)

/-- Whether a tag is resolved from the text. -/
def resolvableTag (tag : String) : Bool :=
  [("" : String), strTag, boolTag, intTag, floatTag, timestampTag, nullTag].contains tag

/-- The binary64 value of an integer (exact for the small ones used here). -/
def Real64.ofInt (n : Int) : Real64 :=
  if n == 0 then .finite false ⟨0, 0⟩
  else .finite (n < 0) (nearestBinary n.natAbs 1)

/-- Resolve a scalar under its tag: a fixed tag other than the standard scalar tags keeps
the text; a standard tag must agree with what the text resolves to (an integer may stand
for a float). -/
def resolve (tag s : String) : Except String (String × Resolved) :=
  let tag := shortTag tag
  if !resolvableTag tag then .ok (tag, .text s)
  else
    let (rtag, value) :=
      if tag == strTag || tag == binaryTag then (strTag, Resolved.text s) else resolvePlain tag s
    if tag == "" || tag == rtag || tag == strTag || tag == binaryTag then .ok (rtag, value)
    else if tag == floatTag && rtag == intTag then
      match value with
      | .int n => .ok (floatTag, .float (Real64.ofInt n))
      | _ => .ok (rtag, value)
    else
      let found := shortTag rtag
      let wanted := shortTag tag
      .error s!"cannot decode {found} \x60{s}\x60 as a {wanted}"

end PseudoTerm.Yaml
