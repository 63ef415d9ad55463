import PseudoTerm.Programs.Tool
import PseudoTerm.Text.FloatText

/-!
# `seq`: numbers from a first to a last, by a step

The numbers are `FIRST`, `FIRST + STEP`, … up to `LAST` (down to it for a negative
step); `FIRST` and `STEP` default to 1.  They are written with as many decimals as the
first number or the step has (exponents counted), one per line or separated by `-s`;
`-w` pads them with zeros to the width of the widest of the first and last; `-f` gives a
format with one floating conversion (`%e`, `%f`, `%g`, `%a`).  A number past the last
that would be written as the last is written too.

The numbers are kept exactly, as fractions.
-/

namespace PseudoTerm.Programs

open PseudoTerm.Machine PseudoTerm.Text Tool

variable {μ : Type}

namespace Sequence

/-- An exact number: a fraction with a sign, or an infinity. -/
inductive Exact where
  | finite (num : Int) (den : Nat)
  | infinite (negative : Bool)
  deriving Repr, Inhabited

namespace Exact

/-- The sum of two numbers. -/
def add : Exact → Exact → Exact
  | finite a b, finite c d => finite (a * d + c * b) (b * d)
  | infinite n, _ => infinite n
  | _, infinite n => infinite n

/-- A number times a count. -/
def times (x : Exact) (k : Nat) : Exact :=
  match x with
  | finite a b => finite (a * k) b
  | infinite n => if k == 0 then finite 0 1 else infinite n

/-- Compare two numbers. -/
def cmp : Exact → Exact → Ordering
  | finite a b, finite c d => compare (a * d) (c * b)
  | infinite n, infinite m => if n == m then .eq else if n then .lt else .gt
  | infinite n, _ => if n then .lt else .gt
  | _, infinite m => if m then .gt else .lt

/-- Whether a number is below zero. -/
def negative : Exact → Bool
  | finite a _ => a < 0
  | infinite n => n

/-- Whether a number is zero. -/
def isZero : Exact → Bool
  | finite a _ => a == 0
  | infinite _ => false

/-- The nearest binary64 value. -/
def toBinary : Exact → Binary64
  | finite a b =>
    match roundBinary64 a.natAbs b with
    | some (m, e) => .finite (a < 0) m e
    | none => .infinite (a < 0)
  | infinite n => .infinite n

end Exact

/-- A decimal number read exactly: sign, digits, a fraction and an exponent. -/
def readDecimal (s : String) : Option Exact :=
  let cs := s.toList.dropWhile isSpaceChar
  let (neg, cs) := match cs with
    | '-' :: r => (true, r)
    | '+' :: r => (false, r)
    | r => (false, r)
  let whole := cs.takeWhile Char.isDigit
  let cs := cs.drop whole.length
  let (frac, cs) := match cs with
    | '.' :: r => (r.takeWhile Char.isDigit, r.drop (r.takeWhile Char.isDigit).length)
    | r => ([], r)
  let digitValue (ds : List Char) : Nat := ds.foldl (fun acc d => acc * 10 + (d.toNat - 48)) 0
  let exp : Int := match cs with
    | e :: r =>
      if e == 'e' || e == 'E' then
        match r with
        | '-' :: ds => -(digitValue (ds.takeWhile Char.isDigit) : Int)
        | '+' :: ds => digitValue (ds.takeWhile Char.isDigit)
        | ds => digitValue (ds.takeWhile Char.isDigit)
      else 0
    | [] => 0
  if whole.isEmpty && frac.isEmpty then none
  else
    let m : Int := digitValue (whole ++ frac)
    let m := if neg then -m else m
    let shift := exp - frac.length
    if shift ≥ 0 then some (.finite (m * Int.pow 10 shift.toNat) 1)
    else some (.finite m (Nat.pow 10 (-shift).toNat))

/-- A number given to `seq`: its value, and the width and decimals it is written with
(none when they cannot be told, for hexadecimal and infinite numbers). -/
structure Operand where
  value : Exact
  width : Nat := 0
  precision : Option Nat := none
  deriving Repr, Inhabited

/-- The count of characters before the first of some characters. -/
def spanUntil (cs : List Char) (stop : List Char) : Nat := (cs.takeWhile fun c => !stop.contains c).length

/-- Read a number argument, or the message refusing it. -/
def readOperand (arg : String) : Except String Operand := do
  let r := readFloat arg
  if r.consumed == 0 || r.consumed != arg.length then
    throw s!"invalid floating point argument: {mention arg}"
  if let .nan _ := r.value then
    throw s!"invalid 'not-a-number' argument: {mention arg}"
  let cs := arg.toList.dropWhile fun c => isSpaceChar c || c == '+'
  let hasPoint := cs.contains '.'
  let finite := match r.value with
    | .finite .. => true
    | _ => false
  let value : Exact := match readDecimal arg with
    | some v => if cs.contains 'x' || cs.contains 'X' then .finite 0 1 else v
    | none => .finite 0 1
  let value : Exact :=
    if cs.contains 'x' || cs.contains 'X' || !finite then
      match r.value with
      | .finite n m e =>
        let (p, q) := (Binary64.finite n m e).ratio
        .finite (if n then -(p : Int) else p) q
      | .infinite n => .infinite n
      | .nan _ => .finite 0 1
    else value
  let precision : Option Nat := if !hasPoint && !cs.contains 'p' then some 0 else none
  if cs.contains 'x' || cs.contains 'X' || !finite then
    return { value, width := 0, precision }
  let mut width : Int := cs.length
  let mut precision := precision
  let afterPoint := cs.dropWhile (· != '.')
  if hasPoint then
    let fractionLen := spanUntil afterPoint.tail ['e', 'E']
    precision := some fractionLen
    let beforePoint := cs.takeWhile (· != '.')
    width := width + (if fractionLen == 0 then -1
      else if beforePoint.isEmpty || !(beforePoint.getLast?.getD ' ').isDigit then 1 else 0)
  match cs.dropWhile (fun c => c != 'e' && c != 'E') with
  | _ :: expText =>
    let exponent : Int := (readDecimal (String.ofList (expText.takeWhile fun c => c.isDigit || c == '-' || c == '+'))).map
      (fun
        | .finite a _ => a
        | _ => 0) |>.getD 0
    let ePos := spanUntil cs ['e', 'E']
    precision := precision.map fun p => p + (if exponent < 0 then exponent.natAbs else 0)
    width := width - (cs.length - ePos : Nat)
    if exponent < 0 then
      if hasPoint then
        if ePos == spanUntil cs ['.'] + 1 then width := width + 1
      else width := width + 1
      width := width + exponent.natAbs
    else
      if hasPoint && precision == some 0 && exponent != 0 then width := width - 1
      width := width - (min (precision.getD 0 : Int) exponent)
  | [] => pure ()
  return { value, width := width.toNat, precision }

/-- A format with one floating conversion: the text before and after it, and the
conversion. -/
structure Layout where
  prefixText : String
  spec : FloatSpec
  suffixText : String

/-- The text of a format with `%%` read as `%`. -/
def unescapePercent (s : String) : String := s.replace "%%" "%"

/-- Read a `-f` format, or the message refusing it. -/
def readFormat (fmt : String) : Except String Layout := do
  let cs := fmt.toList
  -- the first % that does not start %%
  let rec findDirective : Nat → List Char → Nat → Option Nat
    | 0, _, _ => none
    | _, [], _ => none
    | fuel + 1, '%' :: '%' :: rest, i => findDirective fuel rest (i + 2)
    | _, '%' :: _, i => some i
    | fuel + 1, _ :: rest, i => findDirective fuel rest (i + 1)
  let start ← match findDirective cs.length cs 0 with
    | some i => pure i
    | none => throw s!"format {mention fmt} has no % directive"
  let body := cs.drop (start + 1)
  let flags := body.takeWhile fun c => "-+#0 '".toList.contains c
  let rest := body.drop flags.length
  let widthDigits := rest.takeWhile Char.isDigit
  let rest := rest.drop widthDigits.length
  let (precision, rest) := match rest with
    | '.' :: r =>
      let ds := r.takeWhile Char.isDigit
      (some (ds.foldl (fun acc (d : Char) => acc * 10 + (d.toNat - 48)) 0), r.drop ds.length)
    | r => (none, r)
  let rest := match rest with
    | 'L' :: r => r
    | r => r
  let (conv, after) ← match rest with
    | [] => throw s!"format {mention fmt} ends in %"
    | c :: r =>
      if "efgaEFGA".toList.contains c then pure (c, r)
      else throw s!"format {mention fmt} has unknown %{c} directive"
  if (findDirective after.length after 0).isSome then
    throw s!"format {mention fmt} has too many % directives"
  let spec : FloatSpec := {
    conv
    leftAlign := flags.contains '-'
    plus := flags.contains '+'
    space := flags.contains ' '
    alternate := flags.contains '#'
    zero := flags.contains '0'
    width := widthDigits.foldl (fun acc (d : Char) => acc * 10 + (d.toNat - 48)) 0
    precision }
  pure { prefixText := unescapePercent (String.ofList (cs.take start)), spec,
         suffixText := unescapePercent (String.ofList after) }

/-- A number written by a layout's conversion. -/
def Layout.number (l : Layout) (x : Exact) : String :=
  let lower := Char.ofNat (l.spec.conv.toNat ||| 32)
  match x with
  | .finite a b =>
    if lower == 'a' then l.spec.render x.toBinary else l.spec.renderExact (a < 0) a.natAbs b
  | .infinite _ => l.spec.render x.toBinary

/-- The default layout for the operands: their decimals, padded to equal width with
`-w`; the general form when the decimals cannot be told. -/
def defaultLayout (first step last : Operand) (equalWidth : Bool) : Layout :=
  match first.precision, step.precision, last.precision with
  | some pf, some ps, some pl =>
    let prec := max pf ps
    if equalWidth then
      let firstWidth := first.width + (prec - pf) + (if pf == 0 && prec > 0 then 1 else 0)
      let lastWidth := last.width + prec - pl + (if pl == 0 && prec > 0 then 1 else 0) -
        (if pl > 0 && prec == 0 then 1 else 0)
      { prefixText := "", suffixText := "",
        spec := { conv := 'f', zero := true, width := max firstWidth lastWidth, precision := some prec } }
    else { prefixText := "", suffixText := "", spec := { conv := 'f', precision := some prec } }
  | _, _, _ => { prefixText := "", suffixText := "", spec := { conv := 'g' } }

/-- Whether a number is past the last, going in the direction of the step. -/
def pastLast (step last x : Exact) : Bool :=
  if step.negative then x.cmp last == .lt else last.cmp x == .lt

/-- Write the numbers from `first` by `step` up to `last`, as a layout writes them, with
a separator between them, and the number past the last when it is written as the last. -/
def writeNumbers (l : Layout) (sep : String) (first step last : Exact) : Tool μ Unit := do
  if pastLast step last first then return
  say (l.prefixText ++ l.number first ++ l.suffixText)
  go 100000000000 1 first
  say "\n"
where
  /-- Write the next number while it is not past the last. -/
  go : Nat → Nat → Exact → Tool μ Unit
    | 0, _, _ => pure ()
    | fuel + 1, i, prev => do
      let x := first.add (step.times i)
      let text := l.number x
      if !pastLast step last x then
        say (sep ++ l.prefixText ++ text ++ l.suffixText)
        go fuel (i + 1) x
      else
        let same := match readDecimal text with
          | some v => v.cmp last == .eq
          | none => false
        if same && text != l.number prev then say (sep ++ l.prefixText ++ text ++ l.suffixText)

/-- The options of `seq`. -/
def options : List OptionDef :=
  [letterOption 'f' .required (some "format"), letterOption 's' .required (some "separator"),
   letterOption 'w' .none (some "equal-width")]

/-- Whether an argument is a negative number, which ends the options. -/
def negativeNumber (a : String) : Bool :=
  match a.toList with
  | '-' :: c :: _ => c.isDigit || c == '.'
  | _ => false

end Sequence

open Sequence in
/-- `seq`. -/
def seqProgram (inv : Invocation) : Prog μ Unit := Tool.run inv do
  let c := readCommandLine options (inv.args.drop 1) true negativeNumber
  checkOptions c
  let operands := c.operands
  let separator := (c.last? "s").getD "\n"
  let equalWidth := c.has "w"
  if operands.isEmpty then misuse "missing operand"
  if operands.length > 3 then misuse s!"extra operand {mention operands[3]!}"
  let layout? ← match c.last? "f" with
    | some f =>
      match readFormat f with
      | .ok l => pure (some l)
      | .error msg => fail msg
    | none => pure none
  if layout?.isSome && equalWidth then
    misuse "format string may not be specified when printing equal width strings"
  let read (a : String) : Tool μ Operand :=
    match readOperand a with
    | .ok o => pure o
    | .error msg => misuse msg
  let one : Operand := { value := .finite 1 1, width := 1, precision := some 0 }
  let (first, step, last) ← match operands with
    | [l] => do pure (one, one, ← read l)
    | [f, l] => do
      let first ← read f
      pure (first, one, ← read l)
    | f :: s :: l :: _ => do
      let first ← read f
      let step ← read s
      if step.value.isZero then misuse s!"invalid Zero increment value: {mention s}"
      pure (first, step, ← read l)
    | [] => misuse "missing operand"
  let layout := layout?.getD (defaultLayout first step last equalWidth)
  writeNumbers layout separator first.value step.value last.value

end PseudoTerm.Programs
