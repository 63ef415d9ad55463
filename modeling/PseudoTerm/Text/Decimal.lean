/-!
# Decimal text of binary floating-point values

Positive rationals are rounded to the nearest binary64 value (53 significant bits, ties to
the even significand), and a binary64 value is written with a fixed number of decimals,
rounding its exact value to the nearest decimal and ties to the even last digit.  All
arithmetic is exact, on natural numbers.  Values handled here are at least one, so the
subnormal range never arises.
-/

namespace PseudoTerm.Text

/-- A positive binary value `significand * 2 ^ exponent`. -/
structure Binary where
  significand : Nat
  exponent : Int
  deriving DecidableEq, Repr

/-- `num / den` rounded to the nearest integer, a tie going to the even neighbour. -/
def roundHalfEven (num den : Nat) : Nat :=
  let q := num / den
  let r := num % den
  if 2 * r < den then q
  else if 2 * r > den then q + 1
  else if q % 2 == 0 then q else q + 1

/-- `num * 2 ^ shift` as a numerator and denominator pair, for a signed shift. -/
def scaled (num : Nat) (shift : Int) : Nat × Nat :=
  if shift ≥ 0 then (num * Nat.pow 2 shift.toNat, 1) else (num, Nat.pow 2 (-shift).toNat)

/-- The number of binary digits of a positive number. -/
def bitLength (n : Nat) : Nat := (Nat.toDigits 2 n).length

/-- The binary64 value nearest to `num / den` (both positive). -/
def nearestBinary (num den : Nat) : Binary :=
  -- the exponent puts the quotient's leading bit at position 52
  let estimate : Int := (bitLength num : Int) - (bitLength den : Int)
  let e : Int :=
    let (n, d) := scaled num (52 - estimate)
    if n / (d * den) ≥ Nat.pow 2 52 then estimate - 52 else estimate - 53
  let (n, d) := scaled num (-e)
  let m := roundHalfEven n (d * den)
  if m = Nat.pow 2 53 then ⟨Nat.pow 2 52, e + 1⟩ else ⟨m, e⟩

/-- The exact value of a binary number as a numerator and denominator. -/
def Binary.ratio (b : Binary) : Nat × Nat := scaled b.significand b.exponent

/-- A binary value written with `places` decimals, rounding ties to even. -/
def fixedText (b : Binary) (places : Nat) : String :=
  let (n, d) := b.ratio
  let units := roundHalfEven (n * Nat.pow 10 places) d
  let whole := units / Nat.pow 10 places
  let frac := units % Nat.pow 10 places
  if places = 0 then toString whole
  else
    let digits := toString frac
    toString whole ++ "." ++ String.ofList (List.replicate (places - digits.length) '0') ++ digits

end PseudoTerm.Text
