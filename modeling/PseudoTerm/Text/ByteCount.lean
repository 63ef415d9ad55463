import PseudoTerm.Text.Decimal

/-!
# Byte counts in SI units

A count below 1000 (negative counts included) is written in bytes, `999 B`.  A larger
count is scaled in signed 64-bit arithmetic: its quotient by 1000 is divided by 1000
again while it is still at least 1000, the divisor growing by a factor of 1000 and the
exponent by one each time.  The count is then written as its quotient by that divisor,
with one decimal, and the unit letter `k`, `M`, `G`, `T`, `P` or `E` of the exponent.
The division is the one of binary64 values: the count is first rounded to binary64, the
quotient is rounded again, and the decimal is rounded from that quotient's exact value,
so `999950` is `1000.0 kB` and `1950` is `1.9 kB`.
-/

namespace PseudoTerm.Text

/-- The unit letters, from kilo upwards. -/
def siLetters : List Char := ['k', 'M', 'G', 'T', 'P', 'E']

/-- On a count that is not negative, 64-bit division by 1000 is division of integers. -/
theorem toInt_div_thousand {n : Int64} (nonneg : 0 ≤ n.toInt) : (n / 1000).toInt = n.toInt / 1000 := by
  have below := Int64.toInt_lt n
  rw [Int64.toInt_div, show (1000 : Int64).toInt = 1000 by decide, Int.tdiv_eq_ediv_of_nonneg nonneg]
  apply Int.bmod_eq_of_le <;> omega

/-- The scaling loop: while the quotient `n` is at least 1000 it is divided by 1000 once
more, the divisor `div` multiplied by 1000 and the step counted in `exp`; answers the
divisor and the exponent. -/
def siScale (n div : Int64) (exp : Nat) : Int64 × Nat :=
  if large : 1000 ≤ n then siScale (n / 1000) (div * 1000) (exp + 1) else (div, exp)
termination_by n.toInt.toNat
decreasing_by
  have atLeast : 1000 ≤ n.toInt := Int64.le_iff_toInt_le.mp large
  rw [toInt_div_thousand (by omega)]
  omega

/-- The binary64 quotient of a count by a divisor: the count rounded to binary64, divided
by the divisor and rounded again. -/
def siQuotient (count div : Nat) : Binary :=
  let (num, den) := (nearestBinary count 1).ratio
  nearestBinary num (den * div)

/-- A byte count in SI units. -/
def byteCountSI (b : Int64) : String :=
  if b < 1000 then toString b.toInt ++ " B"
  else
    let (div, exp) := siScale (b / 1000) 1000 0
    fixedText (siQuotient b.toInt.toNat div.toInt.toNat) 1 ++ " " ++ (siLetters.getD exp 'E').toString ++ "B"

end PseudoTerm.Text
