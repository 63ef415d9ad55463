import Mathlib
import PseudoTerm.Text.ByteCount

/-!
# Scaling byte counts

The scaling loop of `byteCountSI` keeps one invariant (`Scaled`): its 64-bit divisor is
exactly `1000 ^ (exp + 1)`, no larger than the count, and its quotient is the count divided
by it.  A step keeps it because the quotient was at least 1000: the next divisor is then
still no larger than the count, so it fits in 63 bits and the 64-bit product does not wrap.
Where the loop stops the quotient is below 1000, which puts the count below a thousand
divisors; a count below `2 ^ 63` leaves room for at most five steps, so the divisor is at
most `10 ^ 18` and the exponent picks one of the six unit letters.

Main statement: `byteCountSI_scales_within_range`.  A count below 1000 is its decimal and
` B`; any other count is written with the unit letter of an exponent of at most five, whose
divisor is exact and lies between a thousandth of the count and the count.
-/

namespace PseudoTerm.Text

/-- An integer's text is its sign, for a negative one, and the decimal digits of its
magnitude. -/
theorem toString_eq_sign_digits (i : Int) :
    toString i = (if i < 0 then "-" else "") ++ String.ofList (Nat.toDigits 10 i.natAbs) := by
  cases i with
  | ofNat n =>
      have nonneg : ¬ ((n : Int) < 0) := by omega
      simp [Int.repr, Nat.repr, nonneg]
  | negSucc n => simp [Int.repr, Nat.repr]

/-- A state of the scaling loop for the count `b`: the divisor is `1000 ^ (exp + 1)` as an
integer, it is at most `b`, and the quotient is `b` divided by it. -/
structure Scaled (b : Int) (n div : Int64) (exp : Nat) : Prop where
  exact : div.toInt = 1000 ^ (exp + 1)
  within : 1000 ^ (exp + 1) ≤ b
  quotient : n.toInt = b / 1000 ^ (exp + 1)

theorem Scaled.start {b : Int64} (large : 1000 ≤ b.toInt) : Scaled b.toInt (b / 1000) 1000 0 where
  exact := by decide
  within := by simpa using large
  quotient := by
    rw [toInt_div_thousand (by omega)]
    simp

theorem Scaled.step
    {b : Int}
    {n div : Int64}
    {exp : Nat}
    (scaled : Scaled b n div exp)
    (large : 1000 ≤ n.toInt)
    (fits : b < 2 ^ 63) :
    Scaled b (n / 1000) (div * 1000) (exp + 1) := by
  have positive : (0 : Int) < 1000 ^ (exp + 1) := by positivity
  have next : 1000 ^ (exp + 1 + 1) ≤ b := by
    rw [scaled.quotient, Int.le_ediv_iff_mul_le positive] at large
    rw [pow_succ]
    linarith
  refine ⟨?_, next, ?_⟩
  · rw [Int64.toInt_mul, scaled.exact, show (1000 : Int64).toInt = 1000 by decide, ← pow_succ]
    have nonneg : (0 : Int) ≤ 1000 ^ (exp + 1 + 1) := by positivity
    apply Int.bmod_eq_of_le <;> omega
  · rw [toInt_div_thousand (by omega), scaled.quotient, Int.ediv_ediv_of_nonneg positive.le, ← pow_succ]

theorem Scaled.lt_of_small
    {b : Int}
    {n div : Int64}
    {exp : Nat}
    (scaled : Scaled b n div exp)
    (small : n.toInt < 1000) :
    b < 1000 * div.toInt := by
  have positive : (0 : Int) < 1000 ^ (exp + 1) := by positivity
  rw [scaled.quotient, Int.ediv_lt_iff_lt_mul positive] at small
  rw [scaled.exact]
  linarith

theorem siScale_scaled
    {b : Int}
    (fits : b < 2 ^ 63)
    {n div : Int64}
    {exp : Nat}
    (scaled : Scaled b n div exp) :
    ∃ last, Scaled b last (siScale n div exp).1 (siScale n div exp).2 ∧ last.toInt < 1000 := by
  fun_induction siScale n div exp with
  | case1 n div exp large inductionHypothesis =>
      exact inductionHypothesis (scaled.step (Int64.le_iff_toInt_le.mp large) fits)
  | case2 n div exp small =>
      refine ⟨n, scaled, ?_⟩
      have below : n.toInt < (1000 : Int64).toInt := Int64.lt_iff_toInt_lt.mp (Int64.not_le.mp small)
      simpa using below

/-- A divisor `1000 ^ (exp + 1)` no larger than a count below `2 ^ 63` has `exp ≤ 5`. -/
theorem exp_le_five_of_pow_le
    {b : Int}
    {exp : Nat}
    (within : 1000 ^ (exp + 1) ≤ b)
    (fits : b < 2 ^ 63) :
    exp ≤ 5 := by
  by_contra more
  have seven : (1000 : Int) ^ 7 ≤ 1000 ^ (exp + 1) := pow_le_pow_right₀ (by norm_num) (by omega)
  have beyond : (2 : Int) ^ 63 < 1000 ^ 7 := by norm_num
  linarith

/-- The text of a byte count: below 1000 it is the count's decimal and ` B`; otherwise the
scaling loop ends after at most five steps with the exact divisor `1000 ^ (exp + 1)`, at most
`10 ^ 18`, between a thousandth of the count and the count, and the unit letter is the one the
exponent picks among `k`, `M`, `G`, `T`, `P` and `E`. -/
theorem byteCountSI_scales_within_range (b : Int64) :
    (b.toInt < 1000 →
      byteCountSI b = (if b.toInt < 0 then "-" else "") ++ String.ofList (Nat.toDigits 10 b.toInt.natAbs) ++ " B") ∧
    (1000 ≤ b.toInt → ∃ div exp, siScale (b / 1000) 1000 0 = (div, exp) ∧ exp ≤ 5 ∧
      div.toInt = 1000 ^ (exp + 1) ∧ div.toInt ≤ 10 ^ 18 ∧ div.toInt ≤ b.toInt ∧ b.toInt < 1000 * div.toInt ∧
      ∃ inRange : exp < siLetters.length,
        byteCountSI b = fixedText (siQuotient b.toInt.toNat div.toInt.toNat) 1 ++ " " ++
          (siLetters.get ⟨exp, inRange⟩).toString ++ "B") := by
  have fits : b.toInt < 2 ^ 63 := Int64.toInt_lt b
  constructor
  · intro small
    have below : b < 1000 := Int64.lt_iff_toInt_lt.mpr (by simpa using small)
    simp only [byteCountSI, below, if_true, toString_eq_sign_digits]
  · intro large
    obtain ⟨last, scaled, small⟩ := siScale_scaled fits (Scaled.start large)
    have exponent : (siScale (b / 1000) 1000 0).2 ≤ 5 := exp_le_five_of_pow_le scaled.within fits
    have notBelow : ¬ b < 1000 := fun below => by
      have smaller : b.toInt < 1000 := by simpa using Int64.lt_iff_toInt_lt.mp below
      omega
    refine ⟨(siScale (b / 1000) 1000 0).1, (siScale (b / 1000) 1000 0).2, rfl, exponent, scaled.exact, ?_,
      by rw [scaled.exact]; exact scaled.within, scaled.lt_of_small small, by simp [siLetters]; omega, ?_⟩
    · -- five steps at most keep the divisor within `1000 ^ 6`
      rw [scaled.exact]
      calc (1000 : Int) ^ ((siScale (b / 1000) 1000 0).2 + 1)
          ≤ 1000 ^ 6 := pow_le_pow_right₀ (by norm_num) (by omega)
        _ = 10 ^ 18 := by norm_num
    · simp only [byteCountSI, notBelow, if_false]
      rw [List.getD_eq_getElem]
      rfl

end PseudoTerm.Text
