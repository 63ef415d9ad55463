/-!
# Durations as text

A duration is a signed 64-bit count of nanoseconds.  It is rounded to a multiple of a
unit with halves away from zero; a rounding that would leave the 64-bit range gives the
nearest end of the range instead.

Written out, a duration under a second uses the largest of `ns`, `µs` and `ms` that fits,
with a decimal fraction; a longer one is written in hours, minutes and seconds, the
seconds with a fraction, and leading zero parts left out.  Trailing zeros of a fraction
are dropped, and so is a fraction of zero.
-/

namespace PseudoTerm.Text

/-- The smallest 64-bit signed integer. -/
def int64Low : Int := -(Int.pow 2 63)

/-- The largest 64-bit signed integer. -/
def int64High : Int := Int.pow 2 63 - 1

/-- Round `d` to a multiple of `m` (positive), halves away from zero, saturating. -/
def roundDuration (d : Int) (m : Nat) : Int :=
  if m == 0 then d
  else if d < 0 then
    let r : Int := (d.natAbs % m : Nat)
    if 2 * r < m then d + r
    else
      let d1 := d - m + r
      if d1 ≥ int64Low then d1 else int64Low
  else
    let r : Int := (d.natAbs % m : Nat)
    if 2 * r < m then d - r
    else
      let d1 := d + m - r
      if d1 ≤ int64High then d1 else int64High

/-- The fraction `v / 10 ^ prec` after the point, trailing zeros dropped; empty when zero. -/
def fractionText (v prec : Nat) : String :=
  if v == 0 then ""
  else
    let digits := (Nat.toDigits 10 v)
    let padded := List.replicate (prec - digits.length) '0' ++ digits
    let trimmed := (padded.reverse.dropWhile (· == '0')).reverse
    "." ++ String.ofList trimmed

/-- A duration in nanoseconds as text. -/
def durationText (d : Int) : String :=
  let u := d.natAbs
  let sign := if d < 0 then "-" else ""
  let body :=
    if u == 0 then "0s"
    else if u < 1000000000 then
      let (prec, unit) :=
        if u < 1000 then (0, "ns") else if u < 1000000 then (3, "µs") else (6, "ms")
      toString (u / Nat.pow 10 prec) ++ fractionText (u % Nat.pow 10 prec) prec ++ unit
    else
      let frac := fractionText (u % 1000000000) 9
      let s := u / 1000000000
      let secs := toString (s % 60) ++ frac ++ "s"
      let minutes := s / 60
      if minutes == 0 then secs
      else
        let hours := minutes / 60
        let mins := toString (minutes % 60) ++ "m" ++ secs
        if hours == 0 then mins else toString hours ++ "h" ++ mins
  sign ++ body

end PseudoTerm.Text
