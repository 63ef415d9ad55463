/-!
# Quantities with size suffixes

The standard utilities read counts and sizes as an unsigned number (blanks and a `+` may
come first; a `-` is refused) followed by at most one suffix from the letters a program
allows: `b` for 512, `B` for 1024, `c` for 1, `w` for 2, and `k`/`K`, `M`, `G`, `T`, `P`,
`E`, `Z`, `Y`, `R`, `Q` for the powers of 1024 (of 1000 when followed by `B`, when the
program allows two-letter suffixes; `iB` keeps 1024).  A suffix alone stands for one unit.
The number is decimal, or, when the program asks, `0x` hexadecimal or `0` octal.

Values past 64 bits are kept as the largest one and reported as an overflow.
-/

namespace PseudoTerm.Text

/-- How a quantity was read. -/
inductive QuantityRead where
  /-- A value, possibly too large (then the largest value and `overflow` set). -/
  | value (n : Nat) (overflow : Bool)
  /-- No number at all. -/
  | invalid
  /-- A number followed by something that is not an allowed suffix. -/
  | badSuffix (overflow : Bool)
  deriving Repr, DecidableEq, Inhabited

/-- The largest value of 64 bits. -/
def quantityMax : Nat := Nat.pow 2 64 - 1

/-- The power of the base a suffix letter stands for. -/
def suffixPower (c : Char) : Option Nat :=
  match c with
  | 'k' | 'K' => some 1
  | 'M' | 'm' => some 2
  | 'G' | 'g' => some 3
  | 'T' | 't' => some 4
  | 'P' => some 5
  | 'E' => some 6
  | 'Z' => some 7
  | 'Y' => some 8
  | 'R' => some 9
  | 'Q' => some 10
  | _ => none

/-- The digits of a base starting a list, and their value. -/
def leadingDigits (base : Nat) (cs : List Char) : Nat × Nat :=
  let digit (c : Char) : Option Nat :=
    if c.isDigit then some (c.toNat - 48)
    else if 'a' ≤ c && c ≤ 'z' then some (c.toNat - 87)
    else if 'A' ≤ c && c ≤ 'Z' then some (c.toNat - 55)
    else none
  let ds := cs.takeWhile fun c => match digit c with
    | some d => d < base
    | none => false
  (ds.length, ds.foldl (fun acc c => acc * base + (digit c).getD 0) 0)

/-- Read a quantity with the suffix letters `suffixes` allowed; `twoLetter` allows the
`B` and `iB` second letters, `prefixed` the `0x` and `0` prefixes. -/
def readQuantity (s : String) (suffixes : List Char) (twoLetter prefixed : Bool) : QuantityRead :=
  let cs := s.toList.dropWhile fun c => c == ' ' || ('\t' ≤ c && c ≤ '\r')
  if cs.head? == some '-' then .invalid
  else
    let body := match cs with
      | '+' :: r => r
      | r => r
    let (base, digitsAt) :=
      if prefixed then
        match body with
        | '0' :: x :: h :: _ =>
          if (x == 'x' || x == 'X') && (leadingDigits 16 [h]).1 == 1 then (16, body.drop 2) else (8, body)
        | '0' :: _ => (8, body)
        | _ => (10, body)
      else (10, body)
    let (count, v) := leadingDigits base digitsAt
    let rest := digitsAt.drop count
    let (v, overflow, rest, ok) :=
      if count == 0 then
        -- a suffix alone counts one unit
        match s.toList.head? with
        | some c => if suffixes.contains c then (1, false, s.toList, true) else (0, false, rest, false)
        | none => (0, false, rest, false)
      else if v > quantityMax then (quantityMax, true, rest, true)
      else (v, false, rest, true)
    if !ok then .invalid
    else
      match rest with
      | [] => .value v overflow
      | c :: more =>
        if !suffixes.contains c then .badSuffix overflow
        else
          let (base, used) :=
            if twoLetter && (suffixPower c).isSome then
              match more with
              | 'i' :: 'B' :: _ => (1024, 3)
              | 'B' :: _ | 'D' :: _ => (1000, 2)
              | _ => (1024, 1)
            else (1024, 1)
          let factor := match c with
            | 'b' => 512
            | 'B' => 1024
            | 'c' => 1
            | 'w' => 2
            | _ => Nat.pow base ((suffixPower c).getD 0)
          let scaled := v * factor
          let (v, overflow) := if scaled > quantityMax then (quantityMax, true) else (scaled, overflow)
          if (rest.drop used).isEmpty then .value v overflow else .badSuffix overflow

end PseudoTerm.Text
