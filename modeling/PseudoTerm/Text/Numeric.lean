import PseudoTerm.Text.Quoted

/-!
# Reading numbers and truth values from command-line text

Unsigned integers are read with their base taken from a prefix: `0x` hexadecimal,
`0o` octal, `0b` binary, a lone leading `0` octal, decimal otherwise.  Underscores may
separate digits once a base is implied.  Digits are read from the left and the first
one that is not a digit of the base, or that makes the value too large, decides the
error, so an overflow met before a bad character is reported as an overflow.

Signed integers take an optional sign before the unsigned form.

Truth values are `1 t T TRUE true True` and `0 f F FALSE false False`.
-/

namespace PseudoTerm.Text

/-- Why a text is not a number. -/
inductive NumberProblem where
  | malformed
  | range
  deriving DecidableEq, Repr

/-- The words of a number problem. -/
def NumberProblem.text : NumberProblem → String
  | .malformed => "invalid syntax"
  | .range => "value out of range"

/-- The message of a failed conversion of `input` by the function `fn`. -/
def numberError (fn input : String) (p : NumberProblem) : String :=
  "strconv." ++ fn ++ ": parsing " ++ quote input ++ ": " ++ p.text

/-- A character in lower case, for the ASCII letters. -/
def lowerAscii (c : Char) : Char :=
  if 'A' ≤ c && c ≤ 'Z' then Char.ofNat (c.toNat + 32) else c

/-- Whether underscores in a number only separate digits. -/
def underscoresFit (s : String) : Bool :=
  let cs := match s.toList with
    | '-' :: r | '+' :: r => r
    | r => r
  let (cs, saw, hex) := match cs with
    | '0' :: b :: rest =>
      let l := lowerAscii b
      if l == 'b' || l == 'o' || l == 'x' then (rest, '0', l == 'x') else (cs, '^', false)
    | _ => (cs, '^', false)
  let final := cs.foldl (fun (saw : Option Char) c =>
    match saw with
    | none => none
    | some s =>
      if c.isDigit || (hex && 'a' ≤ lowerAscii c && lowerAscii c ≤ 'f') then some '0'
      else if c == '_' then (if s != '0' then none else some '_')
      else if s == '_' then none
      else some '!') (some saw)
  match final with
  | some s => s != '_'
  | none => false

/-- An unsigned integer of at most `bits` bits, with its base given by a prefix. -/
def parseUnsigned (s : String) (bits : Nat) : Except NumberProblem Nat := do
  if s.isEmpty then throw .malformed
  let (base, digits) := match s.toList with
    | '0' :: b :: rest@(_ :: _) =>
      let l := lowerAscii b
      if l == 'b' then (2, rest)
      else if l == 'o' then (8, rest)
      else if l == 'x' then (16, rest)
      else (8, b :: rest)
    | '0' :: rest => (8, rest)
    | cs => (10, cs)
  let maxVal := Nat.pow 2 bits - 1
  let mut n := 0
  let mut sawUnderscore := false
  for c in digits do
    if c == '_' then
      sawUnderscore := true
    else
      let d := if c.isDigit then c.toNat - 48
        else if 'a' ≤ lowerAscii c && lowerAscii c ≤ 'z' then (lowerAscii c).toNat - 87
        else 99
      if d ≥ base then throw .malformed
      if n * base + d > maxVal then throw .range
      n := n * base + d
  if sawUnderscore && !underscoresFit s then throw .malformed
  return n

/-- A signed integer of at most `bits` bits: an optional sign, then an unsigned number
read as `parseUnsigned` reads it, within the signed range. -/
def parseSigned (s : String) (bits : Nat) : Except NumberProblem Int := do
  if s.isEmpty then throw .malformed
  let (negative, rest) := match s.toList with
    | '+' :: r => (false, String.ofList r)
    | '-' :: r => (true, String.ofList r)
    | _ => (false, s)
  let n ← parseUnsigned rest bits
  let cutoff := Nat.pow 2 (bits - 1)
  if !negative && n ≥ cutoff then throw .range
  if negative && n > cutoff then throw .range
  return if negative then -(n : Int) else n

/-- A truth value. -/
def parseTruth (s : String) : Except NumberProblem Bool :=
  if ["1", "t", "T", "TRUE", "true", "True"].contains s then .ok true
  else if ["0", "f", "F", "FALSE", "false", "False"].contains s then .ok false
  else .error .malformed

end PseudoTerm.Text
