/-!
# Shell patterns

The patterns of `case` and of the `%` and `#` expansions: `*` fits any text, `?` any
one character, `[…]` one character of a set (ranges `a-z`, negated by a leading `!` or
`^`), and every other character itself.  A quoted character always fits itself.
A `[` without a closing `]` is an ordinary character.
-/

namespace PseudoTerm.Shell

/-- One element of a pattern. -/
inductive PatternItem where
  | literal (c : Char)
  | anyChar
  | anyText
  /-- A character set: its ranges, and whether it is negated. -/
  | charSet (negated : Bool) (ranges : List (Char × Char))
  deriving Repr, Inhabited, BEq

/-- A compiled pattern. -/
abbrev Pattern := List PatternItem

namespace Pattern

/-- Read the ranges of a set after `[` (and its negation mark): answers them and the rest
after `]`, or nothing when the set is not closed. -/
def readSet : Nat → List (Char × Bool) → Bool → Array (Char × Char) → Option (List (Char × Char) × List (Char × Bool))
  | 0, _, _, _ => none
  | _, [], _, _ => none
  | fuel + 1, (c, q) :: rest, first, acc =>
    if c == ']' && !q && !first then some (acc.toList, rest)
    else
      match rest with
      | ('-', false) :: (d, dq) :: rest' =>
        if d == ']' && !dq then readSet fuel (('-', false) :: (d, dq) :: rest') false (acc.push (c, c))
        else readSet fuel rest' false (acc.push (c, d))
      | _ => readSet fuel rest false (acc.push (c, c))

/-- Compile characters, each with whether it was quoted, into a pattern. -/
def compile : Nat → List (Char × Bool) → Pattern
  | 0, _ => []
  | _, [] => []
  | fuel + 1, (c, q) :: rest =>
    if q then .literal c :: compile fuel rest
    else if c == '*' then .anyText :: compile fuel rest
    else if c == '?' then .anyChar :: compile fuel rest
    else if c == '\\' then
      match rest with
      | (d, _) :: rest' => .literal d :: compile fuel rest'
      | [] => [.literal '\\']
    else if c == '[' then
      let (negated, body) := match rest with
        | ('!', false) :: r | ('^', false) :: r => (true, r)
        | r => (false, r)
      match readSet (body.length + 1) body true #[] with
      | some (ranges, after) => .charSet negated ranges :: compile fuel after
      | none => .literal '[' :: compile fuel rest
    else .literal c :: compile fuel rest

/-- Compile a pattern text in which nothing is quoted. -/
def ofString (s : String) : Pattern :=
  compile (s.length + 1) (s.toList.map (·, false))

/-- Whether one character fits a pattern element that takes exactly one. -/
def matchesOne (item : PatternItem) (c : Char) : Bool :=
  match item with
  | .literal d => c == d
  | .anyChar => true
  | .charSet negated ranges => ranges.any (fun (lo, hi) => lo ≤ c && c ≤ hi) != negated
  | .anyText => true

/-- Whether a whole text fits a pattern. -/
def fits : Pattern → List Char → Bool
  | [], s => s.isEmpty
  | .anyText :: ps, s => (List.range (s.length + 1)).any fun k => fits ps (s.drop k)
  | item :: ps, c :: s => matchesOne item c && fits ps s
  | _ :: _, [] => false

/-- Whether a text fits a pattern. -/
def test (p : Pattern) (s : String) : Bool := fits p s.toList

/-- The text without its shortest (or, with `largest`, longest) prefix that fits. -/
def removePrefix (p : Pattern) (largest : Bool) (s : String) : String :=
  let cs := s.toList
  let lengths := List.range (cs.length + 1)
  let order := if largest then lengths.reverse else lengths
  match order.find? (fun k => fits p (cs.take k)) with
  | some k => String.ofList (cs.drop k)
  | none => s

/-- The text without its shortest (or, with `largest`, longest) suffix that fits. -/
def removeSuffix (p : Pattern) (largest : Bool) (s : String) : String :=
  let cs := s.toList
  let n := cs.length
  let lengths := List.range (n + 1)
  let order := if largest then lengths.reverse else lengths
  match order.find? (fun k => fits p (cs.drop (n - k))) with
  | some k => String.ofList (cs.take (n - k))
  | none => s

end Pattern

end PseudoTerm.Shell
