import PseudoTerm.Pattern.Syntax

/-!
# Finding patterns in bytes

Matching walks the tree and answers every way the pattern can match from a position, in
order of preference: the left of an alternative first, more rounds of a repetition before
fewer.  A repetition stops going round once a round matches nothing, so its rounds are
bounded by the bytes left; equal outcomes of a repetition are kept once.

A search tries the positions from left to right and takes, at the first position where
the pattern matches, the longest match; among matches of that length, the one whose
groups, taken in order, start earliest and are longest, and of those the most preferred.
-/

namespace PseudoTerm.Pattern

/-- What is matched so far: the position reached and the span of each group. -/
structure Cursor where
  pos : Nat
  groups : Array (Option (Nat × Nat))
  deriving BEq, Repr, Inhabited

/-- The bytes a pattern is matched against. -/
structure Subject where
  bytes : ByteArray
  ignoreCase : Bool := false
  /-- Whether the start of the bytes is not the start of a line. -/
  notBol : Bool := false
  /-- Whether a line feed inside the bytes also ends and starts lines. -/
  multiline : Bool := false
  deriving Inhabited

namespace Subject

/-- The byte at a position. -/
def at? (s : Subject) (i : Nat) : Option UInt8 := if i < s.bytes.size then some (s.bytes.get! i) else none

/-- Whether two bytes are the same, ignoring case when asked. -/
def same (s : Subject) (a b : UInt8) : Bool :=
  a == b || (s.ignoreCase && lowerByte a == lowerByte b)

/-- Whether an anchor holds at a position. -/
def holds (s : Subject) (a : Anchor) (pos : Nat) : Bool :=
  let before := if pos == 0 then none else s.at? (pos - 1)
  let after := s.at? pos
  let wordBefore := (before.map wordByte).getD false
  let wordAfter := (after.map wordByte).getD false
  match a with
  | .lineStart => (pos == 0 && !s.notBol) || (s.multiline && before == some 10)
  | .lineEnd => pos == s.bytes.size || (s.multiline && after == some 10)
  | .subjectStart => pos == 0
  | .subjectEnd => pos == s.bytes.size
  | .wordEdge => wordBefore != wordAfter
  | .insideWord => wordBefore == wordAfter
  | .wordStart => !wordBefore && wordAfter
  | .wordEnd => wordBefore && !wordAfter

/-- Whether the bytes from `start` for `len` bytes equal those at `pos`. -/
def repeats (s : Subject) (start len pos : Nat) : Bool :=
  pos + len ≤ s.bytes.size &&
    (List.range len).all fun i => s.same (s.bytes.get! (start + i)) (s.bytes.get! (pos + i))

end Subject

/-- Outcomes with the repeated ones kept once, the first of each kept. -/
def keepFirst (cs : List Cursor) : List Cursor :=
  cs.foldl (fun acc c => if acc.contains c then acc else acc ++ [c]) []

/-- The outcomes of a repetition of a matcher `m` from `lo` to `hi` rounds, more rounds
first; `fuel` bounds the rounds. -/
def repeatRounds (m : Cursor → List Cursor) : Nat → Option Nat → Nat → Cursor → List Cursor
  | _, _, 0, _ => []
  | lo, hi, fuel + 1, c =>
    let more :=
      if hi == some 0 then []
      else (m c).flatMap fun next =>
        if next.pos == c.pos && lo == 0 then []
        else repeatRounds m (lo - 1) (hi.map (· - 1)) fuel next
    keepFirst (if lo == 0 then more ++ [c] else more)

/-- Every way a pattern matches from a cursor, the preferred first. -/
def Node.run (s : Subject) : Node → Cursor → List Cursor
  | .empty, c => [c]
  | .byte b, c =>
    match s.at? c.pos with
    | some x => if s.same x b then [{ c with pos := c.pos + 1 }] else []
    | none => []
  | .anyByte, c =>
    match s.at? c.pos with
    | some x => if s.multiline && x == 10 then [] else [{ c with pos := c.pos + 1 }]
    | none => []
  | .set negated items, c =>
    match s.at? c.pos with
    | some x =>
      if setHolds negated items s.ignoreCase x && !(negated && s.multiline && x == 10) then
        [{ c with pos := c.pos + 1 }]
      else []
    | none => []
  | .anchor a, c => if s.holds a c.pos then [c] else []
  | .group i body, c =>
    (Node.run s body c).map fun next => { next with groups := next.groups.set! i (some (c.pos, next.pos)) }
  | .backref i, c =>
    match c.groups[i]? with
    | some (some (a, b)) => if s.repeats a (b - a) c.pos then [{ c with pos := c.pos + (b - a) }] else []
    | _ => []
  | .seq a b, c => (Node.run s a c).flatMap fun next => Node.run s b next
  | .alt a b, c => Node.run s a c ++ Node.run s b c
  | .rep body lo hi, c => repeatRounds (fun x => Node.run s body x) lo hi (s.bytes.size + lo + 2) c

/-- Whether the groups of one outcome are preferred to another's: at the first group where
they differ, the one starting earlier, or ending later from the same start. -/
def groupsBefore (a b : Array (Option (Nat × Nat))) : Bool :=
  let key (g : Option (Nat × Nat)) : Nat × Int :=
    match g with
    | some (x, y) => (x, -(y : Int))
    | none => (0, 1)
  let differing := (List.range (min a.size b.size)).find? fun i => key (a[i]!) != key (b[i]!)
  match differing with
  | some i =>
    let (sa, ea) := key (a[i]!)
    let (sb, eb) := key (b[i]!)
    match a[i]!, b[i]! with
    | some _, none => true
    | none, some _ => false
    | _, _ => sa < sb || (sa == sb && ea < eb)
  | none => false

/-- The preferred of the outcomes: the longest, then by its groups. -/
def best (cs : List Cursor) : Option Cursor :=
  cs.foldl (fun acc c => match acc with
    | none => some c
    | some b => if c.pos > b.pos || (c.pos == b.pos && groupsBefore c.groups b.groups) then some c else acc) none

/-- A match: where it starts and ends, and the span of each group (the whole match is
group zero). -/
structure Found where
  start : Nat
  stop : Nat
  groups : Array (Option (Nat × Nat))
  deriving Repr, Inhabited

/-- The span a group matched. -/
def Found.group (f : Found) (i : Nat) : Option (Nat × Nat) := (f.groups[i]?).getD none

namespace Compiled

/-- Every way a pattern matches from a position, the preferred first. -/
def outcomesAt (p : Compiled) (s : Subject) (start : Nat) : List Cursor :=
  Node.run { s with ignoreCase := p.ignoreCase, multiline := p.multiline } p.node
    { pos := start, groups := Array.replicate (p.groups + 1) none }

/-- The preferred match from a position. -/
def matchAt (p : Compiled) (s : Subject) (start : Nat) : Option Found :=
  (best (p.outcomesAt s start)).map fun c =>
    { start, stop := c.pos, groups := c.groups.set! 0 (some (start, c.pos)) }

/-- The leftmost match at or after a position, the longest there. -/
def search (p : Compiled) (s : Subject) (start : Nat) : Option Found :=
  go start (s.bytes.size + 1 - start)
where
  /-- Position after position. -/
  go (pos : Nat) : Nat → Option Found
    | 0 => none
    | fuel + 1 =>
      match p.matchAt s pos with
      | some f => some f
      | none => go (pos + 1) fuel

/-- Whether a pattern matches somewhere in the bytes. -/
def found (p : Compiled) (bytes : ByteArray) : Bool := (p.search { bytes } 0).isSome

end Compiled

end PseudoTerm.Pattern
