import PseudoTerm.Pattern.Syntax

/-!
# Reading written patterns

A written pattern is read in two passes.  The first cuts it into tokens, deciding what
each byte means where it stands: in the basic form `^` is an anchor only at the start of
an alternative and `$` only at its end, a repetition operator with nothing to repeat
(at the start of an alternative or after an anchor) means what the dialect says, and a
count in braces is read whole (`{n}`, `{n,}`, `{,m}`, `{n,m}`, up to 32767).  A back
reference must name a group already closed.

The second pass builds the tree with a stack of open groups, each holding its finished
alternatives and the pieces of the one being read.
-/

namespace PseudoTerm.Pattern

/-- A token of a written pattern. -/
inductive Token where
  | atom (n : Node)
  | anchor (a : Anchor)
  | open (index : Nat)
  | close
  | bar
  | repeat (min : Nat) (max : Option Nat)
  deriving Repr, Inhabited

/-- The largest count of a repetition. -/
def countLimit : Nat := 32767

/-- What the previous token leaves: the start of an alternative (where a repetition has
nothing to repeat) or something that can be repeated. -/
inductive Place where
  | branchStart
  | afterAtom
  deriving DecidableEq, Repr, Inhabited

/-- The state of cutting a pattern into tokens. -/
structure Scan where
  out : Array Token := #[]
  groups : Nat := 0
  opened : List Nat := []
  closed : List Nat := []
  place : Place := .branchStart
  /-- Whether the last token opened a group or an alternative (where `^` anchors). -/
  caretAnchors : Bool := true
  deriving Inhabited

/-- Record a token. -/
def Scan.emit (s : Scan) (t : Token) (place : Place) : Scan :=
  { s with out := s.out.push t, place, caretAnchors := false }

/-- The byte of a character. -/
def ch (c : Char) : UInt8 := c.toNat.toUInt8

/-- Read the name of a class, collating element or equivalence class after `[:`, `[.`
or `[=`, up to the closing `:]`, `.]` or `=]`. -/
def readBracketName (delim : UInt8) : List UInt8 → Nat → Except PatternError (List UInt8 × List UInt8)
  | _, 0 => throw .unmatchedBracket
  | [], _ => throw .unmatchedBracket
  | c :: rest, fuel + 1 =>
    if c == delim && rest.head? == some (ch ']') then pure ([], rest.drop 1)
    else do
      let (name, after) ← readBracketName delim rest fuel
      pure (c :: name, after)

/-- One element of a bracket expression: a byte, or a class. -/
inductive BracketElement where
  | single (b : UInt8)
  | named (name : String)
  deriving Inhabited

/-- Read one element of a bracket expression. -/
def readElement (input : List UInt8) : Except PatternError (BracketElement × List UInt8) :=
  match input with
  | [] => throw .unmatchedBracket
  | 91 :: d :: rest =>
    if d == ch ':' then do
      let (name, after) ← readBracketName (ch ':') rest rest.length
      let text := String.ofList (name.map fun b => Char.ofNat b.toNat)
      if classNames.contains text then pure (.named text, after) else throw .badClass
    else if d == ch '.' || d == ch '=' then do
      let (name, after) ← readBracketName d rest rest.length
      match name with
      | [b] => pure (.single b, after)
      | _ => throw .badCollation
    else pure (.single 91, d :: rest)
  | b :: rest => pure (.single b, rest)

/-- Read the items of a bracket expression after `[` (and `^`), up to the closing `]`. -/
def readItems : List UInt8 → Bool → Nat → Except PatternError (List SetItem × List UInt8)
  | _, _, 0 => throw .unmatchedBracket
  | [], _, _ => throw .unmatchedBracket
  | input@(c :: rest), first, fuel + 1 => do
    if c == ch ']' && !first then return ([], rest)
    let (elem, after) ← if c == ch ']' then pure (BracketElement.single c, rest) else readElement input
    match elem, after with
    | .single lo, 45 :: d :: more =>
      if d == ch ']' then
        let (items, final) ← readItems after false fuel
        pure (.range lo lo :: items, final)
      else
        let (hiElem, final) ← readElement (d :: more)
        match hiElem with
        | .single hi =>
          if hi < lo then throw .badRange
          let (items, final) ← readItems final false fuel
          pure (.range lo hi :: items, final)
        | .named _ => throw .badRange
    | .single b, _ =>
      let (items, final) ← readItems after false fuel
      pure (.range b b :: items, final)
    | .named n, _ =>
      let (items, final) ← readItems after false fuel
      pure (.named n :: items, final)

/-- Read a bracket expression after its `[`: whether it is negated, its items, and the rest. -/
def readBracket (input : List UInt8) : Except PatternError (Bool × List SetItem × List UInt8) := do
  let (negated, body) := match input with
    | 94 :: rest => (true, rest)
    | _ => (false, input)
  let (items, rest) ← readItems body true (body.length + 1)
  pure (negated, items, rest)

/-- The result of reading a count in braces. -/
inductive CountRead where
  /-- A sound count and the rest after its closing brace. -/
  | sound (min : Nat) (max : Option Nat) (rest : List UInt8)
  /-- Not a count; whether the pattern ended inside it. -/
  | broken (atEnd : Bool)
  /-- A count with nothing between the braces. -/
  | emptyCount
  /-- The first bound above the second, or a missing closing brace. -/
  | misordered
  deriving Inhabited

/-- A number of a count: none when there are no digits, `broken` past any non-digit. -/
inductive CountNumber where
  | missing
  | value (n : Nat)
  | broken
  deriving DecidableEq, Inhabited

/-- Read the number of a count up to `,` or the closing brace; answers the number, the byte
that ended it (none at the end of the pattern), and the rest after it. -/
def readCountNumber (extended : Bool) : List UInt8 → CountNumber → Nat →
    CountNumber × Option UInt8 × List UInt8
  | _, n, 0 => (n, none, [])
  | [], _, _ => (.broken, none, [])
  | c :: rest, n, fuel + 1 =>
    if !extended && c == 92 && rest.head? == some (ch '}') then (n, some (ch '}'), rest.drop 1)
    else if extended && c == ch '}' then (n, some c, rest)
    else if c == ch ',' then (n, some c, rest)
    else
      let n := match n with
        | .broken => .broken
        | .missing => if 48 ≤ c && c ≤ 57 then .value (c - 48).toNat else .broken
        | .value v => if 48 ≤ c && c ≤ 57 then .value (min (countLimit + 1) (v * 10 + (c - 48).toNat)) else .broken
      readCountNumber extended rest n fuel

/-- Read a count after its opening brace. -/
def readCount (extended : Bool) (input : List UInt8) : CountRead :=
  let (first, stop, rest) := readCountNumber extended input .missing (input.length + 1)
  let first := match first, stop with
    | .missing, some 44 => CountNumber.value 0
    | n, _ => n
  match first with
  | .missing => if stop.isNone then .broken true else .emptyCount
  | .broken => .broken stop.isNone
  | .value lo =>
    if stop == some 44 then
      let (second, stop2, rest2) := readCountNumber extended rest .missing (rest.length + 1)
      match second with
      | .broken => .broken stop2.isNone
      | .missing => if stop2 == some (ch '}') then .sound lo none rest2 else .misordered
      | .value hi => if stop2 == some (ch '}') && lo ≤ hi then .sound lo (some hi) rest2 else .misordered
    else .sound lo (some lo) rest

/-- Whether the rest of a basic pattern starts with what ends an alternative: its end,
`\)` or `\|`. -/
def endsAlternative (rest : List UInt8) : Bool :=
  match rest with
  | [] => true
  | 92 :: c :: _ => c == ch ')' || c == ch '|'
  | _ => false

/-- The node of an escape that stands for a class of bytes or a test. -/
def escapeToken (c : UInt8) : Option Token :=
  if c == ch 'w' then some (.atom (.set false [.named "alnum", .range 95 95]))
  else if c == ch 'W' then some (.atom (.set true [.named "alnum", .range 95 95]))
  else if c == ch 's' then some (.atom (.set false [.named "space"]))
  else if c == ch 'S' then some (.atom (.set true [.named "space"]))
  else if c == ch 'b' then some (.anchor .wordEdge)
  else if c == ch 'B' then some (.anchor .insideWord)
  else if c == ch '<' then some (.anchor .wordStart)
  else if c == ch '>' then some (.anchor .wordEnd)
  else if c == ch '`' then some (.anchor .subjectStart)
  else if c == ch '\'' then some (.anchor .subjectEnd)
  else none

/-- Add a repetition, or handle one that has nothing to repeat as the dialect says. -/
def Scan.addRepeat (d : Dialect) (s : Scan) (min : Nat) (max : Option Nat) (text : List UInt8) (isCount : Bool) :
    Except PatternError Scan :=
  if s.place == .afterAtom then pure (s.emit (.repeat min max) .afterAtom)
  else
    let rule := if isCount && !d.extended then d.leadingCount else d.leadingRepeat
    match rule with
    | .literal => pure (text.foldl (fun s b => s.emit (.atom (.byte b)) .afterAtom) s)
    | .skipped => pure s
    | .refused => throw .badRepeat

/-- Cut a written pattern into tokens. -/
def scan (d : Dialect) : List UInt8 → Scan → Nat → Except PatternError Scan
  | [], s, _ => pure s
  | _, s, 0 => pure s
  | c :: rest, s, fuel + 1 => do
    let atom (n : Node) := scan d rest (s.emit (.atom n) .afterAtom) fuel
    let openGroup (rest : List UInt8) : Except PatternError Scan :=
      let i := s.groups + 1
      scan d rest { s with out := s.out.push (.open i), groups := i, opened := i :: s.opened,
                           place := .branchStart, caretAnchors := true } fuel
    let closeGroup (rest : List UInt8) : Except PatternError Scan :=
      match s.opened with
      | i :: outer =>
        scan d rest { s with out := s.out.push .close, opened := outer, closed := i :: s.closed,
                             place := .afterAtom, caretAnchors := false } fuel
      | [] => throw .unmatchedClose
    let bar (rest : List UInt8) : Except PatternError Scan :=
      scan d rest { s with out := s.out.push .bar, place := .branchStart, caretAnchors := true } fuel
    let count (rest : List UInt8) (text : List UInt8) : Except PatternError Scan := do
      if s.place != .afterAtom then
        let s ← s.addRepeat d 0 none text true
        scan d rest s fuel
      else
      match readCount d.extended rest with
      | .sound lo hi after =>
        if countLimit < hi.getD lo then throw .tooBig
        scan d after (← s.addRepeat d lo hi text true) fuel
      | .broken atEnd =>
        if d.looseBrace then scan d rest (s.emit (.atom (.byte (ch '{'))) .afterAtom) fuel
        else throw (if atEnd then .unmatchedBrace else .badCount)
      | .emptyCount => throw .badCount
      | .misordered => throw .badCount
    if c == 92 then
      match rest with
      | [] => throw .trailingBackslash
      | e :: more =>
        if !d.extended && e == ch '(' then openGroup more
        else if !d.extended && e == ch ')' then closeGroup more
        else if !d.extended && e == ch '|' then bar more
        else if !d.extended && e == ch '{' then count more [ch '{']
        else if !d.extended && e == ch '}' then scan d more (s.emit (.atom (.byte e)) .afterAtom) fuel
        else if !d.extended && (e == ch '+' || e == ch '?') then
          scan d more (← s.addRepeat d (if e == ch '+' then 1 else 0) (if e == ch '+' then none else some 1) [e] false) fuel
        else if 49 ≤ e && e ≤ 57 then
          let n := (e - 48).toNat
          if s.closed.contains n then scan d more (s.emit (.atom (.backref n)) .afterAtom) fuel
          else throw .badBackReference
        else
          match escapeToken e with
          | some (.anchor a) => scan d more (s.emit (.anchor a) .branchStart) fuel
          | some t => scan d more (s.emit t .afterAtom) fuel
          | none => scan d more (s.emit (.atom (.byte e)) .afterAtom) fuel
    else if c == ch '[' then
      let (negated, items, after) ← readBracket rest
      let inside := rest.take (rest.length - after.length - 1)
      if d.bareClassRefused && inside.length ≥ 3 && inside.head? == some (ch ':') &&
          inside.getLast? == some (ch ':') then throw .bareClass
      scan d after (s.emit (.atom (.set negated items)) .afterAtom) fuel
    else if c == ch '.' then atom .anyByte
    else if c == ch '^' then
      if d.extended || s.caretAnchors then scan d rest (s.emit (.anchor .lineStart) .branchStart) fuel
      else atom (.byte c)
    else if c == ch '$' then
      if d.extended || endsAlternative rest then scan d rest (s.emit (.anchor .lineEnd) .branchStart) fuel
      else atom (.byte c)
    else if c == ch '*' then scan d rest (← s.addRepeat d 0 none [c] false) fuel
    else if d.extended && c == ch '+' then scan d rest (← s.addRepeat d 1 none [c] false) fuel
    else if d.extended && c == ch '?' then scan d rest (← s.addRepeat d 0 (some 1) [c] false) fuel
    else if d.extended && c == ch '{' then count rest [c]
    else if d.extended && c == ch '(' then openGroup rest
    else if d.extended && c == ch ')' then
      if s.opened.isEmpty then atom (.byte c) else closeGroup rest
    else if d.extended && c == ch '|' then bar rest
    else atom (.byte c)

/-- A group being built: its number (none for the whole pattern), its finished
alternatives and the pieces of the current one, both last first. -/
structure Frame where
  index : Option Nat
  branches : List Node := []
  pieces : List Node := []
  deriving Inhabited

/-- The pieces of an alternative as one node. -/
def sequence (pieces : List Node) : Node :=
  match pieces.reverse with
  | [] => .empty
  | first :: rest => rest.foldl .seq first

/-- Alternatives as one node, the first preferred. -/
def alternatives : List Node → Node
  | [] => .empty
  | [n] => n
  | n :: rest => .alt n (alternatives rest)

/-- A frame's alternatives as one node. -/
def Frame.node (f : Frame) : Node := alternatives (sequence f.pieces :: f.branches).reverse

/-- Build the tree of tokens. -/
def build (tokens : List Token) : Except PatternError Node :=
  go tokens { index := none } []
where
  /-- Token after token, with the innermost open group and those around it. -/
  go : List Token → Frame → List Frame → Except PatternError Node
    | [], f, [] => pure f.node
    | [], _, _ :: _ => throw .unmatchedOpen
    | t :: rest, f, outer =>
      match t with
      | .atom n => go rest { f with pieces := n :: f.pieces } outer
      | .anchor a => go rest { f with pieces := .anchor a :: f.pieces } outer
      | .repeat lo hi =>
        match f.pieces with
        | p :: ps => go rest { f with pieces := .rep p lo hi :: ps } outer
        | [] => go rest f outer
      | .open i => go rest { index := some i } (f :: outer)
      | .close =>
        match outer with
        | parent :: more =>
          let g := Node.group (f.index.getD 0) f.node
          go rest { parent with pieces := g :: parent.pieces } more
        | [] => throw .unmatchedClose
      | .bar => go rest { f with branches := sequence f.pieces :: f.branches, pieces := [] } outer

/-- Read a written pattern in a dialect. -/
def compile (d : Dialect) (text : List UInt8) (ignoreCase : Bool := false) : Except PatternError Compiled := do
  let s ← scan d text {} (text.length + 1)
  if !s.opened.isEmpty then throw .unmatchedOpen
  let node ← build s.out.toList
  pure { node, groups := s.groups, ignoreCase }

/-- A pattern matching a string exactly. -/
def Compiled.ofBytes (bs : List UInt8) (ignoreCase : Bool := false) : Compiled :=
  { node := Node.ofBytes bs, groups := 0, ignoreCase }

end PseudoTerm.Pattern
