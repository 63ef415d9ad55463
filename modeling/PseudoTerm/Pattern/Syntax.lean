/-!
# Patterns: the regular expressions of the text utilities

A pattern is a tree over bytes: single bytes, any byte, sets of bytes, anchors, numbered
groups and references back to them, sequences, alternatives and counted repetition.  The
tree is binary (`seq`, `alt`) so that matching recurses on it structurally.

Two written forms read into this tree: the basic one (`\(`, `\{`, `\|` are the operators,
`*` is the only bare one) and the extended one (`(`, `{`, `|`, `+`, `?` are bare).  They
differ also in what a misplaced operator means; a `Dialect` records each such choice.
The problems a written pattern can have are `PatternError`, each with the message the
utilities print.
-/

namespace PseudoTerm.Pattern

/-- One item of a set of bytes. -/
inductive SetItem where
  /-- The bytes from one to another, both included. -/
  | range (lo hi : UInt8)
  /-- A named class such as `alpha` or `digit`. -/
  | named (name : String)
  deriving DecidableEq, Repr, Inhabited

/-- Where a zero-width test looks. -/
inductive Anchor where
  /-- The start of the line (of the subject, or after a line feed in multi-line mode). -/
  | lineStart
  /-- The end of the line. -/
  | lineEnd
  /-- The start of the whole subject. -/
  | subjectStart
  /-- The end of the whole subject. -/
  | subjectEnd
  /-- A word byte on one side and not on the other. -/
  | wordEdge
  /-- Not a word edge. -/
  | insideWord
  /-- A word starts. -/
  | wordStart
  /-- A word ends. -/
  | wordEnd
  deriving DecidableEq, Repr, Inhabited

/-- A pattern. -/
inductive Node where
  /-- Matches nothing, successfully. -/
  | empty
  /-- One byte. -/
  | byte (b : UInt8)
  /-- Any byte. -/
  | anyByte
  /-- A byte in a set, or with `negated` one not in it. -/
  | set (negated : Bool) (items : List SetItem)
  /-- A zero-width test. -/
  | anchor (a : Anchor)
  /-- A group: what the body matches is remembered under its number. -/
  | group (index : Nat) (body : Node)
  /-- The bytes a group last matched, again. -/
  | backref (index : Nat)
  /-- One pattern, then another. -/
  | seq (first second : Node)
  /-- One pattern or another, the first preferred. -/
  | alt (left right : Node)
  /-- A pattern from `min` times to `max` times (no bound when `none`). -/
  | rep (body : Node) (min : Nat) (max : Option Nat)
  deriving Repr, Inhabited

/-- What a misplaced operator means in a written form. -/
inductive Misplaced where
  /-- It stands for itself. -/
  | literal
  /-- It is left out. -/
  | skipped
  /-- It is an error. -/
  | refused
  deriving DecidableEq, Repr, Inhabited

/-- A written form of patterns. -/
structure Dialect where
  /-- Whether the operators are bare (`(`, `|`, `{`, `+`, `?`). -/
  extended : Bool
  /-- What a repetition operator with nothing before it means. -/
  leadingRepeat : Misplaced
  /-- What a count in braces with nothing before it means in the basic form. -/
  leadingCount : Misplaced := .refused
  /-- Whether a `{` that does not start a sound count stands for itself. -/
  looseBrace : Bool := false
  /-- Whether a set written like a class name between colons (`[:space:]`) is refused. -/
  bareClassRefused : Bool := false
  deriving Repr, Inhabited

/-- The basic form. -/
def Dialect.basic : Dialect := { extended := false, leadingRepeat := .literal }

/-- The basic form as the line-selecting utility reads it. -/
def Dialect.basicLoose : Dialect :=
  { extended := false, leadingRepeat := .literal, leadingCount := .literal, bareClassRefused := true }

/-- The extended form as the line-selecting utility reads it. -/
def Dialect.extendedLoose : Dialect :=
  { extended := true, leadingRepeat := .skipped, looseBrace := true, bareClassRefused := true }

/-- The extended form, strictly. -/
def Dialect.extendedStrict : Dialect := { extended := true, leadingRepeat := .refused }

/-- What can be wrong with a written pattern. -/
inductive PatternError where
  | badCollation
  | badClass
  | trailingBackslash
  | badBackReference
  | unmatchedBracket
  | unmatchedOpen
  | unmatchedBrace
  | badCount
  | badRange
  | badRepeat
  | prematureEnd
  | tooBig
  | unmatchedClose
  | bareClass
  deriving DecidableEq, Repr, Inhabited

/-- The message of a problem. -/
def PatternError.message : PatternError → String
  | .badCollation => "Invalid collation character"
  | .badClass => "Invalid character class name"
  | .trailingBackslash => "Trailing backslash"
  | .badBackReference => "Invalid back reference"
  | .unmatchedBracket => "Unmatched [, [^, [:, [., or [="
  | .unmatchedOpen => "Unmatched ( or \\("
  | .unmatchedBrace => "Unmatched \\\x7b"
  | .badCount => "Invalid content of \\\x7b\\\x7d"
  | .badRange => "Invalid range end"
  | .badRepeat => "Invalid preceding regular expression"
  | .prematureEnd => "Premature end of regular expression"
  | .tooBig => "Regular expression too big"
  | .unmatchedClose => "Unmatched ) or \\)"
  | .bareClass => "character class syntax is [[:space:]], not [:space:]"

/-- A pattern ready to match: the tree, how many groups it has, whether case is
ignored, and whether lines inside the subject count. -/
structure Compiled where
  node : Node
  groups : Nat
  ignoreCase : Bool := false
  /-- Whether `^` and `$` also match at line feeds inside the subject, where `.` and
  negated sets do not match. -/
  multiline : Bool := false
  deriving Repr, Inhabited

/-- Whether a byte belongs to a word: a letter, a digit or `_`. -/
def wordByte (b : UInt8) : Bool :=
  (48 ≤ b && b ≤ 57) || (65 ≤ b && b ≤ 90) || (97 ≤ b && b ≤ 122) || b == 95

/-- The lower-case form of a byte. -/
def lowerByte (b : UInt8) : UInt8 := if 65 ≤ b && b ≤ 90 then b + 32 else b

/-- The upper-case form of a byte. -/
def upperByte (b : UInt8) : UInt8 := if 97 ≤ b && b ≤ 122 then b - 32 else b

/-- The names of the classes of bytes. -/
def classNames : List String :=
  ["alpha", "upper", "lower", "digit", "xdigit", "space", "print", "punct", "graph", "cntrl",
   "blank", "alnum"]

/-- Whether a byte is in a named class. -/
def inClass (name : String) (b : UInt8) : Bool :=
  let upper := 65 ≤ b && b ≤ 90
  let lower := 97 ≤ b && b ≤ 122
  let digit := 48 ≤ b && b ≤ 57
  match name with
  | "alpha" => upper || lower
  | "upper" => upper
  | "lower" => lower
  | "digit" => digit
  | "xdigit" => digit || (65 ≤ b && b ≤ 70) || (97 ≤ b && b ≤ 102)
  | "space" => b == 32 || (9 ≤ b && b ≤ 13)
  | "print" => 32 ≤ b && b < 127
  | "graph" => 32 < b && b < 127
  | "punct" => 32 < b && b < 127 && !(upper || lower || digit)
  | "cntrl" => b < 32 || b == 127
  | "blank" => b == 32 || b == 9
  | "alnum" => upper || lower || digit
  | _ => false

/-- Whether a byte is in the items of a set. -/
def SetItem.holds (item : SetItem) (b : UInt8) : Bool :=
  match item with
  | .range lo hi => lo ≤ b && b ≤ hi
  | .named n => inClass n b

/-- Whether a set matches a byte, ignoring case when asked. -/
def setHolds (negated : Bool) (items : List SetItem) (ignoreCase : Bool) (b : UInt8) : Bool :=
  let hit (c : UInt8) := items.any (·.holds c)
  let found := hit b || (ignoreCase && (hit (lowerByte b) || hit (upperByte b)))
  found != negated

/-- A pattern matching a string of bytes exactly. -/
def Node.ofBytes (bs : List UInt8) : Node :=
  bs.foldr (fun b acc => match acc with
    | .empty => .byte b
    | _ => .seq (.byte b) acc) .empty

end PseudoTerm.Pattern
