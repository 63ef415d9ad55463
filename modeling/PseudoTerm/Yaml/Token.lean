/-!
# YAML tokens, positions and problems

Positions count characters, lines and columns from zero.  A problem records the stage
that found it (reading the characters, scanning tokens, parsing events or composing
nodes), an optional context with its position, and the problem with its position.

The text of a problem names a line when the context's line, or else the problem's line,
is not the first.  Scanning problems report the line counted from one, parsing problems
the line as counted from zero, which is where the parser's position already stands
after the line break that ends the offending line.
-/

namespace PseudoTerm.Yaml

/-- A position in the input. -/
structure Mark where
  index : Nat := 0
  line : Nat := 0
  column : Nat := 0
  deriving DecidableEq, Repr, Inhabited

/-- The stage that found a problem. -/
inductive Stage where
  | reader
  | scanner
  | parser
  | composer
  deriving DecidableEq, Repr, Inhabited

/-- A problem found while reading YAML. -/
structure Problem where
  stage : Stage
  context : String := ""
  contextMark : Mark := {}
  problem : String
  problemMark : Mark := {}
  deriving Repr, Inhabited

/-- The text of a problem, with the line it is reported at when that is not the first. -/
def Problem.text (p : Problem) : String :=
  let shift := if p.stage == .scanner then 1 else 0
  let line :=
    if p.contextMark.line != 0 then p.contextMark.line + shift
    else if p.problemMark.line != 0 then p.problemMark.line + shift
    else 0
  (if line != 0 then s!"line {line}: " else "") ++ p.problem

/-- How a scalar was written. -/
inductive ScalarStyle where
  | plain
  | singleQuoted
  | doubleQuoted
  | literal
  | folded
  deriving DecidableEq, Repr, Inhabited

/-- The kinds of tokens. -/
inductive TokenKind where
  | streamStart
  | streamEnd
  | versionDirective (major minor : Nat)
  | tagDirective (handle tagPrefix : String)
  | documentStart
  | documentEnd
  | blockSequenceStart
  | blockMappingStart
  | blockEnd
  | flowSequenceStart
  | flowSequenceEnd
  | flowMappingStart
  | flowMappingEnd
  | blockEntry
  | flowEntry
  | key
  | value
  | reference (name : String)
  | anchor (name : String)
  | tag (handle suffix : String)
  | scalar (text : String) (style : ScalarStyle)
  deriving DecidableEq, Repr, Inhabited

/-- A token with the positions where it starts and ends. -/
structure Token where
  kind : TokenKind
  start : Mark
  stop : Mark
  deriving Repr, Inhabited

end PseudoTerm.Yaml
