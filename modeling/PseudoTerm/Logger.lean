/-!
# Loggers

A logger writes lines that start with a prefix and the date and time (flags 3: date and
time of day).  When colours are off the prefix is written plainly; after logging is
switched off every logger made writes nowhere.
-/

namespace PseudoTerm

/-- A line logger: its prefix, its line flags and whether its output is thrown away. -/
structure Logger where
  prefixText : String
  flags : Nat
  discarded : Bool
  deriving Repr, Inhabited

namespace Logger

/-- Date and time of day on every line. -/
def standardFlags : Nat := 3

/-- A logger with a prefix; the colour is not used when colours are off. -/
def make (prefixText _color : String) (quiet : Bool) : Logger :=
  ⟨prefixText, standardFlags, quiet⟩

end Logger

end PseudoTerm
