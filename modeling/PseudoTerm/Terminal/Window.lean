/-!
# Terminal window sizes

A terminal's window size is a pair of 16-bit dimensions.  Requests carry 32-bit
dimensions; each one saturates at 65535 rather than wrapping.
-/

namespace PseudoTerm.Terminal

/-- The largest dimension a window can have. -/
def maxDimension : Nat := 65535

/-- A 32-bit dimension saturated to the 16-bit window field. -/
def clampDimension (v : Nat) : Nat := min v maxDimension

/-- A window size in columns and rows. -/
structure Window where
  cols : Nat := 0
  rows : Nat := 0
  deriving DecidableEq, Repr, Inhabited

/-- The window of a resize request, each dimension saturated. -/
def Window.ofRequest (cols rows : Nat) : Window := ⟨clampDimension cols, clampDimension rows⟩

end PseudoTerm.Terminal
