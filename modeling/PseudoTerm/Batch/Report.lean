import PseudoTerm.Fault
import PseudoTerm.Text.Duration

/-!
# Batch reports

After a batch, one line per session: `ok` when the session ran and exited with code 0,
`fail` otherwise; its name, the number of output bytes, the run time rounded to the
millisecond, and either `exit <code>` or the error that ended it.  Columns are padded to
fixed widths counted in characters.
-/

namespace PseudoTerm.Batch

/-- How one session of a batch ended. -/
structure Outcome where
  name : String
  exitCode : Int := -1
  bytes : Int := 0
  /-- The run time in nanoseconds. -/
  duration : Int := 0
  fault : Option Fault := none
  deriving Repr, Inhabited

/-- Whether the session ran and exited with code 0. -/
def Outcome.ok (o : Outcome) : Bool := o.fault.isNone && o.exitCode == 0

/-- Pad a text with spaces on the right to `width` characters. -/
def padRight (width : Nat) (s : String) : String :=
  s ++ String.ofList (List.replicate (width - s.length) ' ')

/-- Pad a text with spaces on the left to `width` characters. -/
def padLeft (width : Nat) (s : String) : String :=
  String.ofList (List.replicate (width - s.length) ' ') ++ s

/-- The report line of one session, with the given text as the time column. -/
def Outcome.lineWith (o : Outcome) (timeColumn : String) : String :=
  let status := if o.ok then "ok" else "fail"
  let detail := match o.fault with
    | some f => if o.ok then s!"exit {o.exitCode}" else f.message
    | none => s!"exit {o.exitCode}"
  padRight 4 status ++ " " ++ padRight 20 o.name ++ " " ++ padLeft 8 (toString o.bytes) ++
    " bytes " ++ timeColumn ++ "  " ++ detail ++ "\n"

/-- The report line of one session. -/
def Outcome.line (o : Outcome) : String :=
  o.lineWith (padLeft 10 (Text.durationText (Text.roundDuration o.duration 1000000)))

/-- The report of a batch and the number of sessions that failed. -/
def report (outcomes : List Outcome) : String × Nat :=
  (String.join (outcomes.map Outcome.line), (outcomes.filter (!·.ok)).length)

end PseudoTerm.Batch
