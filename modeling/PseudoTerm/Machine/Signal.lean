/-!
# Signals

A signal is a number from 1 to 64.  The first 31 have names; the rest are real-time
signals.  A process that neither ignores nor catches a signal takes the signal's default
action: most signals end the process, `CHLD`, `URG` and `WINCH` are dropped, `STOP`,
`TSTP`, `TTIN` and `TTOU` stop it and `CONT` lets a stopped process go on.  `KILL` and
`STOP` can be neither ignored nor caught.
-/

namespace PseudoTerm.Machine

/-- The hang-up signal, sent when a terminal's session ends. -/
def sighup : Nat := 1
/-- The interrupt signal (the terminal's `INTR` character). -/
def sigint : Nat := 2
/-- The quit signal (the terminal's `QUIT` character). -/
def sigquit : Nat := 3
/-- The signal no process can ignore or catch. -/
def sigkill : Nat := 9
/-- The signal of a write to a pipe nobody reads. -/
def sigpipe : Nat := 13
/-- The polite termination request. -/
def sigterm : Nat := 15
/-- The signal of a child's change of state. -/
def sigchld : Nat := 17
/-- The signal that lets a stopped process go on. -/
def sigcont : Nat := 18
/-- The signal that stops a process unconditionally. -/
def sigstop : Nat := 19
/-- The stop signal of the terminal's `SUSP` character. -/
def sigtstp : Nat := 20
/-- The signal of a background read from the controlling terminal. -/
def sigttin : Nat := 21
/-- The signal of a background write to the controlling terminal. -/
def sigttou : Nat := 22
/-- The signal of a changed window size. -/
def sigwinch : Nat := 28

/-- The largest signal number. -/
def maxSignal : Nat := 64

/-- The names of signals 1 to 31, in order. -/
def signalNames : List String :=
  ["HUP", "INT", "QUIT", "ILL", "TRAP", "ABRT", "BUS", "FPE", "KILL", "USR1", "SEGV",
   "USR2", "PIPE", "ALRM", "TERM", "STKFLT", "CHLD", "CONT", "STOP", "TSTP", "TTIN",
   "TTOU", "URG", "XCPU", "XFSZ", "VTALRM", "PROF", "WINCH", "IO", "PWR", "SYS"]

/-- The name of a signal without its `SIG` prefix, if it has one. -/
def signalName? (n : Nat) : Option String :=
  if n = 0 then none else signalNames[n - 1]?

/-- The name a signal is listed under: its name for signals 1 to 31, the real-time signals
from 34 counted up from `RTMIN` and down from `RTMAX` (meeting halfway), the number for
the two signals in between. -/
def listedSignalName (n : Nat) : String :=
  match signalName? n with
  | some name => name
  | none =>
    if n == 34 then "RTMIN"
    else if n == maxSignal then "RTMAX"
    else if 34 < n && n ≤ 49 then s!"RTMIN+{n - 34}"
    else if 49 < n && n < maxSignal then s!"RTMAX-{maxSignal - n}"
    else toString n

/-- The number of a signal name, given with or without its `SIG` prefix, in any case. -/
def signalNumber? (name : String) : Option Nat :=
  let upper := name.toUpper
  let bare := if upper.startsWith "SIG" then String.ofList (upper.toList.drop 3) else upper
  match signalNames.idxOf? bare with
  | some i => some (i + 1)
  | none => if bare == "IOT" then some 6 else if bare == "POLL" then some 29 else none

/-- What a signal does to a process that has not chosen otherwise. -/
inductive SignalEffect where
  | terminate
  | drop
  | stop
  | resume
  deriving DecidableEq, Repr

/-- The default action of a signal. -/
def defaultEffect (n : Nat) : SignalEffect :=
  if n = sigchld || n = 23 || n = sigwinch then .drop
  else if n = sigstop || n = sigtstp || n = sigttin || n = sigttou then .stop
  else if n = sigcont then .resume
  else .terminate

/-- How a process has chosen to treat a signal. -/
inductive Disposition where
  | byDefault
  | ignore
  | catch
  deriving DecidableEq, Repr, Inhabited

/-- Whether a process may choose how to treat a signal. -/
def signalChoosable (n : Nat) : Bool := n != sigkill && n != sigstop

end PseudoTerm.Machine
