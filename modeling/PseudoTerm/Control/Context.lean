import PseudoTerm.Control.Memory

/-!
# Cancellation contexts

A context tells the operations started under it to give up.  The background context
never ends; any other ends once, when it is cancelled (`context canceled`), when its
time runs out (`context deadline exceeded`), or when the context it hangs from ends,
whose cause it then takes.  A context made under one that has ended is ended from the
start.

A watch is a callback registered to run once a context ends, in a thread of its own.
The end of the context commits the callback: stopping a watch keeps the callback from
running only while the context goes on, and the answer says whether it was kept from
running.  When it was not, the caller can wait until the callback has run to its end.
A watch on the background context never runs.
-/

namespace PseudoTerm.Control

open PseudoTerm.Machine

/-- A cancellation context. -/
inductive Context where
  | background
  | shared (key : Nat)
  deriving DecidableEq, Repr, Inhabited

/-- A callback registered to run once a context ends: none on the background context,
and otherwise the key of its phase and the key of the context it waits on. -/
inductive Watch where
  | never
  | on (key : Nat) (context : Nat)
  deriving DecidableEq, Repr, Inhabited

namespace Context

/-- Why the context ended, or nothing while it goes on. -/
def cause? : Context → Prog Memory (Option Fault)
  | .background => pure none
  | .shared k => inspect (·.causeOf k)

/-- End a context with a cause, unless it has ended already. -/
def finish (c : Context) (cause : Fault) : Prog Memory Unit :=
  match c with
  | .background => pure ()
  | .shared k => change (·.endContext k cause) fun _ => ()

/-- Cancel a context. -/
def cancel (c : Context) : Prog Memory Unit := c.finish .canceled

/-- A new context that ends when cancelled or when `parent` ends. -/
def withCancel (parent : Context) : Prog Memory Context := do
  let k ← create fun k m =>
    let parentKey := match parent with
      | .background => none
      | .shared p => some p
    let inherited := parentKey.bind m.causeOf
    { m with contexts := m.contexts.insert k { cause := inherited, parent := parentKey } }
  pure (.shared k)

/-- Cancel a context after `micros` microseconds, from a thread of its own. -/
def cancelAfter (c : Context) (micros : Nat) : Prog Memory Unit :=
  Sys.spawnThread do
    Sys.sleep micros
    c.cancel

/-- A new context that also ends `micros` microseconds from now, with the cause that
its time ran out. -/
def withTimeout (parent : Context) (micros : Nat) : Prog Memory Context := do
  let c ← withCancel parent
  if micros == 0 then
    c.finish .deadlineExceeded
  else
    Sys.spawnThread do
      Sys.sleep micros
      c.finish .deadlineExceeded
  pure c

/-- Wait until the context ends; answers its cause. -/
def awaitEnd : Context → Prog Memory Fault
  | .background => do
    let _ ← Sys.await (μ := Memory) fun _ => false
    pure .canceled
  | .shared k => do
    let m ← Sys.await fun m => (m.causeOf k).isSome
    pure ((m.causeOf k).getD .canceled)

/-- The thread of watch `w` on context `k`: it waits until the watch is stopped or the
context ends, and then, unless the watch was stopped first, runs `f` and marks it run. -/
def watchThread (k w : Nat) (f : Prog Memory Unit) : Prog Memory Unit := do
  let m ← Sys.await (fun m => m.phaseOf w != .armed || (m.causeOf k).isSome)
    (fun m => if m.phaseOf w == .armed then m.setPhase w .running else m)
  if m.phaseOf w == .running then
    f
    change (·.setPhase w .fired) fun _ => ()

/-- Run `f` in a thread of its own once the context ends. -/
def afterEnd (c : Context) (f : Prog Memory Unit) : Prog Memory Watch :=
  match c with
  | .background => pure .never
  | .shared k => do
    let w ← create fun w m => { m with watches := m.watches.insert w .armed }
    Sys.spawnThread (watchThread k w f)
    pure (.on w k)

end Context

namespace Watch

/-- Keep the callback from running; answers whether it was kept from running, that
is, whether its thread had not yet taken it on, even when the context has already ended.
A watch is stopped once, by its owner. -/
def stop : Watch → Prog Memory Bool
  | .never => pure true
  | .on w _ =>
    change (fun m => if m.phaseOf w == .armed then m.setPhase w .stopped else m)
      (·.phaseOf w == .stopped)

/-- Wait until the callback has run to its end. -/
def awaitFired : Watch → Prog Memory Unit
  | .never => pure ()
  | .on w _ => do
    let _ ← Sys.await fun m => m.phaseOf w == .fired
    pure ()

end Watch

end PseudoTerm.Control
