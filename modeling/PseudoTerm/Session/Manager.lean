import PseudoTerm.Session.Basic

/-!
# Session managers

A manager keeps the live sessions in a registry: starting a session registers it
under the next id, and a thread removes it as soon as the session is done.  Killing
all kills every registered session; one that is done already is passed over.
-/

namespace PseudoTerm.Control

open PseudoTerm.Machine PseudoTerm.Config

/-- A registry of live sessions. -/
structure Manager where
  key : Nat
  deriving DecidableEq, Repr, Inhabited

namespace Manager

/-- An empty manager. -/
def make : Prog Memory Manager := do
  let key ← create fun k m => { m with registries := m.registries.insert k {} }
  pure ⟨key⟩

/-- Start a session and register it; answers its id and the session. -/
def start (mgr : Manager) (host : Host) (spec : SessionSpec) : Prog Memory (Except Fault (Nat × Session)) := do
  match ← startSession host spec with
  | .error f => pure (.error f)
  | .ok s =>
    let id ← change (fun m => m.modifyRegistry mgr.key fun r => (r.add s).2)
      fun m => (m.registry mgr.key).lastId
    Sys.spawnThread do
      s.awaitDone
      change (fun m => m.modifyRegistry mgr.key fun r => (r.delete id).toOption.getD r) fun _ => ()
    pure (.ok (id, s))

/-- The live session under an id. -/
def get (mgr : Manager) (id : Int) : Prog Memory (Except Fault Session) :=
  inspect fun m => (m.registry mgr.key).get id

/-- The live sessions by id. -/
def list (mgr : Manager) : Prog Memory (List (Nat × Session)) :=
  inspect fun m => (m.registry mgr.key).toList

/-- The number of live sessions. -/
def size (mgr : Manager) : Prog Memory Nat := inspect fun m => (m.registry mgr.key).size

/-- Kill every live session. -/
def killAll (mgr : Manager) : Prog Memory Unit := do
  for (_, s) in ← mgr.list do
    let _ ← s.kill

end Manager

end PseudoTerm.Control
