import PseudoTerm.Control.Memory

/-!
# Channels and counters

A channel passes numbers between threads in order through a buffer of fixed
capacity: sending waits while the buffer is full, receiving waits while it is empty,
and once the channel is closed receiving answers nothing after the last buffered
number.  A counter is a shared number; waiting for a group waits until its counter
comes down to zero.
-/

namespace PseudoTerm.Control

open PseudoTerm.Machine

namespace Channel

/-- Put a number at the end of the buffer. -/
def push (c : Channel) (v : Int) : Channel := { c with items := c.items ++ [v] }

/-- Whether a sender can go on. -/
def hasRoom (c : Channel) : Bool := c.items.length < c.capacity || c.closed

/-- Whether a receiver can go on. -/
def hasItem (c : Channel) : Bool := !c.items.isEmpty || c.closed

end Channel

/-- A new channel holding up to `capacity` numbers; answers its key. -/
def makeChannel (capacity : Nat) : Prog Memory Nat :=
  create fun k m => { m with channels := m.channels.insert k { capacity } }

/-- Send a number, waiting while the buffer is full. -/
def send (k : Nat) (v : Int) : Prog Memory Unit := do
  let _ ← Sys.await (fun m => ((m.channels.get? k).map Channel.hasRoom).getD true)
    (fun m => m.modifyChannel k fun c => if c.closed then c else c.push v)

/-- Hand the next number, or the end, to the receiver with ticket `t`. -/
def Channel.hand (c : Channel) (t : Nat) : Channel :=
  match c.items with
  | v :: rest => { c with items := rest, handed := (t, some v) :: c.handed }
  | [] => { c with handed := (t, none) :: c.handed }

/-- Receive the next number, waiting while there is none; nothing once the channel is
closed and empty.  The number is taken in the same step as the wait ends, so two
receivers never get the same one. -/
def receive (k : Nat) : Prog Memory (Option Int) := do
  let ticket ← create fun _ m => m
  let m ← Sys.await (fun m => ((m.channels.get? k).map Channel.hasItem).getD true)
    (fun m => m.modifyChannel k (·.hand ticket))
  let got := ((m.channels.get? k).bind fun c => c.handed.lookup ticket).join
  change (fun m => m.modifyChannel k fun c => { c with handed := c.handed.filter (·.1 != ticket) }) fun _ => ()
  pure got

/-- Close a channel. -/
def closeChannel (k : Nat) : Prog Memory Unit :=
  change (fun m => m.modifyChannel k fun c => { c with closed := true }) fun _ => ()

/-- A new counter starting at `start`; answers its key. -/
def makeCounter (start : Int := 0) : Prog Memory Nat :=
  create fun k m => { m with counters := m.counters.insert k start }

/-- Add to a counter. -/
def addTo (k : Nat) (d : Int) : Prog Memory Unit := change (·.addCounter k d) fun _ => ()

/-- Wait until a counter is zero. -/
def awaitZero (k : Nat) : Prog Memory Unit := do
  let _ ← Sys.await fun m => m.counter k == 0

end PseudoTerm.Control
