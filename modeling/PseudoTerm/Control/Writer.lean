import PseudoTerm.Control.Channel
import PseudoTerm.Relay

/-!
# Writers and relaying output into them

A writer takes chunks of bytes and answers how many it took and why it stopped, and
can be closed.  The writers used here keep the bytes in a shared buffer, write them to
a descriptor (naming the file in a failure), or drop them.

Relaying reads chunks from a source and writes each non-empty one, under the rules of
`PseudoTerm.Relay`: a count outside `0 … chunk length` is an invalid write counted as
nothing, fewer bytes taken than given stops the relay as a short write, and every
positive count is added to the total and, when a metrics channel is given, sent on it.
The end of the source is no error.
-/

namespace PseudoTerm.Control

open PseudoTerm.Machine

/-- Something that takes bytes. -/
structure Writer where
  write : ByteArray → Prog Memory (Int × Option Fault)
  close : Prog Memory (Option Fault)

namespace Writer

/-- A writer dropping everything it is given. -/
def discard : Writer := ⟨fun d => pure (d.size, none), pure none⟩

/-- A writer appending to shared buffer `k`. -/
def buffer (k : Nat) : Writer :=
  ⟨fun d => change (fun m => { m with buffers := m.buffers.modify k (· ++ d) }) fun _ => (d.size, none),
   pure none⟩

/-- A writer on descriptor `fd` of the file named `name`; closing it closes the
descriptor. -/
def descriptor (fd : Nat) (name : String) : Writer :=
  ⟨fun d => do
    let (n, err) ← Sys.writeAll (μ := Memory) fd d
    pure (n, err.map fun e => .path "write" name (.errno e)),
   do
    match ← Sys.close (μ := Memory) fd with
    | .ok () => pure none
    | .error e => pure (some (.path "close" name (.errno e)))⟩

/-- A writer on descriptor `fd` that stays open when closed. -/
def standard (fd : Nat) (name : String) : Writer := { descriptor fd name with close := pure none }

end Writer

/-- A new shared buffer; answers its key. -/
def makeBuffer : Prog Memory Nat := create fun k m => { m with buffers := m.buffers.insert k .empty }

/-- The largest chunk a relay reads at once. -/
def relayChunk : Nat := 32768

/-- Relay chunks read by `read` into `w` until the source ends or fails or the writer
stops; answers the bytes written and the fault that ended the relay. -/
def relay (read : Nat → Prog Memory (Except Fault ByteArray)) (w : Writer) (metrics : Option Nat) :
    Nat → Prog Memory (Nat × Option Fault)
  | 0 => pure (0, none)
  | fuel + 1 => do
    match ← read relayChunk with
    | .error .endOfStream => pure (0, none)
    | .error f => pure (0, some f)
    | .ok chunk =>
      if chunk.size == 0 then relay read w metrics fuel
      else
        let (count, fault) ← w.write chunk
        let valid := 0 ≤ count && count ≤ chunk.size
        let accepted : Nat := if valid then count.toNat else 0
        let writeFault := if valid then fault else some (fault.getD Relay.invalidWrite)
        if accepted > 0 then
          if let some ch := metrics then send ch accepted
        match writeFault with
        | some f => pure (accepted, some f)
        | none =>
          if accepted != chunk.size then pure (accepted, some .shortWrite)
          else
            let (rest, f) ← relay read w metrics fuel
            pure (accepted + rest, f)

/-- How many chunks a relay copies at most. -/
def relayRounds : Nat := 10000000

end PseudoTerm.Control
