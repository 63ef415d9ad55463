import PseudoTerm.Fault

/-!
# Relaying bytes from a source to a sink

A relay reads chunks from a source and hands each non-empty chunk to a sink, until the
source reports an end or an error.  It stops early when the sink fails, claims a count
outside `0 … chunk length` (an invalid result, counted as nothing written), or takes
fewer bytes than it was given (a short write).  Every positive count the sink accepts is
added to the total and, when metrics are on, reported as one chunk size.  The end of
the source is not an error; any other source error is the relay's error, unless the
sink failed first.

A source is given by the results of its successive reads: bytes and an optional fault.
-/

namespace PseudoTerm.Relay

/-- The result of one read: the bytes read and the fault reported with them. -/
structure ReadResult where
  data : List UInt8
  fault : Option Fault
  deriving Repr, Inhabited

/-- What a sink answers to one write: the count it claims and a fault. -/
structure WriteAnswer where
  count : Int
  fault : Option Fault
  deriving Repr, Inhabited

/-- A sink with state `σ`. -/
structure Sink (σ : Type) where
  write : σ → List UInt8 → σ × WriteAnswer

/-- The outcome of a relay: bytes accepted in total, the fault that ended it, and the
chunk sizes reported on the metrics channel. -/
structure Outcome where
  written : Nat
  fault : Option Fault
  chunks : List Nat
  deriving Repr, Inhabited

/-- The fault of a chunk whose write claims an impossible count. -/
def invalidWrite : Fault := .text "invalid write result"

/-- Relay the reads in order into the sink. -/
def run {σ : Type} (sink : Sink σ) (metrics : Bool) : σ → List ReadResult → Outcome × σ
  | s, [] => (⟨0, none, []⟩, s)
  | s, r :: rest =>
    let finish (s : σ) : Outcome × σ :=
      match r.fault with
      | none => let (o, s') := run sink metrics s rest; (o, s')
      | some .endOfStream => (⟨0, none, []⟩, s)
      | some f => (⟨0, some f, []⟩, s)
    if r.data.isEmpty then finish s
    else
      let (s1, answer) := sink.write s r.data
      let valid := answer.count ≥ 0 && answer.count ≤ r.data.length
      let accepted : Nat := if valid then answer.count.toNat else 0
      let writeFault : Option Fault :=
        if valid then answer.fault else some (answer.fault.getD invalidWrite)
      let reported := if metrics && accepted > 0 then [accepted] else []
      let stopped : Option Fault :=
        match writeFault with
        | some f => some f
        | none => if accepted ≠ r.data.length then some .shortWrite else none
      match stopped with
      | some f => (⟨accepted, some f, reported⟩, s1)
      | none =>
        let (o, s2) := finish s1
        (⟨accepted + o.written, o.fault, reported ++ o.chunks⟩, s2)

/-- The largest chunk a relay asks for: 32 KiB, or a limit below that (at least one). -/
def bufferSize (limit : Option Int) : Nat :=
  match limit with
  | some n => if n < 32768 then (if n < 1 then 1 else n.toNat) else 32768
  | none => 32768

/-- The reads of a source holding `data`, returning at most `chunk` bytes a read (0: no
bound) into a buffer of `buffer` bytes, ending with `final`, which comes together with
the last bytes when `withLast` is set; `limit` stops it after that many bytes. -/
def sourceReads (data : List UInt8) (chunk buffer : Nat) (limit : Option Int)
    (final : Fault) (withLast : Bool) : List ReadResult :=
  go data (limit.map fun n => if n < 0 then 0 else n.toNat) (data.length + 2)
where
  /-- The remaining reads, from the remaining bytes and the remaining limit. -/
  go (rest : List UInt8) (left : Option Nat) : Nat → List ReadResult
    | 0 => []
    | fuel + 1 =>
      match left with
      | some 0 => [⟨[], some .endOfStream⟩]
      | _ =>
        let want := min buffer (left.getD buffer)
        let want := if chunk = 0 then want else min want chunk
        if rest.isEmpty then [⟨[], some final⟩]
        else
          let piece := rest.take want
          let rest' := rest.drop want
          let left' := left.map (· - piece.length)
          if rest'.isEmpty && withLast then [⟨piece, some final⟩]
          else ⟨piece, none⟩ :: go rest' left' fuel

/-- The sinks the relay is exercised with. -/
inductive SinkKind where
  /-- Takes everything. -/
  | accepting
  /-- Takes at most `limit` bytes a write, without a fault. -/
  | short (limit : Nat)
  /-- Takes `limit` bytes in total, then what fits and the fault `disk full`. -/
  | fullAfter (limit : Nat)
  /-- Claims a count of -1. -/
  | negative
  /-- Claims a count of -1 with the fault `broken writer`. -/
  | negativeFailing
  /-- Takes everything and claims one byte more. -/
  | overcounting
  deriving Repr, Inhabited

/-- The state of an exercised sink: what it holds and how often it was written. -/
structure Recorded where
  held : List UInt8 := []
  calls : Nat := 0
  deriving Repr, Inhabited

/-- The behaviour of each exercised sink. -/
def SinkKind.sink : SinkKind → Sink Recorded
  | .accepting => ⟨fun s d => ({ held := s.held ++ d, calls := s.calls + 1 }, ⟨d.length, none⟩)⟩
  | .short limit => ⟨fun s d =>
      let taken := d.take limit
      ({ held := s.held ++ taken, calls := s.calls + 1 }, ⟨taken.length, none⟩)⟩
  | .fullAfter limit => ⟨fun s d =>
      let room := limit - s.held.length
      let taken := d.take room
      let fault := if taken.length < d.length then some (Fault.text "disk full") else none
      ({ held := s.held ++ taken, calls := s.calls + 1 }, ⟨taken.length, fault⟩)⟩
  | .negative => ⟨fun s _ => ({ s with calls := s.calls + 1 }, ⟨-1, none⟩)⟩
  | .negativeFailing => ⟨fun s _ =>
      ({ s with calls := s.calls + 1 }, ⟨-1, some (Fault.text "broken writer")⟩)⟩
  | .overcounting => ⟨fun s d =>
      ({ held := s.held ++ d, calls := s.calls + 1 }, ⟨d.length + 1, none⟩)⟩

end PseudoTerm.Relay
