import PseudoTerm.Control.Pool
import PseudoTerm.Proofs.Team
import PseudoTerm.Proofs.PairSteps

/-!
# One step of a pool's threads

The threads of a pool share its queue and its two counters.  What they rely on is read
off the memory by `Pool.shared?`: the jobs buffered on the queue, its room, whether it
is closed, and the counts of jobs pending and running.  Each change a pool's own threads
make moves that view in one way: a worker takes the first buffered job (`handIn`), the
queuer puts one at the end (`pushIn`), a counter moves by one, or the view stays as it
was; the jobs themselves leave it alone (`Pool.Leaves`).

A worker goes through the stages of a round (`Pool.Stage`): it takes a ticket, waits for
a job, picks up what it was handed, counts the job as running, runs it, counts it as no
longer running and then as no longer pending.  `Pool.Stage.step` says what one answered
request does to a worker, as one of the moves of `Pool.Moves`, and
`Pool.Stage.Reached.move` what the move adds to the worker's history: the rounds it
finished (`Pool.Worked`) and the part of the next it has done.
-/

namespace PseudoTerm.Control

open PseudoTerm.Machine

namespace Channel

/-- Whether a receiver on channel `k` can go on: there is a number or the end. -/
def canTake (k : Nat) (m : Memory) : Bool := ((m.channels.get? k).map Channel.hasItem).getD true

/-- Whether a sender on channel `k` can go on: there is room, or the channel is closed. -/
def canPut (k : Nat) (m : Memory) : Bool := ((m.channels.get? k).map Channel.hasRoom).getD true

/-- Hand the next number of channel `k`, or its end, to ticket `t`. -/
def handIn (k t : Nat) (m : Memory) : Memory := m.modifyChannel k (·.hand t)

/-- Put `v` at the end of channel `k`, unless it is closed. -/
def pushIn (k : Nat) (v : Int) (m : Memory) : Memory :=
  m.modifyChannel k fun c => if c.closed then c else c.push v

/-- Forget what channel `k` handed to ticket `t`. -/
def clearIn (k t : Nat) (m : Memory) : Memory :=
  m.modifyChannel k fun c => { c with handed := c.handed.filter (·.1 != t) }

/-- What channel `k` handed to ticket `t`. -/
def handedTo (k t : Nat) (m : Memory) : Option Int :=
  ((m.channels.get? k).bind fun c => c.handed.lookup t).join

end Channel

/-- The end of a receive on channel `k` with ticket `t`: forget what was handed. -/
def pickUp (k t : Nat) (got : Option Int) : Prog Memory (Option Int) := do
  change (Channel.clearIn k t) fun _ => ()
  pure got

/-- A receive on channel `k` that holds ticket `t`. -/
def receiveAs (k t : Nat) : Prog Memory (Option Int) := do
  let m ← Sys.await (Channel.canTake k) (Channel.handIn k t)
  pickUp k t (Channel.handedTo k t m)

namespace Pool

/-! ## What a pool's threads share -/

/-- What the threads of a pool share: the jobs buffered on its queue, the queue's room
and whether it is closed, and the counts of jobs pending and running. -/
structure Shared where
  queued : List Int
  room : Nat
  closed : Bool
  pending : Int
  running : Int

/-- The shared records of a pool, once they all exist. -/
def shared? (pool : Pool) (m : Memory) : Option Shared :=
  match m.channels.get? pool.queue, m.counters.get? pool.pending, m.counters.get? pool.running with
  | some c, some p, some r => some ⟨c.items, c.capacity, c.closed, p, r⟩
  | _, _, _ => none

/-- A request that leaves a pool alone: on a memory holding the pool's records, its change
keeps what the pool's threads share. -/
def Leaves (pool : Pool) (r : Request Memory) : Prop :=
  ∀ f, r.change? = some f → ∀ m s, pool.shared? m = some s → pool.shared? (f m) = some s

variable {pool : Pool} {m : Memory} {s : Shared}

theorem shared?_eq_some_iff :
    pool.shared? m = some s ↔
      ∃ c, m.channels.get? pool.queue = some c ∧ s = ⟨c.items, c.capacity, c.closed,
        m.counter pool.pending, m.counter pool.running⟩ ∧
        (m.counters.get? pool.pending).isSome ∧ (m.counters.get? pool.running).isSome := by
  unfold shared? Memory.counter
  constructor
  · intro found
    split at found
    · rename_i c p r queue pending running
      cases found
      exact ⟨c, queue, by simp [pending, running], by simp [pending], by simp [running]⟩
    · cases found
  · rintro ⟨c, queue, rfl, pending, running⟩
    obtain ⟨p, pending⟩ := Option.isSome_iff_exists.mp pending
    obtain ⟨r, running⟩ := Option.isSome_iff_exists.mp running
    simp [queue, pending, running]

@[simp] theorem shared?_take : pool.shared? m.take = pool.shared? m := rfl

section Effects

variable (present : pool.shared? m = some s)
include present

theorem running_eq : m.counter pool.running = s.running := by
  obtain ⟨_, _, rfl, _⟩ := shared?_eq_some_iff.1 present
  rfl

theorem pending_eq : m.counter pool.pending = s.pending := by
  obtain ⟨_, _, rfl, _⟩ := shared?_eq_some_iff.1 present
  rfl

theorem canTake_eq : Channel.canTake pool.queue m = (!s.queued.isEmpty || s.closed) := by
  obtain ⟨c, queue, rfl, _⟩ := shared?_eq_some_iff.1 present
  simp [Channel.canTake, queue, Channel.hasItem]

theorem canPut_eq : Channel.canPut pool.queue m = (decide (s.queued.length < s.room) || s.closed) := by
  obtain ⟨c, queue, rfl, _⟩ := shared?_eq_some_iff.1 present
  simp [Channel.canPut, queue, Channel.hasRoom]

theorem shared?_handIn (t : Nat) :
    pool.shared? (Channel.handIn pool.queue t m) = some { s with queued := s.queued.tail } := by
  obtain ⟨c, queue, rfl, pending, running⟩ := shared?_eq_some_iff.1 present
  apply shared?_eq_some_iff.2
  refine ⟨c.hand t, by simp [Channel.handIn, Memory.modifyChannel, queue], ?_, pending, running⟩
  unfold Channel.hand
  split <;> simp_all [Channel.handIn, Memory.modifyChannel, Memory.counter]

theorem handedTo_handIn (t : Nat) :
    Channel.handedTo pool.queue t (Channel.handIn pool.queue t m) = s.queued.head? := by
  obtain ⟨c, queue, rfl, _⟩ := shared?_eq_some_iff.1 present
  simp only [Channel.handedTo, Channel.handIn, Memory.modifyChannel, Table.get?_modify_self, queue,
    Option.map_some, Option.bind_some]
  unfold Channel.hand
  split <;> simp_all

theorem shared?_clearIn (t : Nat) : pool.shared? (Channel.clearIn pool.queue t m) = some s := by
  obtain ⟨c, queue, rfl, pending, running⟩ := shared?_eq_some_iff.1 present
  apply shared?_eq_some_iff.2
  refine ⟨{ c with handed := c.handed.filter (·.1 != t) }, ?_, rfl, pending, running⟩
  simp [Channel.clearIn, Memory.modifyChannel, queue]

theorem shared?_pushIn (v : Int) (open_ : s.closed = false) :
    pool.shared? (Channel.pushIn pool.queue v m) = some { s with queued := s.queued ++ [v] } := by
  obtain ⟨c, queue, rfl, pending, running⟩ := shared?_eq_some_iff.1 present
  apply shared?_eq_some_iff.2
  simp only at open_
  refine ⟨c.push v, by simp [Channel.pushIn, Memory.modifyChannel, queue, open_], rfl, pending, running⟩

theorem shared?_addRunning (apart : pool.pending ≠ pool.running) (d : Int) :
    pool.shared? (m.addCounter pool.running d) = some { s with running := s.running + d } := by
  obtain ⟨c, queue, rfl, pending, running⟩ := shared?_eq_some_iff.1 present
  obtain ⟨r, found⟩ := Option.isSome_iff_exists.mp running
  apply shared?_eq_some_iff.2
  refine ⟨c, queue, ?_, ?_, ?_⟩ <;>
    simp [Memory.addCounter, Memory.counter, Table.get?_modify_other _ apart, found, pending]

theorem shared?_addPending (apart : pool.pending ≠ pool.running) (d : Int) :
    pool.shared? (m.addCounter pool.pending d) = some { s with pending := s.pending + d } := by
  obtain ⟨c, queue, rfl, pending, running⟩ := shared?_eq_some_iff.1 present
  obtain ⟨p, found⟩ := Option.isSome_iff_exists.mp pending
  apply shared?_eq_some_iff.2
  refine ⟨c, queue, ?_, ?_, ?_⟩ <;>
    simp [Memory.addCounter, Memory.counter, Table.get?_modify_other _ (Ne.symm apart), found, running]

end Effects

/-- A request that leaves the pool alone keeps what its threads share, whatever it
changes. -/
theorem Leaves.shared?_change
    {r : Request Memory}
    (leaves : pool.Leaves r)
    (found : pool.shared? m = some s) :
    pool.shared? ((r.change?.getD id) m) = some s := by
  cases change : r.change? with
  | none => exact found
  | some f => exact leaves f change m s found

/-! ## The stages of a worker -/

variable (pool : Pool) (job : Nat → Prog Memory Unit)

/-- What a worker does with what it received: runs the job and goes on, or ends. -/
def afterReceive (left : Nat) : Option Int → Prog Memory Unit
  | none => pure ()
  | some i => do
    pool.runJob job i.toNat
    work pool job left

/-- What is left of a round once its job has returned. -/
def uncount : Prog Memory Unit := do
  addTo pool.running (-1)
  addTo pool.pending (-1)

/-- Where a worker stands, with `left` rounds to go after the current one. -/
inductive Stage
  | idle (left : Nat)
  | ticketed (left t : Nat)
  | picking (left t : Nat) (got : Option Int)
  | starting (left : Nat) (i : Int)
  | running (left : Nat) (i : Int) (rest : Prog Memory Unit)
  | releasing (left : Nat) (i : Int)
  | stopped

/-- What a worker at a stage has left to do. -/
def Stage.prog : Stage → Prog Memory Unit
  | .idle left => work pool job left
  | .ticketed left t => receiveAs pool.queue t >>= afterReceive pool job left
  | .picking left t got => pickUp pool.queue t got >>= afterReceive pool job left
  | .starting left i => pool.runJob job i.toNat >>= fun _ => work pool job left
  | .running left _ rest => (rest >>= fun _ => uncount pool) >>= fun _ => work pool job left
  | .releasing left _ => addTo pool.pending (-1) >>= fun _ => work pool job left
  | .stopped => pure ()

/-- One step of a worker: the stage it was at, its exchange, and the stage it goes on
at.  Inside its job it makes the job's requests; otherwise it takes a ticket, has a job
handed to it, picks it up, and moves the counters. -/
inductive Moves : Stage → Exchange Memory → Stage → Prop
  | ticket (left : Nat) (m : Memory) :
      Moves (.idle (left + 1)) ⟨.update fun m => m.take, m⟩ (.ticketed left (m.next - 1))
  | hand (left t : Nat) (m : Memory) :
      Moves (.ticketed left t) ⟨.await (Channel.canTake pool.queue) (Channel.handIn pool.queue t), m⟩
        (.picking left t (Channel.handedTo pool.queue t m))
  | pickUp (left t : Nat) (i : Int) (m : Memory) :
      Moves (.picking left t (some i)) ⟨.update (Channel.clearIn pool.queue t), m⟩ (.starting left i)
  | pickUpEnd (left t : Nat) (m : Memory) :
      Moves (.picking left t none) ⟨.update (Channel.clearIn pool.queue t), m⟩ .stopped
  | count (left : Nat) (i : Int) (m : Memory) :
      Moves (.starting left i) ⟨.update (·.addCounter pool.running 1), m⟩ (.running left i (job i.toNat))
  | progress (left : Nat) (i : Int) {r : Request Memory} {next : r.Answer → Prog Memory Unit}
      (x : r.Answer) :
      Moves (.running left i (.call r next)) ⟨r, x⟩ (.running left i (next x))
  | uncount (left : Nat) (i : Int) (m : Memory) :
      Moves (.running left i (.pure ())) ⟨.update (·.addCounter pool.running (-1)), m⟩ (.releasing left i)
  | release (left : Nat) (i : Int) (m : Memory) :
      Moves (.releasing left i) ⟨.update (·.addCounter pool.pending (-1)), m⟩ (.idle left)

/-- A worker thread runs its stage's program and then ends. -/
abbrev Stage.thread (st : Stage) : Prog Memory Unit := st.prog pool job >>= fun _ => Sys.endThread

theorem Stage.thread_idle_zero : (Stage.idle 0).thread pool job = Sys.endThread := rfl

theorem Stage.thread_idle_succ (left : Nat) :
    (Stage.idle (left + 1)).thread pool job =
      .call (.update fun m => m.take) fun m => (Stage.ticketed left (m.next - 1)).thread pool job := rfl

theorem Stage.thread_ticketed (left t : Nat) :
    (Stage.ticketed left t).thread pool job =
      .call (.await (Channel.canTake pool.queue) (Channel.handIn pool.queue t)) fun m =>
        (Stage.picking left t (Channel.handedTo pool.queue t m)).thread pool job := rfl

theorem Stage.thread_picking (left t : Nat) (got : Option Int) :
    (Stage.picking left t got).thread pool job =
      .call (.update (Channel.clearIn pool.queue t)) fun _ =>
        afterReceive pool job left got >>= fun _ => Sys.endThread := rfl

theorem Stage.thread_starting (left : Nat) (i : Int) :
    (Stage.starting left i).thread pool job =
      .call (.update (·.addCounter pool.running 1)) fun _ =>
        (Stage.running left i (job i.toNat)).thread pool job := rfl

theorem Stage.thread_running_call (left : Nat) (i : Int) (r : Request Memory)
    (next : r.Answer → Prog Memory Unit) :
    (Stage.running left i (.call r next)).thread pool job =
      .call r fun x => (Stage.running left i (next x)).thread pool job := rfl

theorem Stage.thread_running_pure (left : Nat) (i : Int) :
    (Stage.running left i (.pure ())).thread pool job =
      .call (.update (·.addCounter pool.running (-1))) fun _ =>
        (Stage.releasing left i).thread pool job := rfl

theorem Stage.thread_running (left : Nat) (i : Int) (rest : Prog Memory Unit) :
    (Stage.running left i rest).thread pool job =
      rest >>= fun _ => (uncount pool >>= fun _ => work pool job left) >>= fun _ => Sys.endThread := by
  simp only [Stage.thread, Stage.prog, Prog.bind_assoc]

theorem Stage.thread_releasing (left : Nat) (i : Int) :
    (Stage.releasing left i).thread pool job =
      .call (.update (·.addCounter pool.pending (-1))) fun _ => (Stage.idle left).thread pool job := rfl

theorem Stage.thread_stopped : Stage.stopped.thread pool job = Sys.endThread := rfl

theorem Stage.step
    {st : Stage}
    {r : Request Memory}
    {next : r.Answer → Prog Memory Unit}
    (current : st.thread pool job = .call r next)
    (x : r.Answer) :
    ∃ st', Moves pool job st ⟨r, x⟩ st' ∧ next x = st'.thread pool job := by
  cases st with
  | idle left =>
      cases left with
      | zero =>
          rw [Stage.thread_idle_zero] at current
          exact (Prog.endThread_call current x).elim
      | succ left =>
          rw [Stage.thread_idle_succ] at current
          cases current
          exact ⟨_, .ticket left x, rfl⟩
  | ticketed left t =>
      rw [Stage.thread_ticketed] at current
      cases current
      exact ⟨_, .hand left t x, rfl⟩
  | picking left t got =>
      rw [Stage.thread_picking] at current
      cases current
      cases got with
      | none => exact ⟨_, .pickUpEnd left t x, rfl⟩
      | some i => exact ⟨_, .pickUp left t i x, rfl⟩
  | starting left i =>
      rw [Stage.thread_starting] at current
      cases current
      exact ⟨_, .count left i x, rfl⟩
  | running left i rest =>
      cases rest with
      | pure u =>
          rw [Stage.thread_running_pure] at current
          cases current
          exact ⟨_, .uncount left i x, rfl⟩
      | call r' next' =>
          rw [Stage.thread_running_call] at current
          cases current
          exact ⟨_, .progress left i x, rfl⟩
  | releasing left i =>
      rw [Stage.thread_releasing] at current
      cases current
      exact ⟨_, .release left i x, rfl⟩
  | stopped =>
      rw [Stage.thread_stopped] at current
      exact (Prog.endThread_call current x).elim

theorem Moves.of_starting
    {st st' : Stage}
    {r : Request Memory}
    {x : r.Answer}
    (moves : Moves pool job st ⟨r, x⟩ st')
    (starting : r.startsThread = true) :
    ∃ left i next, st = .running left i (.call r next) ∧ st' = .running left i (next x) := by
  cases moves with
  | progress left i x => exact ⟨left, i, _, rfl, rfl⟩
  | _ => cases starting

/-! ## What a worker did -/

/-- A whole round of a worker, as its exchanges: it received `i` from the queue and ran
the job of `i` to its end. -/
def Round (i : Int) (es : List (Exchange Memory)) : Prop :=
  ∃ taking running, es = taking ++ running ∧
    Prog.Reaches (receive pool.queue) taking (.pure (some i)) ∧
    Prog.Reaches (pool.runJob job i.toNat) running (.pure ())

/-- The rounds a worker finished one after another, receiving `done` in turn. -/
inductive Worked : List Int → List (Exchange Memory) → Prop
  | nil : Worked [] []
  | round {done : List Int} {es round : List (Exchange Memory)} {i : Int} :
      Worked done es → Round pool job i round → Worked (done ++ [i]) (es ++ round)

/-- The exchanges a worker at a stage made since its last whole round. -/
def Stage.Partial : Stage → List (Exchange Memory) → Prop
  | .idle _, es => es = []
  | .ticketed _ t, es => Prog.Reaches (receive pool.queue) es (receiveAs pool.queue t)
  | .picking _ t got, es => Prog.Reaches (receive pool.queue) es (pickUp pool.queue t got)
  | .starting _ i, es => Prog.Reaches (receive pool.queue) es (.pure (some i))
  | .running _ i rest, es => ∃ taking counting working, es = taking ++ counting ++ working ∧
      Prog.Reaches (receive pool.queue) taking (.pure (some i)) ∧
      Prog.Reaches (addTo pool.running 1) counting (.pure ()) ∧
      Prog.Reaches (job i.toNat) working rest
  | .releasing _ i, es => ∃ taking counting working uncounting,
      es = taking ++ counting ++ working ++ uncounting ∧
      Prog.Reaches (receive pool.queue) taking (.pure (some i)) ∧
      Prog.Reaches (addTo pool.running 1) counting (.pure ()) ∧
      Prog.Reaches (job i.toNat) working (.pure ()) ∧
      Prog.Reaches (addTo pool.running (-1)) uncounting (.pure ())
  | .stopped, es => Prog.Reaches (receive pool.queue) es (.pure none)

/-- A worker whose exchanges `es` are the whole rounds of `done` and then what the stage
it is at says of the next. -/
def Stage.Reached (st : Stage) (done : List Int) (es : List (Exchange Memory)) : Prop :=
  ∃ before current, es = before ++ current ∧ Worked pool job done before ∧ st.Partial pool job current

/-- The job a worker's next move finishes, at the one stage where it finishes one. -/
def Stage.finishing : Stage → List Int
  | .releasing _ i => [i]
  | _ => []

theorem Stage.Reached.rest_only
    {P : Request Memory → Prop}
    {left : Nat}
    {i : Int}
    {rest : Prog Memory Unit}
    {done : List Int}
    {es : List (Exchange Memory)}
    (reached : (Stage.running left i rest).Reached pool job done es)
    (only : ∀ i, Prog.Only P (job i)) :
    Prog.Only P rest := by
  obtain ⟨before, current, -, -, taking, counting, working, -, -, -, ran⟩ := reached
  exact ((only i.toNat).reaches ran).2

theorem Stage.Reached.rest_detaches
    {left : Nat}
    {i : Int}
    {rest : Prog Memory Unit}
    {done : List Int}
    {es : List (Exchange Memory)}
    (reached : (Stage.running left i rest).Reached pool job done es)
    (detaches : ∀ i, Prog.Detaches (job i)) :
    Prog.Detaches rest := by
  obtain ⟨before, current, -, -, taking, counting, working, -, -, -, ran⟩ := reached
  exact (detaches i.toNat).reaches ran

/-- The rounds a worker at a stage may still start, the current one included. -/
def Stage.rounds : Stage → Nat
  | .idle left => left
  | .ticketed left _ => left + 1
  | .picking left _ _ => left + 1
  | .starting left _ => left + 1
  | .running left _ _ => left + 1
  | .releasing left _ => left + 1
  | .stopped => 0

theorem runJob_finished
    {i : Nat}
    {counting working uncounting releasing : List (Exchange Memory)}
    (counted : Prog.Reaches (addTo pool.running 1) counting (.pure ()))
    (worked : Prog.Reaches (job i) working (.pure ()))
    (uncounted : Prog.Reaches (addTo pool.running (-1)) uncounting (.pure ()))
    (released : Prog.Reaches (addTo pool.pending (-1)) releasing (.pure ())) :
    Prog.Reaches (pool.runJob job i) (counting ++ working ++ uncounting ++ releasing) (.pure ()) := by
  unfold runJob
  refine Prog.reaches_bind_pure_iff.mpr ⟨counting, working ++ uncounting ++ releasing, (), by simp,
    counted, ?_⟩
  refine Prog.reaches_bind_pure_iff.mpr ⟨working, uncounting ++ releasing, (), by simp, worked, ?_⟩
  exact Prog.reaches_bind_pure_iff.mpr ⟨uncounting, releasing, (), rfl, uncounted, released⟩

theorem Stage.reached_of
    {st : Stage}
    {done : List Int}
    {before current es : List (Exchange Memory)}
    (worked : Worked pool job done before)
    (partly : st.Partial pool job current)
    (split : es = before ++ current) :
    st.Reached pool job done es :=
  ⟨before, current, split, worked, partly⟩

/-- One move of a worker adds its exchange to the part of the round it is in, and the
move that releases a job closes the round. -/
theorem Stage.Reached.move
    {st st' : Stage}
    {done : List Int}
    {es : List (Exchange Memory)}
    {e : Exchange Memory}
    (reached : st.Reached pool job done es)
    (moves : Moves pool job st e st') :
    st'.Reached pool job (done ++ st.finishing) (es ++ [e]) := by
  obtain ⟨before, current, rfl, worked, partly⟩ := reached
  cases moves with
  | ticket left m =>
      have nothingYet : current = [] := partly
      subst nothingYet
      simp only [Stage.finishing, List.append_nil]
      have ticketed : Prog.Reaches (receive pool.queue) [⟨.update fun m => m.take, m⟩]
          (receiveAs pool.queue (m.next - 1)) := Prog.Reaches.answered
      exact Stage.reached_of pool job worked ticketed rfl
  | hand left t m =>
      simp only [Stage.finishing, List.append_nil]
      have handed : Prog.Reaches (receiveAs pool.queue t)
          [⟨.await (Channel.canTake pool.queue) (Channel.handIn pool.queue t), m⟩]
          (pickUp pool.queue t (Channel.handedTo pool.queue t m)) := Prog.Reaches.answered
      exact Stage.reached_of pool job worked (partly.trans handed) (by simp)
  | pickUp left t i m =>
      simp only [Stage.finishing, List.append_nil]
      have picked : Prog.Reaches (pickUp pool.queue t (some i))
          [⟨.update (Channel.clearIn pool.queue t), m⟩] (.pure (some i)) := Prog.Reaches.answered
      exact Stage.reached_of pool job worked (partly.trans picked) (by simp)
  | pickUpEnd left t m =>
      simp only [Stage.finishing, List.append_nil]
      have picked : Prog.Reaches (pickUp pool.queue t none)
          [⟨.update (Channel.clearIn pool.queue t), m⟩] (.pure none) := Prog.Reaches.answered
      exact Stage.reached_of pool job worked (partly.trans picked) (by simp)
  | count left i m =>
      simp only [Stage.finishing, List.append_nil]
      have counted : Prog.Reaches (addTo pool.running 1) [⟨.update (·.addCounter pool.running 1), m⟩]
          (.pure ()) := Prog.Reaches.answered
      exact Stage.reached_of pool job worked ⟨current, _, [], rfl, partly, counted, .refl _⟩ (by simp)
  | progress left i x =>
      simp only [Stage.finishing, List.append_nil]
      obtain ⟨taking, counting, working, rfl, took, counted, running⟩ := partly
      exact Stage.reached_of pool job worked
        ⟨taking, counting, _, rfl, took, counted, running.trans Prog.Reaches.answered⟩ (by simp)
  | uncount left i m =>
      simp only [Stage.finishing, List.append_nil]
      obtain ⟨taking, counting, working, rfl, took, counted, running⟩ := partly
      have uncounted : Prog.Reaches (addTo pool.running (-1)) [⟨.update (·.addCounter pool.running (-1)), m⟩]
          (.pure ()) := Prog.Reaches.answered
      exact Stage.reached_of pool job worked
        ⟨taking, counting, working, _, rfl, took, counted, running, uncounted⟩ (by simp)
  | release left i m =>
      obtain ⟨taking, counting, working, uncounting, rfl, took, counted, ran, uncounted⟩ := partly
      have released : Prog.Reaches (addTo pool.pending (-1)) [⟨.update (·.addCounter pool.pending (-1)), m⟩]
          (.pure ()) := Prog.Reaches.answered
      have round : Round pool job i (taking ++ (counting ++ working ++ uncounting ++ _)) :=
        ⟨taking, _, rfl, took, runJob_finished pool job counted ran uncounted released⟩
      have nothingYet : (Stage.idle left).Partial pool job [] := rfl
      exact Stage.reached_of pool job (worked.round round) nothingYet (by simp)

/-- A worker that does not stop keeps its count of rounds: one more finished, one fewer
to start. -/
theorem Moves.rounds
    {st st' : Stage}
    {e : Exchange Memory}
    (moves : Moves pool job st e st')
    (going : st' ≠ .stopped) :
    st.rounds = st'.rounds + st.finishing.length := by
  cases moves with
  | pickUpEnd => exact absurd rfl going
  | _ => rfl

/-! ## The thread that queues the jobs -/

/-- Start `n` workers, each able to run `rounds` jobs. -/
def spawnWorkers (rounds : Nat) : Nat → Prog Memory Unit
  | 0 => pure ()
  | n + 1 => do
    Sys.spawnThread (pool.work job rounds)
    spawnWorkers rounds n

/-- Queue the `n` jobs from `i` on, one after another. -/
def enqueueFrom : Nat → Nat → Prog Memory Unit
  | _, 0 => pure ()
  | i, n + 1 => do
    pool.enqueue i
    enqueueFrom (i + 1) n

/-- Where the thread that made a pool stands: starting workers, queueing job `i` (with
`left` jobs to queue from it on, or after it once it is counted and being sent), waiting
for the jobs, or done. -/
inductive Queuer
  | spawning (left : Nat)
  | queueing (i left : Nat)
  | sending (i left : Nat)
  | waiting
  | finished

variable (rounds k : Nat)

/-- What the queuer has left to do, queueing `k` jobs in all. -/
def Queuer.prog : Queuer → Prog Memory Unit
  | .spawning left =>
      spawnWorkers pool job rounds left >>= fun _ => enqueueFrom pool 0 k >>= fun _ => pool.wait
  | .queueing i left => enqueueFrom pool i left >>= fun _ => pool.wait
  | .sending i left => (send pool.queue i >>= fun _ => enqueueFrom pool (i + 1) left) >>= fun _ => pool.wait
  | .waiting => pool.wait
  | .finished => pure ()

/-- The queuer about to queue the `left` jobs from `i` on: waiting once there are none. -/
def Queuer.queueFrom (i : Nat) : Nat → Queuer
  | 0 => .waiting
  | left + 1 => .queueing i (left + 1)

/-- The queuer with `left` workers still to start. -/
def Queuer.spawnFrom : Nat → Queuer
  | 0 => Queuer.queueFrom 0 k
  | left + 1 => .spawning (left + 1)

theorem Queuer.prog_queueFrom (i left : Nat) :
    (Queuer.queueFrom i left).prog pool job rounds k = enqueueFrom pool i left >>= fun _ => pool.wait := by
  cases left <;> rfl

theorem Queuer.prog_spawnFrom (left : Nat) :
    (Queuer.spawnFrom k left).prog pool job rounds k =
      spawnWorkers pool job rounds left >>= fun _ => enqueueFrom pool 0 k >>= fun _ => pool.wait := by
  cases left with
  | zero => exact Queuer.prog_queueFrom pool job rounds k 0 k
  | succ left => rfl

theorem Queuer.prog_spawning (left : Nat) :
    (Queuer.spawning (left + 1)).prog pool job rounds k =
      .call .startThread fun (inNew : Bool) =>
        if inNew then work pool job rounds >>= fun _ => Sys.endThread
        else (Queuer.spawnFrom k left).prog pool job rounds k := by
  rw [Queuer.prog_spawnFrom]
  show ((Sys.spawnThread (work pool job rounds) >>= fun _ => spawnWorkers pool job rounds left) >>= _) = _
  rw [Prog.bind_assoc, Prog.spawnThread_bind]

theorem Queuer.prog_queueing (i left : Nat) :
    (Queuer.queueing i (left + 1)).prog pool job rounds k =
      .call (.update (·.addCounter pool.pending 1)) fun _ =>
        (Queuer.sending i left).prog pool job rounds k := rfl

theorem Queuer.prog_sending (i left : Nat) :
    (Queuer.sending i left).prog pool job rounds k =
      .call (.await (Channel.canPut pool.queue) (Channel.pushIn pool.queue i)) fun _ =>
        (Queuer.queueFrom (i + 1) left).prog pool job rounds k := by
  rw [Queuer.prog_queueFrom]
  rfl

theorem Queuer.prog_waiting :
    Queuer.waiting.prog pool job rounds k =
      .call (.await (fun m => m.counter pool.pending == 0) id) fun _ => .pure () := rfl

end Pool

end PseudoTerm.Control
