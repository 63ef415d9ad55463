import Mathlib
import PseudoTerm.Proofs.QuietCalls
import PseudoTerm.Proofs.PairHandOver

/-!
# Who sets the deadline of a terminal

A terminal keeps two records of each deadline: the one its owner last set, in the handle's
record, and the one the descriptor holds, in the kernel.  The owner's setters change both
while they hold the lock of the handle's deadlines: they record the new deadline, then give
it to the descriptor.  An operation under a context leaves them alone while it runs, but
the callback it registers on the context moves the descriptor's deadline into the past,
without the lock, to wake the operation; once the callback has run, the operation takes the
lock and gives the descriptor the recorded deadline again.

The descriptor's deadline is read off the exchanges (`deadlineAfter`): each accepted setting
replaces it.  What each thread may do with the deadline of one direction is `Keeper`,
indexed by the thread's stage: idle threads make requests that leave the deadline alone
(`DeadlineApart`), call the setters (`Keeper.setDeadline_bind`,
`Keeper.setDeadlines_bind`) and end contexts (`Keeper.finish_bind`); the thread of an operation under a context starts `ready`
(`Keeper.underContext_bind`), and the thread of its callback waits, calls and fires.
-/

namespace PseudoTerm.Machine

variable {μ : Type}

/-- The deadline an exchange gives one direction of descriptor `fd`, when it sets one there
and the kernel accepts it. -/
def Exchange.deadlineSet? (fd : Nat) (reading : Bool) : Exchange μ → Option (Option Int)
  | ⟨.setDeadline d r at?, answer⟩ =>
    match (answer : Except Errno Unit) with
    | .ok () => if d == fd && r == reading then some at? else none
    | .error _ => none
  | _ => none

/-- The deadline one direction of descriptor `fd` holds after the exchanges, when it held
`init` before them. -/
def deadlineAfter (fd : Nat) (reading : Bool) (init : Option Int) : List (Exchange μ) → Option Int
  | [] => init
  | e :: es => deadlineAfter fd reading ((e.deadlineSet? fd reading).getD init) es

/-- The kernel accepted the exchange's setting of a deadline on descriptor `fd`, if it is
one: the descriptor is open. -/
def Exchange.DeadlineAccepted (fd : Nat) : Exchange μ → Prop
  | ⟨.setDeadline d _ _, answer⟩ => d = fd → (answer : Except Errno Unit) = .ok ()
  | _ => True

instance Exchange.decidableDeadlineAccepted (fd : Nat) (e : Exchange μ) : Decidable (e.DeadlineAccepted fd) := by
  unfold Exchange.DeadlineAccepted
  split
  · rename_i d _ _ answer
    revert answer
    show ∀ answer : Except Errno Unit, Decidable (d = fd → answer = .ok ())
    intro answer
    cases answer with
    | ok u => exact isTrue fun _ => rfl
    | error e =>
        exact if same : d = fd then isFalse fun accepted => (by cases accepted same)
          else isTrue fun sameFd => absurd sameFd same
  · exact instDecidableTrue

variable {fd : Nat} {reading : Bool} {init : Option Int}

theorem deadlineAfter_append (es more : List (Exchange μ)) :
    deadlineAfter fd reading init (es ++ more) = deadlineAfter fd reading (deadlineAfter fd reading init es) more := by
  induction es generalizing init with
  | nil => rfl
  | cons e es inductionHypothesis => exact inductionHypothesis

@[simp] theorem deadlineAfter_singleton (e : Exchange μ) :
    deadlineAfter fd reading init [e] = (e.deadlineSet? fd reading).getD init := rfl

theorem deadlineSet?_of_ne {r : Request μ} (x : r.Answer) (other : ∀ at?, r ≠ .setDeadline fd reading at?) :
    (⟨r, x⟩ : Exchange μ).deadlineSet? fd reading = none := by
  cases r with
  | setDeadline d r' at? =>
      cases x with
      | error e => rfl
      | ok u =>
          by_cases same : d = fd ∧ r' = reading
          · obtain ⟨rfl, rfl⟩ := same
            exact absurd rfl (other at?)
          · have differs : (d == fd && r' == reading) = false := by
              simpa [Bool.and_eq_false_iff, beq_eq_false_iff_ne, ← not_and_or] using same
            simp only [Exchange.deadlineSet?, differs]
            rfl
  | _ => rfl

@[simp] theorem deadlineSet?_setDeadline_ok (v : Option Int) :
    (⟨.setDeadline fd reading v, .ok ()⟩ : Exchange μ).deadlineSet? fd reading = some v := by
  simp [Exchange.deadlineSet?]

/-- Sequencing is associative, as `Prog.bind` spells it once the notation is unfolded. -/
theorem Prog.bind_bind {α β γ : Type} (p : Prog μ α) (f : α → Prog μ β) (g : β → Prog μ γ) :
    (p.bind f).bind g = p.bind fun a => (f a).bind g :=
  Prog.bind_assoc p f g

end PseudoTerm.Machine

namespace PseudoTerm.Control

open PseudoTerm.Machine Prog

namespace Memory

/-- Make a watch, armed, under the next key. -/
def armWatch (m : Memory) : Memory :=
  { m.take with watches := m.take.watches.insert m.next .armed }

/-- Stop watch `w`, unless its thread has taken the callback on. -/
def stopWatch (w : Nat) (m : Memory) : Memory :=
  if m.phaseOf w == .armed then m.setPhase w .stopped else m

/-- The thread of watch `w` on context `k` may go on: the watch left its armed phase, or
the context ended. -/
def watchReady (w k : Nat) (m : Memory) : Bool :=
  m.phaseOf w != .armed || (m.causeOf k).isSome

/-- The thread of watch `w` takes its callback on while the watch is armed. -/
def commitWatch (w : Nat) (m : Memory) : Memory :=
  if m.phaseOf w == .armed then m.setPhase w .running else m

theorem phaseOf_setPhase_self {m : Memory} {w : Nat} (present : (m.watches.get? w).isSome = true)
    (p : WatchPhase) : (m.setPhase w p).phaseOf w = p := by
  obtain ⟨q, found⟩ := Option.isSome_iff_exists.mp present
  simp [phaseOf, setPhase, found]

theorem phaseOf_setPhase_other (m : Memory) {w k : Nat} (p : WatchPhase) (other : k ≠ w) :
    (m.setPhase w p).phaseOf k = m.phaseOf k := by
  simp [phaseOf, setPhase_get?_other m p other]

theorem present_of_phaseOf {m : Memory} {w : Nat} {p : WatchPhase} (phase : m.phaseOf w = p)
    (notStopped : p ≠ .stopped) : (m.watches.get? w).isSome = true := by
  cases found : m.watches.get? w with
  | none =>
      simp [phaseOf, found] at phase
      exact absurd phase.symm notStopped
  | some q => rfl

end Memory

namespace Handle

/-- The deadline the owner of the handle recorded for reading (`reading`) or writing. -/
def recorded (h : Handle) (reading : Bool) (m : Memory) : Option Int :=
  if reading then (m.handle h.key).readDeadline else (m.handle h.key).writeDeadline

/-- Whether the handle is registered, whether the lock of its deadlines is held, and the
closes begun. -/
def lockView (h : Handle) (m : Memory) : Option (Bool × Nat) :=
  (m.handles.get? h.key).map fun s => (s.deadlinesLocked, s.closes)

/-- The lock of the handle's deadlines is free. -/
def deadlinesFree (h : Handle) (m : Memory) : Bool := !(m.handle h.key).deadlinesLocked

/-- A request that leaves the deadline of one direction of the handle alone: it sets no
deadline of that direction on the descriptor, and keeps the recorded deadline, the lock of
the deadlines and the closes begun. -/
def LeavesDeadline (h : Handle) (reading : Bool) (r : Request Memory) : Prop :=
  (∀ at?, r ≠ .setDeadline h.fd reading at?) ∧ Keeps h.lockView r ∧ Keeps (h.recorded reading) r

/-- A request apart from the deadline of one direction of the handle: it also touches no
watch and starts no thread. -/
def DeadlineApart (h : Handle) (reading : Bool) (r : Request Memory) : Prop :=
  Quiet r ∧ h.LeavesDeadline reading r

variable {h : Handle} {reading : Bool}

/-- A change of some handle's record that keeps the lock of the deadlines and the closes
keeps the lock view. -/
theorem keeps_lockView_modifyHandle
    {k : Nat}
    {g : HandleState → HandleState}
    (keeps : ∀ s, (g s).deadlinesLocked = s.deadlinesLocked ∧ (g s).closes = s.closes) :
    Keeps h.lockView (.update fun m => m.modifyHandle k g) := by
  intro f changed m
  cases changed
  by_cases same : h.key = k
  · subst same
    cases found : m.handles.get? h.key with
    | none => simp [lockView, Memory.modifyHandle, found]
    | some s => simp [lockView, Memory.modifyHandle, found, (keeps s).1, (keeps s).2]
  · simp [lockView, Memory.modifyHandle, Table.get?_modify_other _ same]

/-- A change of some handle's record that keeps the deadline of one direction keeps what the
owner recorded for it. -/
theorem keeps_recorded_modifyHandle
    {k : Nat}
    {g : HandleState → HandleState}
    (keeps : ∀ s, (if reading then (g s).readDeadline else (g s).writeDeadline) =
      if reading then s.readDeadline else s.writeDeadline) :
    Keeps (h.recorded reading) (.update fun m => m.modifyHandle k g) := by
  intro f changed m
  cases changed
  by_cases same : h.key = k
  · subst same
    cases found : m.handles.get? h.key with
    | none => simp [recorded, Memory.handle, Memory.modifyHandle, found]
    | some s => simpa [recorded, Memory.handle, Memory.modifyHandle, found] using keeps s
  · simp [recorded, Memory.handle, Memory.modifyHandle, Table.get?_modify_other _ same]

theorem keeps_lockView_recordDeadline (r : Bool) (at? : Option Int) :
    Keeps h.lockView (.update (Memory.recordDeadline h.key r at?)) :=
  keeps_lockView_modifyHandle fun s => by cases r <;> exact ⟨rfl, rfl⟩

theorem keeps_recorded_setDeadlinesLocked (held : Bool) :
    Keeps (h.recorded reading) (.update (Memory.setDeadlinesLocked h.key held)) :=
  keeps_recorded_modifyHandle fun _ => rfl

theorem keeps_recorded_recordDeadline_other (at? : Option Int) :
    Keeps (h.recorded reading) (.update (Memory.recordDeadline h.key (!reading) at?)) :=
  keeps_recorded_modifyHandle fun s => by cases reading <;> rfl

theorem recorded_recordDeadline {m : Memory} (registered : (m.handles.get? h.key).isSome = true)
    (at? : Option Int) : h.recorded reading (Memory.recordDeadline h.key reading at? m) = at? := by
  obtain ⟨s, found⟩ := Option.isSome_iff_exists.mp registered
  cases reading <;> simp [recorded, Memory.handle, Memory.recordDeadline, Memory.modifyHandle, found]

theorem keeps_lockView_recordBoth (at? : Option Int) :
    Keeps h.lockView (.update fun m => Memory.recordDeadline h.key false at? (Memory.recordDeadline h.key true at? m)) := by
  intro f changed m
  cases changed
  exact (keeps_lockView_recordDeadline false at? _ rfl _).trans (keeps_lockView_recordDeadline true at? _ rfl m)

theorem recorded_recordDeadline_both {m : Memory} (registered : (m.handles.get? h.key).isSome = true)
    (at? : Option Int) :
    h.recorded reading (Memory.recordDeadline h.key false at? (Memory.recordDeadline h.key true at? m)) = at? := by
  obtain ⟨s, found⟩ := Option.isSome_iff_exists.mp registered
  cases reading <;> simp [recorded, Memory.handle, Memory.recordDeadline, Memory.modifyHandle, found]

theorem deadlineApart_look : h.DeadlineApart reading (.update id) :=
  ⟨.update fun _ => ⟨le_refl _, rfl, rfl, rfl⟩, fun _ same => (by cases same), fun _ changed _ => by cases changed; rfl,
    fun _ changed _ => by cases changed; rfl⟩

theorem deadlineApart_of_unchanged {r : Request Memory} (unchanged : r.change? = none)
    (plain : r.startsThread = false) (other : ∀ at?, r ≠ .setDeadline h.fd reading at?) :
    h.DeadlineApart reading r :=
  ⟨.of_unchanged unchanged plain, other, .of_unchanged unchanged, .of_unchanged unchanged⟩

theorem deadlineApart_setLocked {k : Nat} {rd held : Bool} :
    h.DeadlineApart reading (.update fun m => m.modifyHandle k (·.setLocked rd held)) :=
  ⟨.update fun _ => ⟨le_refl _, rfl, rfl, rfl⟩, fun _ same => (by cases same),
    keeps_lockView_modifyHandle fun s => by cases rd <;> exact ⟨rfl, rfl⟩,
    keeps_recorded_modifyHandle fun s => by cases rd <;> rfl⟩

theorem deadlineApart_lockHandle {ready : Memory → Bool} {k : Nat} {rd : Bool} :
    h.DeadlineApart reading (.await ready (Memory.lockHandle k rd)) := by
  have frames : Memory.Frames (Memory.lockHandle k rd) := by
    intro m
    unfold Memory.lockHandle
    split <;> exact ⟨le_refl _, rfl, rfl, rfl⟩
  have locked : h.DeadlineApart reading (.update fun m => m.modifyHandle k (·.setLocked rd true)) :=
    deadlineApart_setLocked
  refine ⟨.await frames, fun _ same => (by cases same), fun f changed m => ?_, fun f changed m => ?_⟩ <;>
    cases changed <;> unfold Memory.lockHandle <;> split
  · rfl
  · exact locked.2.2.1 _ rfl m
  · rfl
  · exact locked.2.2.2 _ rfl m

theorem deadlineApart_endContext (k : Nat) (cause : Fault) :
    h.DeadlineApart reading (.update (·.endContext k cause)) := by
  refine ⟨Quiet.endContext k cause, fun _ same => (by cases same), fun f changed m => ?_, fun f changed m => ?_⟩ <;>
    obtain rfl := Option.some.inj changed <;> dsimp only <;> rw [Memory.endContext_frame] <;> rfl

end Handle

/-- Where a thread stands with the deadline of one direction of a handle. -/
inductive DeadlineStage where
  /-- it may still begin its operation under a context -/
  | ready
  /-- it holds neither the lock nor a watch -/
  | idle
  /-- it holds the lock of the deadlines, putting the deadline back after watch `w` fired
  when `restoring` is `some w` -/
  | held (restoring : Option Nat)
  /-- it holds the lock and has recorded `v`, which it has not yet given the descriptor -/
  | pending (restoring : Option Nat) (v : Option Int)
  /-- it made watch `w` and is about to start its thread -/
  | made (w : Nat)
  /-- it runs its operation while watch `w` on context `k` is registered -/
  | watching (w k : Nat)
  /-- watch `w` fired, and it is about to take the lock to put the deadline back -/
  | restoring (w : Nat)
  /-- the thread of watch `w` on context `k`, waiting for the context to end -/
  | waiting (w k : Nat)
  /-- the thread of watch `w` on context `k`, about to move the deadline into the past -/
  | calling (w k : Nat)
  /-- the thread of watch `w` on context `k`, about to mark the callback run -/
  | firing (w k : Nat)

namespace DeadlineStage

/-- The stage holds the lock of the deadlines. -/
def Holds : DeadlineStage → Prop
  | held _ | pending _ _ => True
  | _ => False

/-- The stage is one of the operation under a context. -/
def Owns : DeadlineStage → Prop
  | ready | made _ | watching _ _ | restoring _ | held (some _) | pending (some _) _ => True
  | _ => False

/-- The stage is one of the thread of watch `w` on context `k`. -/
def Watches (w k : Nat) : DeadlineStage → Prop
  | waiting v j | calling v j | firing v j => v = w ∧ j = k
  | _ => False

/-- The stage puts the deadline back after watch `w` fired. -/
def Restores (w : Nat) : DeadlineStage → Prop
  | restoring v | held (some v) | pending (some v) _ => v = w
  | _ => False

/-- The watch the stage names. -/
def watch? : DeadlineStage → Option Nat
  | made w | watching w _ | restoring w | waiting w _ | calling w _ | firing w _ | held (some w)
  | pending (some w) _ => some w
  | _ => none

end DeadlineStage

namespace Handle

/-- What a thread may still do with the deadline of one direction of handle `h`, at each
stage.  Requests apart from the deadline are allowed anywhere, and so is a setting of the
other direction on the descriptor while the kernel accepts it.  An idle thread may take the
lock of the deadlines; holding it, it records a deadline, looks at the memory while the
record stays, gives the descriptor the recorded deadline, and releases the lock.  A ready
thread makes a watch and starts its thread, then runs until it stops the watch: a stopped
watch leaves it idle, and otherwise it waits until the callback has fired and puts the
deadline back under the lock.  The thread of the watch waits for the context to end or the
watch to be stopped; when it takes the callback on, it moves the descriptor's deadline into
the past and marks the callback run.  The watches are on context `c`.  Only the answers the memory and the kernel can give
are followed where a request may answer otherwise. -/
inductive Keeper (h : Handle) (reading : Bool) (c : Nat) {α : Type} : DeadlineStage → Prog Memory α → Prop
  | pure (a : α) : Keeper h reading c .idle (.pure a)
  | settle {p : Prog Memory α} : Keeper h reading c .idle p → Keeper h reading c .ready p
  | apart {s : DeadlineStage} {r : Request Memory} {next : r.Answer → Prog Memory α} :
      h.DeadlineApart reading r → (∀ x, Keeper h reading c s (next x)) → Keeper h reading c s (.call r next)
  | other {s : DeadlineStage} {at? : Option Int} {next : Except Errno Unit → Prog Memory α} :
      Keeper h reading c s (next (.ok ())) → Keeper h reading c s (.call (.setDeadline h.fd (!reading) at?) next)
  | acquire {next : Memory → Prog Memory α} :
      (∀ m, Keeper h reading c (.held none) (next (Memory.setDeadlinesLocked h.key true m))) →
      Keeper h reading c .idle (.call (.await h.deadlinesFree (Memory.setDeadlinesLocked h.key true)) next)
  | reacquire {w : Nat} {next : Memory → Prog Memory α} :
      (∀ m, Keeper h reading c (.held (some w)) (next (Memory.setDeadlinesLocked h.key true m))) →
      Keeper h reading c (.restoring w) (.call (.await h.deadlinesFree (Memory.setDeadlinesLocked h.key true)) next)
  | record {o : Option Nat} {f : Memory → Memory} {next : Memory → Prog Memory α} :
      Quiet (.update f) → Keeps h.lockView (.update f) →
      (∀ m, (m.handles.get? h.key).isSome = true →
        Keeper h reading c (.pending o (h.recorded reading (f m))) (next (f m))) →
      Keeper h reading c (.held o) (.call (.update f) next)
  | look {o : Option Nat} {v : Option Int} {f : Memory → Memory} {next : Memory → Prog Memory α} :
      h.DeadlineApart reading (.update f) →
      (∀ m, h.recorded reading m = v → (m.handle h.key).closed = false →
        Keeper h reading c (.pending o v) (next (f m))) →
      Keeper h reading c (.pending o v) (.call (.update f) next)
  | apply {o : Option Nat} {v : Option Int} {next : Except Errno Unit → Prog Memory α} :
      Keeper h reading c (.held none) (next (.ok ())) →
      Keeper h reading c (.pending o v) (.call (.setDeadline h.fd reading v) next)
  | release {next : Memory → Prog Memory α} :
      (∀ m, Keeper h reading c .idle (next (Memory.setDeadlinesLocked h.key false m))) →
      Keeper h reading c (.held none) (.call (.update (Memory.setDeadlinesLocked h.key false)) next)
  | makeWatch {next : Memory → Prog Memory α} :
      (∀ m, Keeper h reading c (.made m.next) (next (Memory.armWatch m))) →
      Keeper h reading c .ready (.call (.update Memory.armWatch) next)
  | spawnWatch {w : Nat} {next : Bool → Prog Memory α} :
      Keeper h reading c (.watching w c) (next false) → Keeper h reading c (.waiting w c) (next true) →
      Keeper h reading c (.made w) (.call .startThread next)
  | stop {w : Nat} {next : Memory → Prog Memory α} :
      (∀ m, (Memory.stopWatch w m).phaseOf w = .stopped → Keeper h reading c .idle (next (Memory.stopWatch w m))) →
      (∀ m, (Memory.stopWatch w m).phaseOf w ≠ .stopped →
        Keeper h reading c (.watching w c) (next (Memory.stopWatch w m))) →
      Keeper h reading c (.watching w c) (.call (.update (Memory.stopWatch w)) next)
  | awaitFired {w k : Nat} {next : Memory → Prog Memory α} :
      (∀ m, Keeper h reading c (.restoring w) (next m)) →
      Keeper h reading c (.watching w k) (.call (.await (fun m : Memory => m.phaseOf w == .fired) id) next)
  | commit {w k : Nat} {next : Memory → Prog Memory α} :
      (∀ m, (Memory.commitWatch w m).phaseOf w = .running →
        Keeper h reading c (.calling w k) (next (Memory.commitWatch w m))) →
      (∀ m, (Memory.commitWatch w m).phaseOf w ≠ .running → Keeper h reading c .idle (next (Memory.commitWatch w m))) →
      Keeper h reading c (.waiting w k) (.call (.await (Memory.watchReady w k) (Memory.commitWatch w)) next)
  | call {w k : Nat} {next : Except Errno Unit → Prog Memory α} :
      (∀ x, Keeper h reading c (.firing w k) (next x)) →
      Keeper h reading c (.calling w k) (.call (.setDeadline h.fd reading (some 0)) next)
  | fire {w k : Nat} {next : Memory → Prog Memory α} :
      (∀ m : Memory, Keeper h reading c .idle (next (m.setPhase w .fired))) →
      Keeper h reading c (.firing w k) (.call (.update fun m : Memory => m.setPhase w .fired) next)

end Handle

namespace Handle.Keeper

variable {h : Handle} {reading : Bool} {c : Nat} {α β : Type}

theorem of_apart {s : DeadlineStage} {p : Prog Memory α} {f : α → Prog Memory β}
    (apart : Only (h.DeadlineApart reading) p) (rest : ∀ a, h.Keeper reading c s (f a)) :
    h.Keeper reading c s (p >>= f) := by
  induction apart with
  | pure a => exact rest a
  | call allowed _ inductionHypothesis => exact .apart allowed inductionHypothesis

/-! ### Reads and writes leave the deadlines alone -/

section Operations

variable (h) (reading)

theorem lift_apart {r : Request Memory} (apart : h.DeadlineApart reading r) :
    Only (h.DeadlineApart reading) (Prog.lift r) :=
  .call apart fun _ => .pure _

theorem prepare_apart (rd : Bool) : Only (h.DeadlineApart reading) (h.prepare rd) := by
  refine Only.bind (lift_apart h reading (Handle.deadlineApart_of_unchanged rfl rfl fun _ same => (by cases same))) fun _ => ?_
  split <;> exact .pure _

theorem park_apart (rd : Bool) : Only (h.DeadlineApart reading) (h.park rd) := by
  refine Only.bind (lift_apart h reading (Handle.deadlineApart_of_unchanged rfl rfl fun _ same => (by cases same))) fun _ => ?_
  split <;> exact .pure _

theorem isClosed_apart : Only (h.DeadlineApart reading) h.isClosed :=
  Only.bind (lift_apart h reading Handle.deadlineApart_look) fun _ => .pure _

theorem wrap_apart (op : String) (cause : Fault) : Only (h.DeadlineApart reading) (h.wrap op cause) :=
  Only.bind (isClosed_apart h reading) fun _ => .pure _

theorem poll_apart {γ : Type} (rd : Bool) (refused : Fault → γ) {op : Prog Memory γ}
    (apart : Only (h.DeadlineApart reading) op) :
    Only (h.DeadlineApart reading) (h.poll rd refused op) := by
  refine Only.bind (lift_apart h reading Handle.deadlineApart_lockHandle) fun m => ?_
  split
  · exact .pure _
  · have unlocking : ∀ result : γ, Only (h.DeadlineApart reading) (do
        let _ ← Sys.update (Memory.unlockHandle h.key rd)
        Pure.pure result) :=
      fun _ => Only.bind (lift_apart h reading Handle.deadlineApart_setLocked) fun _ => .pure _
    refine Only.bind (prepare_apart h reading rd) fun cause => ?_
    dsimp only
    split
    · exact unlocking _
    · exact Only.bind apart unlocking

theorem endThread_apart : Only (h.DeadlineApart reading) (Sys.endThread : Prog Memory α) :=
  .call (Handle.deadlineApart_of_unchanged rfl rfl fun _ same => (by cases same)) fun x => x.elim

theorem readFrom_apart (max fuel : Nat) : Only (h.DeadlineApart reading) (h.readFrom max fuel) := by
  induction fuel with
  | zero => exact endThread_apart h reading
  | succ fuel inductionHypothesis =>
      refine Only.bind (lift_apart h reading (Handle.deadlineApart_of_unchanged rfl rfl fun _ same => (by cases same)))
        fun answer => ?_
      split
      · split
        · exact inductionHypothesis
        · split
          · refine Only.bind (park_apart h reading true) fun cause => ?_
            split
            · exact inductionHypothesis
            · exact .pure _
          · exact .pure _
      · exact .pure _

theorem read_apart (max : Nat) : Only (h.DeadlineApart reading) (h.read max) := by
  unfold Handle.read
  split
  · exact .pure _
  · refine Only.bind (poll_apart h reading true _ (readFrom_apart h reading max _)) fun outcome => ?_
    split
    · exact Only.bind (wrap_apart h reading _ _) fun _ => .pure _
    · split
      · exact .pure _
      · exact Only.bind (wrap_apart h reading _ _) fun _ => .pure _
    · split <;> exact .pure _

theorem writeFrom_apart (data : ByteArray) (fuel done : Nat) :
    Only (h.DeadlineApart reading) (h.writeFrom data fuel done) := by
  induction fuel generalizing done with
  | zero =>
      unfold Handle.writeFrom
      split
      · exact .pure _
      · exact endThread_apart h reading
  | succ fuel inductionHypothesis =>
      unfold Handle.writeFrom
      split
      · exact .pure _
      · refine Only.bind (lift_apart h reading (Handle.deadlineApart_of_unchanged rfl rfl fun _ same => (by cases same)))
          fun answer => ?_
        rcases answer with e | _ | written
        · by_cases interrupted : e = Errno.eintr
          · subst interrupted
            simp only [beq_self_eq_true, if_true]
            exact inductionHypothesis _
          by_cases blocked : e = Errno.eagain
          · subst blocked
            simp only [beq_self_eq_true, if_true, beq_iff_eq, interrupted, if_false]
            refine Only.bind (park_apart h reading false) fun x => ?_
            cases x <;> first | exact inductionHypothesis _ | exact .pure _
          · simp only [beq_iff_eq, interrupted, blocked, if_false]
            exact .pure _
        · exact .pure _
        · exact inductionHypothesis _

theorem write_apart (data : ByteArray) : Only (h.DeadlineApart reading) (h.write data) := by
  unfold Handle.write
  split
  · exact .pure _
  · refine Only.bind (poll_apart h reading false _ (writeFrom_apart h reading data _ _)) fun result => ?_
    obtain ⟨written, _ | cause⟩ := result
    · exact .pure _
    · exact Only.bind (wrap_apart h reading _ _) fun _ => .pure _

end Operations

theorem setDeadline_bind {r : Bool} {at? : Option Int} {k : Except Fault Unit → Prog Memory β}
    (rest : ∀ x, h.Keeper reading c .idle (k x)) :
    h.Keeper reading c .idle (h.setDeadline r at? >>= k) := by
  dsimp only [Handle.setDeadline, Handle.withDeadlines, Handle.applyDeadline, Handle.isClosed, inspect, change,
    Sys.update, Sys.await, Sys.setDeadline, Prog.lift, Bind.bind, Prog.bind, Pure.pure]
  refine .acquire fun _ => ?_
  by_cases same : r = reading
  · -- the deadline of this direction is recorded, then given to the descriptor
    subst same
    refine .record (.update fun _ => ⟨le_refl _, rfl, rfl, rfl⟩) (Handle.keeps_lockView_recordDeadline _ _)
      fun m registered => ?_
    rw [Handle.recorded_recordDeadline registered]
    refine .look Handle.deadlineApart_look fun m' _ unclosed => ?_
    rw [if_neg (by simp [unclosed])]
    exact .apply (.release fun _ => rest _)
  · -- the deadline of the other direction leaves this one alone
    obtain rfl : r = !reading := by cases r <;> cases reading <;> simp_all
    refine .apart ⟨.update fun _ => ⟨le_refl _, rfl, rfl, rfl⟩, fun _ same => (by cases same),
      Handle.keeps_lockView_recordDeadline _ _, Handle.keeps_recorded_recordDeadline_other _⟩ fun _ => ?_
    refine .apart Handle.deadlineApart_look fun _ => ?_
    split
    · exact .release fun _ => rest _
    · refine .other ?_
      exact .release fun _ => rest _

theorem setDeadlines_bind {at? : Option Int} {k : Except Fault Unit → Prog Memory β}
    (rest : ∀ x, h.Keeper reading c .idle (k x)) :
    h.Keeper reading c .idle (h.setDeadlines at? >>= k) := by
  dsimp only [Handle.setDeadlines, Handle.withDeadlines, Handle.applyDeadline, Handle.isClosed, inspect, change,
    Sys.update, Sys.await, Sys.setDeadline, Prog.lift, Bind.bind, Prog.bind, Pure.pure]
  refine .acquire fun _ => ?_
  refine .record (.update fun _ => ⟨le_refl _, rfl, rfl, rfl⟩) (Handle.keeps_lockView_recordBoth _)
    fun m registered => ?_
  rw [Handle.recorded_recordDeadline_both registered]
  refine .look Handle.deadlineApart_look fun m' _ unclosed => ?_
  rw [if_neg (by simp [unclosed])]
  cases reading with
  | true =>
      refine .apply (.apart Handle.deadlineApart_look fun _ => ?_)
      dsimp only
      split
      · exact .release fun _ => rest _
      · refine .other ?_
        exact .release fun _ => rest _
  | false =>
      refine .other (.look Handle.deadlineApart_look fun m'' _ unclosed' => ?_)
      dsimp only [id]
      rw [if_neg (by simp [unclosed'])]
      exact .apply (.release fun _ => rest _)

theorem finish_bind {ctx : Context} {cause : Fault} {k : Unit → Prog Memory β}
    (rest : ∀ x, h.Keeper reading c .idle (k x)) : h.Keeper reading c .idle (ctx.finish cause >>= k) := by
  cases ctx with
  | background => exact rest ()
  | shared j => exact .apart (Handle.deadlineApart_endContext j cause) fun _ => rest ()

/-- An operation under a context that leaves the deadline alone, then programs that stand
idle, is ready to begin. -/
theorem underContext_bind {γ : Type} {ctx : Context} {fault : γ → Option Fault} {replace : γ → Fault → γ}
    {op : Prog Memory γ} {failed : Fault → γ} {k : γ → Prog Memory β}
    (keyed : ∀ j, ctx = .shared j → j = c)
    (apart : Only (h.DeadlineApart reading) op) (rest : ∀ x, h.Keeper reading c .idle (k x)) :
    h.Keeper reading c .ready (h.underContext ctx reading fault replace op failed >>= k) := by
  cases ctx with
  | background =>
      show h.Keeper reading c .ready ((op >>= Prog.pure) >>= k)
      rw [bind_pure]
      exact .settle (of_apart apart rest)
  | shared j =>
      obtain rfl : c = j := (keyed j rfl).symm
      dsimp only [Handle.underContext, Context.cause?, inspect, change, Sys.update, Context.afterEnd, create,
        Prog.lift, Bind.bind, Prog.bind, Pure.pure]
      refine .apart Handle.deadlineApart_look fun m => ?_
      split
      · exact .settle (rest _)
      · refine .makeWatch fun m => ?_
        have key : (Memory.armWatch m).next - 1 = m.next := by simp [Memory.armWatch, Memory.take]
        dsimp only
        rw [key]
        dsimp only [Sys.spawnThread, Prog.lift, Bind.bind, Prog.bind, Pure.pure]
        refine .spawnWatch ?_ ?_
        · -- the caller runs its operation, then stops the watch
          simp only [Bool.false_eq_true, if_false]
          dsimp only [Prog.bind]
          rw [Prog.bind_bind]
          refine of_apart apart fun result => ?_
          dsimp only [Watch.stop, change, Sys.update, Prog.lift, Bind.bind, Prog.bind, Pure.pure]
          refine .stop (fun m' stopped => ?_) fun m' live => ?_
          · rw [if_pos (by simpa using stopped)]
            exact rest result
          · -- the callback was not kept from running: wait for it, then put the deadline back
            rw [if_neg (by simpa using live)]
            dsimp only [Watch.awaitFired, Handle.withDeadlines, Sys.await, Sys.update, Prog.lift, Bind.bind,
              Prog.bind, Pure.pure]
            refine .awaitFired fun _ => .reacquire fun _ => ?_
            refine .record (.update fun _ => ⟨le_refl _, rfl, rfl, rfl⟩) (fun _ changed _ => by cases changed; rfl)
              fun m'' _ => ?_
            refine .apply (.release fun _ => ?_)
            dsimp only [Prog.bind]
            split
            · split
              · refine .apart Handle.deadlineApart_look fun _ => ?_
                dsimp only
                split <;> exact rest _
              · exact rest _
            · exact rest _
        · -- the thread of the watch waits, and runs the callback if it takes it on
          simp only [if_true]
          dsimp only [Context.watchThread, change, Sys.update, Sys.await, Prog.lift, Bind.bind, Prog.bind, Pure.pure]
          have ended : ∀ {s : DeadlineStage} {next : Empty → Prog Memory β},
              h.Keeper reading c s (.call .endThread next) :=
            .apart (Handle.deadlineApart_of_unchanged rfl rfl fun _ same => (by cases same)) fun x => x.elim
          refine .commit (fun m' running => ?_) fun m' idle => ?_
          · rw [if_pos (by simpa using running)]
            dsimp only [Sys.setDeadline, Sys.endThread, Prog.lift, Bind.bind, Prog.bind, Pure.pure]
            exact .call fun _ => .fire fun _ => ended
          · rw [if_neg (by simpa using idle)]
            dsimp only [Sys.endThread, Prog.lift, Bind.bind, Prog.bind, Pure.pure]
            exact ended

end Handle.Keeper

end PseudoTerm.Control
