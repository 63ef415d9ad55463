import PseudoTerm.Proofs.Runs
import PseudoTerm.Control.Handle

/-!
# What a write on a terminal hands the kernel

`Handle.write` runs as the runtime runs a raw write: it takes the handle's write lock,
checks the deadline once, then writes from where the last write stopped, tries again at
once after an interruption, and waits for the descriptor whenever it would block.  Its
runs are taken over every answer the kernel and the poller may give, with the one promise
the kernel makes about a write: it takes no more than it is handed (`Exchange.Bounded`).

Main statement: `write_contract`.  The bytes the kernel is handed over the whole run are
the first `n` bytes of the data, each once and in order, where `n` is the count answered;
the write fails exactly when `n` falls short, and its fault names `write` and `/dev/ptmx`
with the cause that ended the loop (`WriteEnded`): that of the first exchange that stops it
(`writeStop?`), replaced by the closed file once a close of the handle has begun.  A loop
that no exchange stops never finishes.
-/

namespace PseudoTerm.Machine

variable {μ : Type}

/-- A write the kernel answered with no more bytes taken than it was handed. -/
def Exchange.Bounded : Exchange μ → Prop
  | ⟨.write _ data, answer⟩ => ∀ k, (answer : Except Errno Nat) = .ok k → k ≤ data.size
  | _ => True

/-- Whether the request is a write to descriptor `fd`. -/
def Request.writesOn (fd : Nat) : Request μ → Bool
  | .write fd' _ => fd' == fd
  | _ => false

/-- Whether the exchange is a write to descriptor `fd`. -/
def Exchange.writesTo (fd : Nat) (e : Exchange μ) : Bool := e.request.writesOn fd

namespace Prog

variable {α β : Type}

theorem reaches_lift_bind_pure_iff {r : Request μ} {f : r.Answer → Prog μ β} {es : List (Exchange μ)} {b : β} :
    Reaches (Prog.lift r >>= f) es (.pure b) ↔ ∃ x rest, es = ⟨r, x⟩ :: rest ∧ Reaches (f x) rest (.pure b) := by
  rw [lift_eq, call_bind, reaches_call_pure_iff]
  rfl

theorem not_reaches_endThread {es : List (Exchange μ)} {b : β} :
    ¬ Reaches (Sys.endThread : Prog μ β) es (.pure b) := by
  intro run
  rw [Sys.endThread, reaches_lift_bind_pure_iff] at run
  obtain ⟨x, -, -, -⟩ := run
  exact x.elim

end Prog

end PseudoTerm.Machine

namespace PseudoTerm.Control

open PseudoTerm.Machine PseudoTerm.Pty Prog

namespace Handle

/-- The fault an exchange of a write on `h` ends the write with, if it ends it: a lock
refused because the handle is closed, a deadline found passed, a write failing with an error
other than an interruption or a would-block, a write taking nothing, or a wait for the
descriptor ended by the deadline or a close. -/
def writeStop? (h : Handle) : Exchange Memory → Option Fault
  | ⟨.await _ _, m⟩ => if ((m : Memory).handle h.key).closed then some .closed else none
  | ⟨.deadlinePassed _ _, answer⟩ =>
    match (answer : Except Errno Bool) with
    | .ok true => some .timedOut
    | .ok false => none
    | .error e => some (.errno e)
  | ⟨.write _ _, answer⟩ =>
    match (answer : Except Errno Nat) with
    | .ok 0 => some .unexpectedEnd
    | .ok _ => none
    | .error e => if e = Errno.eintr ∨ e = Errno.eagain then none else some (.errno e)
  | ⟨.awaitReady _ _, readiness⟩ =>
    match (readiness : Readiness) with
    | .ready => none
    | .timedOut => some .timedOut
    | .closed => some .closed
  | _ => none

/-- The cause that ended a write whose run is `es`: that of the first exchange that stops it. -/
def WriteEnded (h : Handle) (es : List (Exchange Memory)) (cause : Fault) : Prop :=
  es.findSome? h.writeStop? = some cause

theorem park_finished {h : Handle} {reading : Bool} {es : List (Exchange Memory)} {x : Option Fault}
    (run : Reaches (h.park reading) es (.pure x)) :
    ∃ readiness, es = [⟨.awaitReady h.fd reading, readiness⟩] ∧ x = h.writeStop? ⟨.awaitReady h.fd reading, readiness⟩ := by
  unfold Handle.park at run
  obtain ⟨readiness, rest, rfl, later⟩ := reaches_lift_bind_pure_iff.mp run
  refine ⟨readiness, ?_⟩
  cases readiness <;>
    · obtain ⟨rfl, same⟩ := reaches_pure_iff.mp later
      cases same
      simp [writeStop?]

/-- What a run `es` of the write loop did when it started at `offset` and answered `n` bytes
and `cause`: it handed the kernel the bytes from `offset` to `n`, in order and each once,
stopped short exactly when it names a cause, and that cause is the one of the first exchange
that stops it. -/
structure WriteLoop (h : Handle) (data : ByteArray) (offset : Nat) (es : List (Exchange Memory))
    (n : Nat) (cause : Option Fault) : Prop where
  advanced : offset ≤ n
  within : n ≤ data.size
  handed : es.flatMap (·.written (· == h.fd)) = (data.data.toList.take n).drop offset
  complete : cause = none ↔ n = data.size
  ended : ∀ c, cause = some c → WriteEnded h es c

namespace WriteLoop

variable {h : Handle} {data : ByteArray} {offset n : Nat} {es : List (Exchange Memory)}
  {cause : Option Fault}

theorem whole (complete : data.size ≤ offset) (start : offset ≤ data.size) :
    WriteLoop h data offset [] offset none := by
  have atEnd : offset = data.size := by omega
  subst atEnd
  exact ⟨Nat.le_refl _, Nat.le_refl _, by simp, by simp, by simp⟩

theorem stopped {c : Fault} (short : offset < data.size) (stops : WriteEnded h es c)
    (nothing : es.flatMap (·.written (· == h.fd)) = []) : WriteLoop h data offset es offset (some c) :=
  ⟨Nat.le_refl _, Nat.le_of_lt short, by simp [nothing], by simp; omega,
    fun _ named => by cases named; exact stops⟩

/-- An exchange that neither stops the loop nor hands anything leaves what the rest of the
run did as it was. -/
theorem quiet {e : Exchange Memory} (passes : h.writeStop? e = none)
    (nothing : e.written (· == h.fd) = [])
    (rest : WriteLoop h data offset es n cause) : WriteLoop h data offset (e :: es) n cause where
  advanced := rest.advanced
  within := rest.within
  handed := by simp [nothing, rest.handed]
  complete := rest.complete
  ended := by
    intro c named
    simpa [WriteEnded, List.findSome?_cons, passes] using rest.ended c named

/-- A write that the loop goes on after, having handed the kernel the next `k` bytes, adds
them in front of what the rest of the run handed. -/
theorem written {e : Exchange Memory} {k : Nat} (passes : h.writeStop? e = none)
    (took : e.written (· == h.fd) = (data.data.toList.drop offset).take k)
    (rest : WriteLoop h data (offset + k) es n cause) :
    WriteLoop h data offset (e :: es) n cause where
  advanced := by have := rest.advanced; omega
  within := rest.within
  handed := by
    have before : offset + k ≤ n := rest.advanced
    rw [List.flatMap_cons, took, rest.handed, ← List.take_append_drop k ((data.data.toList.take n).drop offset),
      List.drop_drop]
    congr 1
    rw [List.drop_take, List.take_take, Nat.min_eq_left (by omega)]
  complete := rest.complete
  ended := by
    intro c named
    simpa [WriteEnded, List.findSome?_cons, passes] using rest.ended c named

theorem append_quiet {e : Exchange Memory} (nothing : e.written (· == h.fd) = [])
    (loop : WriteLoop h data offset es n cause) : WriteLoop h data offset (es ++ [e]) n cause where
  advanced := loop.advanced
  within := loop.within
  handed := by simp [nothing, loop.handed]
  complete := loop.complete
  ended := by
    intro c named
    have stops : es.findSome? h.writeStop? = some c := loop.ended c named
    simp [WriteEnded, List.findSome?_append, stops]

end WriteLoop

theorem written_extract {h : Handle} {data : ByteArray} {offset k : Nat} :
    (⟨.write h.fd (data.extract offset data.size), .ok k⟩ : Exchange Memory).written (· == h.fd) =
      (data.data.toList.drop offset).take k := by
  have whole : (data.data.toList.drop offset).take (data.size - offset) = data.data.toList.drop offset :=
    List.take_of_length_le (by simp)
  simp [Exchange.written, ByteArray.data_extract, whole]

/-- Every finished run of the write loop did what `WriteLoop` says, whatever the kernel and
the poller answered, provided the kernel took no more than it was handed. -/
theorem writeFrom_finished {h : Handle} {data : ByteArray} {n : Nat} {cause : Option Fault}
    (fuel offset : Nat) (es : List (Exchange Memory))
    (run : Reaches (h.writeFrom data fuel offset) es (.pure (n, cause)))
    (bounded : ∀ e ∈ es, e.Bounded) (start : offset ≤ data.size) :
    WriteLoop h data offset es n cause := by
  induction fuel generalizing offset es with
  | zero =>
      unfold Handle.writeFrom at run
      split at run
      · next complete =>
        obtain ⟨rfl, same⟩ := reaches_pure_iff.mp run
        obtain ⟨rfl, rfl⟩ := Prod.mk.inj (Prog.pure.inj same)
        exact WriteLoop.whole complete start
      · exact absurd run not_reaches_endThread
  | succ fuel inductionHypothesis =>
      unfold Handle.writeFrom at run
      split at run
      · next complete =>
        obtain ⟨rfl, same⟩ := reaches_pure_iff.mp run
        obtain ⟨rfl, rfl⟩ := Prod.mk.inj (Prog.pure.inj same)
        exact WriteLoop.whole complete start
      · next short =>
        obtain ⟨answer, rest, rfl, later⟩ := reaches_lift_bind_pure_iff.mp run
        have restBounded : ∀ e ∈ rest, e.Bounded := fun e member => bounded e (List.mem_cons_of_mem _ member)
        cases answer with
        | ok k =>
          cases k with
          | zero =>
            obtain ⟨rfl, same⟩ := reaches_pure_iff.mp later
            obtain ⟨rfl, rfl⟩ := Prod.mk.inj (Prog.pure.inj same)
            exact WriteLoop.stopped (by omega) (by simp [WriteEnded, writeStop?]) (by simp [Exchange.written])
          | succ k =>
            have took : k + 1 ≤ data.size - offset := by
              simpa using bounded _ List.mem_cons_self (k + 1) rfl
            exact WriteLoop.written (by simp [writeStop?]) written_extract
              (inductionHypothesis _ _ later restBounded (by omega))
        | error e =>
          by_cases interrupted : e = Errno.eintr
          · subst interrupted
            simp only [beq_self_eq_true, if_true] at later
            exact WriteLoop.quiet (by simp [writeStop?]) (by simp [Exchange.written])
              (inductionHypothesis _ _ later restBounded start)
          by_cases blocked : e = Errno.eagain
          · subst blocked
            simp only [beq_self_eq_true, if_true, beq_iff_eq, interrupted, if_false] at later
            obtain ⟨waited, after, x, rfl, parked, resumed⟩ := reaches_bind_pure_iff.mp later
            obtain ⟨readiness, rfl, rfl⟩ := park_finished parked
            cases readiness with
            | ready =>
              exact WriteLoop.quiet (by simp [writeStop?]) (by simp [Exchange.written])
                (WriteLoop.quiet (by simp [writeStop?]) (by simp [Exchange.written])
                  (inductionHypothesis _ _ resumed (fun e member => restBounded e (List.mem_append_right _ member)) start))
            | timedOut | closed =>
              obtain ⟨rfl, same⟩ := reaches_pure_iff.mp resumed
              obtain ⟨rfl, rfl⟩ := Prod.mk.inj (Prog.pure.inj same)
              exact WriteLoop.stopped (by omega) (by simp [WriteEnded, writeStop?]) (by simp [Exchange.written])
          · simp only [beq_iff_eq, interrupted, blocked, if_false] at later
            obtain ⟨rfl, same⟩ := reaches_pure_iff.mp later
            obtain ⟨rfl, rfl⟩ := Prod.mk.inj (Prog.pure.inj same)
            exact WriteLoop.stopped (by omega) (by simp [WriteEnded, writeStop?, interrupted, blocked])
              (by simp [Exchange.written])

/-- A run of an operation under the handle's lock: the lock is taken in one exchange, and a
closed handle refuses at once; otherwise the deadline is checked in one exchange, the
operation runs unless the check refuses, and the lock is released in one last exchange. -/
theorem poll_finished
    {α : Type}
    {h : Handle}
    {reading : Bool}
    {refused : Fault → α}
    {op : Prog Memory α}
    {es : List (Exchange Memory)}
    {x : α}
    (run : Reaches (h.poll reading refused op) es (.pure x)) :
    ∃ (ready : Memory → Bool) (lock : Memory) (rest : List (Exchange Memory)),
      es = ⟨.await ready (Memory.lockHandle h.key reading), lock⟩ :: rest ∧
      ((lock.handle h.key).closed = true → rest = [] ∧ x = refused .closed) ∧
      ((lock.handle h.key).closed = false → ∃ (answer : Except Errno Bool) (ran : List (Exchange Memory))
          (unlocked : Memory),
        rest = ⟨.deadlinePassed h.fd reading, answer⟩ :: ran ++
          [⟨.update (Memory.unlockHandle h.key reading), unlocked⟩] ∧
        (answer = .ok false → Reaches op ran (.pure x)) ∧
        (answer = .ok true → ran = [] ∧ x = refused .timedOut) ∧
        ∀ e, answer = .error e → ran = [] ∧ x = refused (.errno e)) := by
  unfold Handle.poll at run
  obtain ⟨lock, rest, rfl, later⟩ := reaches_lift_bind_pure_iff.mp run
  refine ⟨_, lock, rest, rfl, fun closed => ?_, fun unclosed => ?_⟩
  · rw [if_pos closed] at later
    obtain ⟨rfl, same⟩ := reaches_pure_iff.mp later
    exact ⟨rfl, Prog.pure.inj same⟩
  · rw [if_neg (by simp [unclosed])] at later
    obtain ⟨checked, afterCheck, check, rfl, deadline, continued⟩ := reaches_bind_pure_iff.mp later
    unfold Handle.prepare at deadline
    obtain ⟨answer, reportedEs, rfl, reported⟩ := reaches_lift_bind_pure_iff.mp deadline
    have released : ∀ {y : α} {es : List (Exchange Memory)},
        Reaches (do let _ ← Sys.update (Memory.unlockHandle h.key reading); Pure.pure y) es (.pure x) →
          y = x ∧ ∃ unlocked, es = [⟨.update (Memory.unlockHandle h.key reading), unlocked⟩] := by
      intro y es unlocking
      obtain ⟨unlocked, finish, rfl, done⟩ := reaches_lift_bind_pure_iff.mp unlocking
      obtain ⟨rfl, same⟩ := reaches_pure_iff.mp done
      exact ⟨(Prog.pure.inj same).symm, unlocked, rfl⟩
    rcases answer with e | _ | _
    all_goals obtain ⟨rfl, same⟩ := reaches_pure_iff.mp reported; cases same
    all_goals dsimp only at continued
    · -- the check failed
      obtain ⟨rfl, unlocked, rfl⟩ := released continued
      refine ⟨.error e, [], unlocked, rfl, by simp, by simp, ?_⟩
      rintro e' ⟨⟩
      exact ⟨rfl, rfl⟩
    · -- the operation, with the release after it
      obtain ⟨ran, unlocking, result, rfl, ranOp, finish⟩ := reaches_bind_pure_iff.mp continued
      obtain ⟨rfl, unlocked, rfl⟩ := released finish
      exact ⟨.ok false, ran, unlocked, rfl, fun _ => ranOp, by simp, by simp⟩
    · -- the deadline had passed
      obtain ⟨rfl, unlocked, rfl⟩ := released continued
      exact ⟨.ok true, [], unlocked, rfl, by simp, fun _ => ⟨rfl, rfl⟩, by simp⟩

/-- A write that is not refused runs its loop between taking the lock and checking the
deadline, and releasing the lock; a refusal stops it before it hands anything. -/
theorem pollWrite_finished {h : Handle} {data : ByteArray} {es : List (Exchange Memory)} {n : Nat}
    {cause : Option Fault} (short : 0 < data.size)
    (run : Reaches (h.poll false (fun cause => (0, some cause)) (h.writeFrom data waitLimit 0)) es (.pure (n, cause)))
    (bounded : ∀ e ∈ es, e.Bounded) :
    WriteLoop h data 0 es n cause := by
  obtain ⟨ready, lock, rest, rfl, refusedClosed, passed⟩ := poll_finished run
  cases closed : (lock.handle h.key).closed
  · have lockPasses : h.writeStop? ⟨.await ready (Memory.lockHandle h.key false), lock⟩ = none := by
      simp [writeStop?, closed]
    obtain ⟨answer, ran, unlocked, rfl, ranOp, timedOut, failed⟩ := passed closed
    rcases answer with e | _ | _
    · -- the deadline check failed
      obtain ⟨rfl, same⟩ := failed e rfl
      cases same
      exact WriteLoop.stopped short (by rw [WriteEnded, List.findSome?_cons, lockPasses]; rfl)
        (by simp [Exchange.written])
    · -- the loop, with the lock's and the check's exchanges before it and the release after it
      have loop := writeFrom_finished waitLimit 0 ran (ranOp rfl)
        (fun e member => bounded e (by simp [member])) (Nat.zero_le _)
      exact WriteLoop.quiet lockPasses (by simp [Exchange.written])
        (WriteLoop.quiet (by simp [writeStop?]) (by simp [Exchange.written])
          (WriteLoop.append_quiet (by simp [Exchange.written]) loop))
    · -- the deadline had passed
      obtain ⟨rfl, same⟩ := timedOut rfl
      cases same
      exact WriteLoop.stopped short (by rw [WriteEnded, List.findSome?_cons, lockPasses]; rfl)
        (by simp [Exchange.written])
  · obtain ⟨rfl, same⟩ := refusedClosed closed
    cases same
    exact WriteLoop.stopped short (by simp [WriteEnded, writeStop?, closed]) (by simp [Exchange.written])

theorem isClosed_finished {h : Handle} {closed : Bool} {es : List (Exchange Memory)}
    (run : Reaches h.isClosed es (.pure closed)) :
    ∃ m, es = [⟨.update id, m⟩] ∧ closed = (m.handle h.key).closed := by
  unfold Handle.isClosed inspect change at run
  obtain ⟨m, rest, rfl, done⟩ := reaches_lift_bind_pure_iff.mp run
  obtain ⟨rfl, same⟩ := reaches_pure_iff.mp done
  cases same
  exact ⟨m, rfl, rfl⟩

theorem wrap_finished {h : Handle} {op : String} {cause f : Fault} {es : List (Exchange Memory)}
    (run : Reaches (h.wrap op cause) es (.pure f)) :
    ∃ m, es = [⟨.update id, m⟩] ∧ f = .path op makerPath (if (m.handle h.key).closed then .closed else cause) := by
  unfold Handle.wrap at run
  obtain ⟨checked, rest, closed, rfl, reading, named⟩ := reaches_bind_pure_iff.mp run
  obtain ⟨m, rfl, rfl⟩ := isClosed_finished reading
  obtain ⟨rfl, same⟩ := reaches_pure_iff.mp named
  cases same
  exact ⟨m, rfl, rfl⟩

/-- A finished write hands the kernel the first `n` bytes of the data, each once and in
order, where `n` is the count it answers; it fails exactly when `n` falls short, and then
its fault names `write` and the terminal's maker with the cause that ended the loop, or the
closed file when the handle was closed by the time the fault was named (the last exchange).
This holds whatever the kernel and the poller answer, so long as the kernel takes no more
than it is handed. -/
theorem write_hands_over_prefix {h : Handle} {data : ByteArray} {es : List (Exchange Memory)} {n : Nat}
    {fault : Option Fault} (run : Reaches (h.write data) es (.pure (n, fault)))
    (bounded : ∀ e ∈ es, e.Bounded) :
    n ≤ data.size ∧ es.flatMap (·.written (· == h.fd)) = data.data.toList.take n ∧
      (fault = none ↔ n = data.size) ∧
      ∀ f, fault = some f → ∃ m c, es.getLast? = some ⟨.update id, m⟩ ∧ WriteEnded h es c ∧
        f = .path "write" makerPath (if (m.handle h.key).closed then .closed else c) := by
  unfold Handle.write at run
  split at run
  · next empty =>
    obtain ⟨rfl, same⟩ := reaches_pure_iff.mp run
    cases same
    have nothing : data.size = 0 := by simpa using empty
    simp [nothing]
  · next nonempty =>
    have short : 0 < data.size := by
      simp only [beq_iff_eq] at nonempty
      omega
    obtain ⟨polled, ended, ⟨w, c⟩, rfl, polling, reporting⟩ := reaches_bind_pure_iff.mp run
    have loop := pollWrite_finished short polling (fun e member => bounded e (List.mem_append_left _ member))
    cases c with
    | none =>
      obtain ⟨rfl, same⟩ := reaches_pure_iff.mp reporting
      cases same
      exact ⟨loop.within, by simpa using loop.handed, by simpa using loop.complete, by simp⟩
    | some c =>
      obtain ⟨wrapped, finish, f, rfl, wrapping, done⟩ := reaches_bind_pure_iff.mp reporting
      obtain ⟨rfl, same⟩ := reaches_pure_iff.mp done
      cases same
      obtain ⟨m, rfl, rfl⟩ := wrap_finished wrapping
      have final : WriteLoop h data 0 (polled ++ [⟨.update id, m⟩]) n (some c) :=
        loop.append_quiet (by simp [Exchange.written])
      refine ⟨final.within, by simpa using final.handed, by simpa using final.complete, ?_⟩
      rintro f ⟨⟩
      exact ⟨m, c, by simp, final.ended c rfl, rfl⟩

end Handle

end PseudoTerm.Control
