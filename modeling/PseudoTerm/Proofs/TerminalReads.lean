import Mathlib
import PseudoTerm.Proofs.TerminalWrites

/-!
# What a read on a terminal answers

`Handle.read` runs as the runtime runs a raw read: it takes the handle's read lock, checks
the deadline once, then reads, trying again at once after an interruption and waiting for
the descriptor whenever the read would block.  Its runs are taken over every answer the
kernel and the poller may give, with the one promise the kernel makes about a read: it
answers no more bytes than were asked for (`Exchange.ReadBounded`).

What decides a read is the first exchange of its run that stops it (`readStop?`): a read
that answered bytes (none at the end of the stream), a read that failed with an error other
than an interruption or a would-block, or a refusal of the lock, a passed deadline or a wait
ended by the deadline or a close (`ReadEnded`); a loop that none of these stops never
finishes.

Main statement: `read_honours_reader_contract`.  An empty read answers at once without a
system call.  Otherwise the read answers bytes exactly when the deciding read answered a
non-empty chunk, and then at most as many as asked for; it answers the end of the stream
exactly when the deciding read answered nothing or failed with `EIO`; and every other
failure names `read` and `/dev/ptmx` with the cause that decided it, or the closed file when
the handle was closed by the time the fault was named.  A read never answers bytes and a
fault together: its answer is one or the other.
-/

namespace PseudoTerm.Machine

variable {μ : Type}

/-- A read the kernel answered with no more bytes than were asked for. -/
def Exchange.ReadBounded : Exchange μ → Prop
  | ⟨.read _ max, answer⟩ => ∀ data, (answer : Except Errno ByteArray) = .ok data → data.size ≤ max
  | _ => True

end PseudoTerm.Machine

namespace PseudoTerm.Control

open PseudoTerm.Machine PseudoTerm.Pty Prog

namespace Handle

/-- What decides a read on a terminal. -/
inductive ReadStop where
  /-- A read of the kernel answered these bytes, none at the end of the stream. -/
  | bytes (data : ByteArray)
  /-- A read of the kernel failed with an error other than an interruption or a would-block. -/
  | failed (e : Errno)
  /-- The lock, the deadline check or a wait for the descriptor cut the read short. -/
  | cut (cause : Fault)

namespace ReadStop

/-- Whether the read ends the stream: a read answering nothing, or `EIO` from a hung up
terminal. -/
def endsStream : ReadStop → Bool
  | bytes data => data.size == 0
  | failed e => e == Errno.eio
  | cut _ => false

/-- The cause a failing read names. -/
def cause? : ReadStop → Option Fault
  | bytes _ => none
  | failed e => some (.errno e)
  | cut c => some c

/-- What decided a run of the read loop, read off the loop's answer. -/
def ofLoop : Except Fault (Except Errno ByteArray) → ReadStop
  | .error c => cut c
  | .ok (.error e) => failed e
  | .ok (.ok data) => bytes data

end ReadStop

/-- The stop an exchange of a read on `h` decides the read with, if it decides it. -/
def readStop? (h : Handle) : Exchange Memory → Option ReadStop
  | ⟨.await _ _, m⟩ => if ((m : Memory).handle h.key).closed then some (.cut .closed) else none
  | ⟨.deadlinePassed _ _, answer⟩ =>
    match (answer : Except Errno Bool) with
    | .ok true => some (.cut .timedOut)
    | .ok false => none
    | .error e => some (.cut (.errno e))
  | ⟨.read _ _, answer⟩ =>
    match (answer : Except Errno ByteArray) with
    | .ok data => some (.bytes data)
    | .error e => if e = Errno.eintr ∨ e = Errno.eagain then none else some (.failed e)
  | ⟨.awaitReady _ _, readiness⟩ =>
    match (readiness : Readiness) with
    | .ready => none
    | .timedOut => some (.cut .timedOut)
    | .closed => some (.cut .closed)
  | _ => none

/-- What decided a read whose run is `es`: the first exchange that stops it. -/
def ReadEnded (h : Handle) (es : List (Exchange Memory)) (stop : ReadStop) : Prop :=
  es.findSome? h.readStop? = some stop

namespace ReadEnded

variable {h : Handle} {es : List (Exchange Memory)} {stop : ReadStop} {e : Exchange Memory}

theorem stopped (stops : h.readStop? e = some stop) : ReadEnded h (e :: es) stop := by
  simp [ReadEnded, stops]

theorem quiet (passes : h.readStop? e = none) (rest : ReadEnded h es stop) : ReadEnded h (e :: es) stop := by
  simpa [ReadEnded, passes] using rest

theorem append (ended : ReadEnded h es stop) (later : List (Exchange Memory)) :
    ReadEnded h (es ++ later) stop := by
  have stops : es.findSome? h.readStop? = some stop := ended
  simp [ReadEnded, List.findSome?_append, stops]

end ReadEnded

/-- Every finished run of the read loop is decided as `ReadEnded` says, by the stop its
answer names, and a chunk it answers is no larger than asked for when the kernel answered
no more bytes than were asked for. -/
theorem readFrom_finished {h : Handle} {max : Nat} {x : Except Fault (Except Errno ByteArray)}
    (fuel : Nat) (es : List (Exchange Memory))
    (run : Reaches (h.readFrom max fuel) es (.pure x))
    (bounded : ∀ e ∈ es, e.ReadBounded) :
    ReadEnded h es (ReadStop.ofLoop x) ∧ ∀ data, x = .ok (.ok data) → data.size ≤ max := by
  induction fuel generalizing es with
  | zero => exact absurd run not_reaches_endThread
  | succ fuel inductionHypothesis =>
      unfold Handle.readFrom at run
      obtain ⟨answer, rest, rfl, later⟩ := reaches_lift_bind_pure_iff.mp run
      have restBounded : ∀ e ∈ rest, e.ReadBounded := fun e member => bounded e (List.mem_cons_of_mem _ member)
      cases answer with
      | ok data =>
          obtain ⟨rfl, same⟩ := reaches_pure_iff.mp later
          cases same
          refine ⟨ReadEnded.stopped (by simp [readStop?, ReadStop.ofLoop]), fun chunk answered => ?_⟩
          obtain rfl : data = chunk := by simpa using answered
          exact bounded _ List.mem_cons_self data rfl
      | error e =>
          by_cases interrupted : e = Errno.eintr
          · subst interrupted
            simp only [beq_self_eq_true, if_true] at later
            obtain ⟨ended, within⟩ := inductionHypothesis rest later restBounded
            exact ⟨ended.quiet (by simp [readStop?]), within⟩
          by_cases blocked : e = Errno.eagain
          · subst blocked
            simp only [beq_iff_eq, interrupted, if_false, if_true] at later
            obtain ⟨waited, after, parkAnswer, rfl, parked, resumed⟩ := reaches_bind_pure_iff.mp later
            obtain ⟨readiness, rfl, rfl⟩ := park_finished parked
            have passes : h.readStop? ⟨.read h.fd max, .error Errno.eagain⟩ = none := by
              simp [readStop?]
            cases readiness with
            | ready =>
                have restBounded' : ∀ e ∈ after, e.ReadBounded :=
                  fun e member => restBounded e (List.mem_append_right _ member)
                obtain ⟨ended, within⟩ := inductionHypothesis after resumed restBounded'
                exact ⟨(ended.quiet (by simp [readStop?])).quiet passes, within⟩
            | timedOut | closed =>
                obtain ⟨rfl, same⟩ := reaches_pure_iff.mp resumed
                cases same
                refine ⟨?_, by simp⟩
                simp [ReadEnded, readStop?, ReadStop.ofLoop]
          · simp only [beq_iff_eq, interrupted, blocked, if_false] at later
            obtain ⟨rfl, same⟩ := reaches_pure_iff.mp later
            cases same
            exact ⟨ReadEnded.stopped (by simp [readStop?, interrupted, blocked, ReadStop.ofLoop]), by simp⟩

/-- A read under the handle's read lock is decided as `ReadEnded` says: the lock's and the
deadline check's exchanges come before the loop's and the release after it, and none of them
counts as a try. -/
theorem pollRead_finished
    {h : Handle}
    {max : Nat}
    {es : List (Exchange Memory)}
    {x : Except Fault (Except Errno ByteArray)}
    (run : Reaches (h.poll true .error (h.readFrom max waitLimit)) es (.pure x))
    (bounded : ∀ e ∈ es, e.ReadBounded) :
    ReadEnded h es (ReadStop.ofLoop x) ∧ ∀ data, x = .ok (.ok data) → data.size ≤ max := by
  obtain ⟨ready, lock, rest, rfl, refusedClosed, passed⟩ := poll_finished run
  cases closed : (lock.handle h.key).closed
  · have lockPasses : h.readStop? ⟨.await ready (Memory.lockHandle h.key true), lock⟩ = none := by
      simp [readStop?, closed]
    obtain ⟨answer, ran, unlocked, rfl, ranOp, timedOut, failed⟩ := passed closed
    rcases answer with e | _ | _
    · -- the deadline check failed
      obtain ⟨rfl, rfl⟩ := failed e rfl
      exact ⟨ReadEnded.quiet lockPasses (ReadEnded.stopped (by simp [readStop?, ReadStop.ofLoop])), by simp⟩
    · -- the loop, with the lock's and the check's exchanges before it and the release after it
      obtain ⟨ended, within⟩ := readFrom_finished waitLimit ran (ranOp rfl)
        (fun e member => bounded e (by simp [member]))
      exact ⟨ReadEnded.quiet lockPasses (ReadEnded.quiet (by simp [readStop?]) (ended.append _)), within⟩
    · -- the deadline had passed
      obtain ⟨rfl, rfl⟩ := timedOut rfl
      exact ⟨ReadEnded.quiet lockPasses (ReadEnded.stopped (by simp [readStop?, ReadStop.ofLoop])), by simp⟩
  · obtain ⟨rfl, rfl⟩ := refusedClosed closed
    exact ⟨ReadEnded.stopped (by simp [readStop?, closed, ReadStop.ofLoop]), by simp⟩

theorem wrapError_finished
    {α : Type}
    {h : Handle}
    {op : String}
    {cause : Fault}
    {es : List (Exchange Memory)}
    {r : Except Fault α}
    (run : Reaches (h.wrap op cause >>= fun f => Pure.pure (Except.error f)) es (.pure r)) :
    ∃ m, es = [⟨.update id, m⟩] ∧ r = .error (.path op makerPath (if (m.handle h.key).closed then .closed else cause)) := by
  obtain ⟨wrapped, finish, f, rfl, wrapping, done⟩ := reaches_bind_pure_iff.mp run
  obtain ⟨rfl, same⟩ := reaches_pure_iff.mp done
  obtain ⟨m, rfl, rfl⟩ := wrap_finished wrapping
  exact ⟨m, rfl, Prog.pure.inj same⟩

/-- A read on a terminal keeps the contract of a reader, whatever the kernel and the poller
answer so long as the kernel answers no more bytes than were asked for.  Asked for nothing it
answers nothing at once, with no exchange at all.  Otherwise the exchange `stop` that decides
it says what it answers: the bytes of the first read that answered any, when there are some,
and never more than asked for; the end of the stream exactly when that read answered none or
the first failing read failed with `EIO`; and any other fault names `read` and the terminal's
maker with the cause that decided the read, or the closed file when the handle was closed by
the time the fault was named (the last exchange). -/
theorem read_honours_reader_contract
    {h : Handle}
    {max : Nat}
    {es : List (Exchange Memory)}
    {r : Except Fault ByteArray}
    (run : Reaches (h.read max) es (.pure r))
    (bounded : ∀ e ∈ es, e.ReadBounded) :
    (max = 0 → es = [] ∧ r = .ok .empty) ∧
    (0 < max → ∃ stop, ReadEnded h es stop ∧
      (∀ data, r = .ok data ↔ stop = .bytes data ∧ 0 < data.size) ∧
      (∀ data, r = .ok data → data.size ≤ max) ∧
      (r = .error .endOfStream ↔ stop.endsStream = true) ∧
      ∀ f, r = .error f → f ≠ .endOfStream →
        ∃ m c, es.getLast? = some ⟨.update id, m⟩ ∧ stop.cause? = some c ∧
          f = .path "read" makerPath (if (m.handle h.key).closed then .closed else c)) := by
  unfold Handle.read at run
  split at run
  · next empty =>
    obtain ⟨rfl, same⟩ := reaches_pure_iff.mp run
    cases same
    have nothing : max = 0 := by simpa using empty
    exact ⟨fun _ => ⟨rfl, rfl⟩, fun positive => absurd nothing (Nat.pos_iff_ne_zero.mp positive)⟩
  · next nonempty =>
    have something : max ≠ 0 := by simpa using nonempty
    refine ⟨fun nothing => absurd nothing something, fun _ => ?_⟩
    obtain ⟨polled, reported, x, rfl, polling, reporting⟩ := reaches_bind_pure_iff.mp run
    obtain ⟨ended, within⟩ := pollRead_finished polling (fun e member => bounded e (List.mem_append_left _ member))
    have extended : ∀ {m : Memory}, ReadEnded h (polled ++ [⟨.update id, m⟩]) (ReadStop.ofLoop x) :=
      ended.append _
    refine ⟨ReadStop.ofLoop x, ?_⟩
    rcases x with c | e | data
    · -- the lock, the deadline or a wait cut the read short
      obtain ⟨m, rfl, rfl⟩ := wrapError_finished reporting
      refine ⟨extended, by simp [ReadStop.ofLoop], by simp, by simp [ReadStop.ofLoop, ReadStop.endsStream], ?_⟩
      rintro f ⟨⟩ -
      exact ⟨m, c, by simp, rfl, rfl⟩
    · -- a read failed
      dsimp only at reporting
      split at reporting
      · next hungUp =>
        obtain ⟨rfl, same⟩ := reaches_pure_iff.mp reporting
        cases same
        refine ⟨by simpa using ended, by simp [ReadStop.ofLoop], by simp,
          by simpa [ReadStop.ofLoop, ReadStop.endsStream] using hungUp, ?_⟩
        rintro f ⟨⟩ notEnd
        exact absurd rfl notEnd
      · next failed =>
        obtain ⟨m, rfl, rfl⟩ := wrapError_finished reporting
        refine ⟨extended, by simp [ReadStop.ofLoop], by simp,
          by simpa [ReadStop.ofLoop, ReadStop.endsStream] using failed, ?_⟩
        rintro f ⟨⟩ -
        exact ⟨m, .errno e, by simp, rfl, rfl⟩
    · -- a read answered bytes, none at the end of the stream
      dsimp only at reporting
      have bytesStop : ReadStop.ofLoop (.ok (.ok data)) = .bytes data := rfl
      split at reporting
      · next none =>
        obtain ⟨rfl, same⟩ := reaches_pure_iff.mp reporting
        cases same
        refine ⟨by simpa using ended, ?_, by simp, by simpa [bytesStop, ReadStop.endsStream] using none, by simp⟩
        intro chunk
        simp only [reduceCtorEq, false_iff, bytesStop, ReadStop.bytes.injEq, not_and]
        rintro rfl
        simpa using none
      · next some =>
        obtain ⟨rfl, same⟩ := reaches_pure_iff.mp reporting
        cases same
        have positive : 0 < data.size := by
          simp only [beq_iff_eq] at some
          omega
        refine ⟨by simpa using ended, ?_, ?_, by simpa [bytesStop, ReadStop.endsStream] using some, by simp⟩
        · intro chunk
          simp only [Except.ok.injEq, bytesStop, ReadStop.bytes.injEq]
          constructor
          · rintro rfl
            exact ⟨rfl, positive⟩
          · rintro ⟨rfl, -⟩
            rfl
        · rintro chunk ⟨⟩
          exact within data rfl

/-- A read of four bytes that is interrupted once and then answered two bytes answers them. -/
theorem read_after_interrupt_answers_chunk :
    ∃ es, Reaches (Handle.read ⟨5, 0, "/dev/pts/0"⟩ 4) es (.pure (.ok ⟨#[7, 8]⟩)) ∧
      (∀ e ∈ es, e.ReadBounded) ∧
      ∃ stop, ReadEnded ⟨5, 0, "/dev/pts/0"⟩ es stop ∧ stop = .bytes ⟨#[7, 8]⟩ := by
  obtain ⟨es, run, bounded⟩ : ∃ es,
      Reaches (Handle.read ⟨5, 0, "/dev/pts/0"⟩ 4) es (.pure (.ok ⟨#[7, 8]⟩)) ∧
        ∀ e ∈ es, e.ReadBounded := by
    apply Exists.intro
    constructor
    · unfold Handle.read Handle.poll
      rw [if_neg (by decide)]
      apply Reaches.call (r := .await _ _) ({} : Memory)
      have unclosed : ((({} : Memory).handle 0).closed = true) = False := by simp; rfl
      simp only [Prog.bind, unclosed, if_false, Handle.prepare]
      apply Reaches.call (r := .deadlinePassed _ _) (.ok false)
      simp only [Prog.bind, show waitLimit = 999999 + 1 from rfl]
      rw [Handle.readFrom]
      simp only [Sys.read, lift_eq]
      apply Reaches.call (r := .read _ _) (.error Errno.eintr)
      simp only [Prog.bind, beq_self_eq_true, if_true, show (999999 : Nat) = 999998 + 1 from rfl]
      rw [Handle.readFrom]
      simp only [Sys.read, lift_eq]
      apply Reaches.call (r := .read _ _) (.ok ⟨#[7, 8]⟩)
      simp only [Prog.bind, Sys.update, lift_eq]
      apply Reaches.call (r := .update _) ({} : Memory)
      exact .refl _
    · -- only the read that answered bytes is bounded by what it asked for
      simp [Exchange.ReadBounded]
      rintro data ⟨⟩
      decide
  obtain ⟨-, answered⟩ := read_honours_reader_contract run bounded
  obtain ⟨stop, ended, bytes, -⟩ := answered (by decide)
  exact ⟨es, run, bounded, stop, ended, ((bytes _).mp rfl).1⟩

end Handle

end PseudoTerm.Control
