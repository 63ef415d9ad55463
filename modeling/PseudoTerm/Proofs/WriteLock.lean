import PseudoTerm.Proofs.TerminalWrites
import PseudoTerm.Proofs.Team
import PseudoTerm.Proofs.PairSteps

/-!
# One write at a time

Writes on one handle from many threads never mix their bytes.  A write hands the kernel
bytes only while it holds the handle's write lock (`Handle.poll`), a flag in the handle's
record, and one thread at a time holds it.

A thread's place in the code of the lock is read off its own exchanges (`place`): before
the lock; inside, once an await found the handle open and took the lock; out, after the
first change of the memory inside (the release) or an await that found the handle closed.
What the thread may still do at each place is `Fits`: before, it waits for the lock
(`Entering`); inside, it leaves the memory alone until it releases the lock (`Inside`);
out, it never writes on the descriptor and leaves the handle's record alone (`Outside`).
A write of data that is not empty is entering (`write_entering`).

`Exclusive` is the invariant of a team of such threads: the handle is registered, each
thread's program fits its place, at most one thread is inside, and the flag is set while
one is.  Every step keeps it (`Exclusive.step`), so every run does.  The main statement,
`writes_apart`: between two writes on the descriptor by one thread no other thread
writes on it.
-/

namespace PseudoTerm.Machine

/-- A request that leaves the memory alone and starts no thread. -/
def Request.Plain {μ : Type} (r : Request μ) : Prop := r.change? = none ∧ r.startsThread = false

end PseudoTerm.Machine

namespace PseudoTerm.Control

open PseudoTerm.Machine Prog

namespace Memory

variable {k : Nat} {m : Memory}

theorem closed_lockHandle (k : Nat) (reading : Bool) (m : Memory) :
    ((lockHandle k reading m).handle k).closed = (m.handle k).closed := by
  unfold lockHandle
  split
  · rfl
  · simp only [handle, modifyHandle, Table.get?_modify_self]
    cases m.handles.get? k <;> cases reading <;> rfl

theorem lockHandle_of_closed (closed : (m.handle k).closed = true) (reading : Bool) :
    lockHandle k reading m = m := by
  simp [lockHandle, closed]

theorem writeLocked_lockHandle (registered : (m.handles.get? k).isSome = true)
    (unclosed : (m.handle k).closed = false) : ((lockHandle k false m).handle k).writeLocked = true := by
  obtain ⟨s, found⟩ := Option.isSome_iff_exists.mp registered
  have open_ : s.closed = false := by simpa [handle, found] using unclosed
  simp [lockHandle, handle, modifyHandle, found, open_, HandleState.setLocked]

theorem registered_lockHandle (reading : Bool) :
    ((lockHandle k reading m).handles.get? k).isSome = (m.handles.get? k).isSome := by
  unfold lockHandle
  split
  · rfl
  · simp [modifyHandle]

theorem registered_unlockHandle (reading : Bool) :
    ((unlockHandle k reading m).handles.get? k).isSome = (m.handles.get? k).isSome := by
  simp [unlockHandle, modifyHandle]

end Memory

namespace Handle

/-- A request that neither writes on the handle's descriptor, nor changes its record, nor
starts a thread. -/
def Apart (h : Handle) (r : Request Memory) : Prop :=
  r.startsThread = false ∧ r.writesOn h.fd = false ∧
    ∀ f, r.change? = some f → ∀ m, (f m).handles.get? h.key = m.handles.get? h.key

/-- What a thread does out of the lock's code. -/
abbrev Outside (h : Handle) {α : Type} (p : Prog Memory α) : Prop := Only h.Apart p

/-- What a thread does while it holds the write lock: requests that leave the memory alone,
until it releases the lock; after that it is out. -/
inductive Inside (h : Handle) {α : Type} : Prog Memory α → Prop
  | step {r : Request Memory} {next : r.Answer → Prog Memory α} :
      r.Plain → (∀ x, Inside h (next x)) → Inside h (.call r next)
  | release {next : Memory → Prog Memory α} :
      (∀ m, h.Outside (next m)) → Inside h (.call (.update (Memory.unlockHandle h.key false)) next)

/-- A thread about to take the write lock: it waits until the handle is closed or the lock is
free, takes the lock unless the handle is closed, and goes on inside, or out when it was
closed. -/
def Entering (h : Handle) {α : Type} (p : Prog Memory α) : Prop :=
  ∃ ready next, p = .call (.await ready (Memory.lockHandle h.key false)) next ∧
    (∀ m : Memory, ready m = true → (m.handle h.key).closed = true ∨ (m.handle h.key).writeLocked = false) ∧
    ∀ m : Memory, ((m.handle h.key).closed = true → h.Outside (next m)) ∧
      ((m.handle h.key).closed = false → h.Inside (next m))

section Programs

variable {h : Handle} {α β : Type}

theorem Inside.bind {p : Prog Memory α} {f : α → Prog Memory β} (inside : h.Inside p)
    (rest : ∀ a, h.Outside (f a)) : h.Inside (p >>= f) := by
  induction inside with
  | step plain _ inductionHypothesis =>
      rw [call_bind]
      exact .step plain inductionHypothesis
  | release later => exact .release fun m => (later m).bind rest

theorem Inside.of_plain {p : Prog Memory α} {f : α → Prog Memory β} (plain : Only Request.Plain p)
    (rest : ∀ a, h.Inside (f a)) : h.Inside (p >>= f) := by
  induction plain with
  | pure a => exact rest a
  | call allowed _ inductionHypothesis =>
      rw [call_bind]
      exact .step allowed inductionHypothesis

theorem Inside.unlock {f : Memory → Prog Memory α} (rest : ∀ m, h.Outside (f m)) :
    h.Inside (Sys.update (Memory.unlockHandle h.key false) >>= f) :=
  .release rest

theorem Entering.bind {p : Prog Memory α} {f : α → Prog Memory β} (entering : h.Entering p)
    (rest : ∀ a, h.Outside (f a)) : h.Entering (p >>= f) := by
  obtain ⟨ready, next, rfl, free, onward⟩ := entering
  refine ⟨ready, fun m => next m >>= f, rfl, free, fun m => ⟨fun closed => ?_, fun open_ => ?_⟩⟩
  · exact ((onward m).1 closed).bind rest
  · exact ((onward m).2 open_).bind rest

theorem prepare_plain (reading : Bool) : Only Request.Plain (h.prepare reading) := by
  unfold Handle.prepare
  refine .call ⟨rfl, rfl⟩ fun answer => ?_
  rcases answer with _ | _ | _ <;> exact .pure _

theorem park_plain (reading : Bool) : Only Request.Plain (h.park reading) := by
  unfold Handle.park
  refine .call ⟨rfl, rfl⟩ fun readiness => ?_
  cases readiness <;> exact .pure _

theorem writeFrom_plain (data : ByteArray) (fuel done : Nat) :
    Only Request.Plain (h.writeFrom data fuel done) := by
  induction fuel generalizing done with
  | zero =>
      unfold Handle.writeFrom
      split
      · exact .pure _
      · exact .call ⟨rfl, rfl⟩ fun x => x.elim
  | succ fuel inductionHypothesis =>
      unfold Handle.writeFrom
      split
      · exact .pure _
      · refine Only.bind (.call ⟨rfl, rfl⟩ fun _ => .pure _) fun answer => ?_
        rcases answer with e | _ | written
        · by_cases interrupted : e = Errno.eintr
          · subst interrupted
            simp only [beq_self_eq_true, if_true]
            exact inductionHypothesis _
          by_cases blocked : e = Errno.eagain
          · subst blocked
            simp only [beq_self_eq_true, if_true, beq_iff_eq, interrupted, if_false]
            refine (park_plain false).bind fun x => ?_
            cases x <;> first | exact inductionHypothesis _ | exact .pure _
          · simp only [beq_iff_eq, interrupted, blocked, if_false]
            exact .pure _
        · exact .pure _
        · exact inductionHypothesis _

theorem wrap_outside (op : String) (cause : Fault) : h.Outside (h.wrap op cause) :=
  .call ⟨rfl, rfl, fun _ same _ => by cases same; rfl⟩ fun _ => .pure _

/-- A write of data that is not empty waits for the write lock first: once it has it, it
only checks the deadline, writes and waits for the descriptor until it releases the lock,
and after that it only reads whether the handle is closed. -/
theorem write_entering {data : ByteArray} (nonempty : data.size ≠ 0) : h.Entering (h.write data) := by
  unfold Handle.write
  rw [if_neg (by simpa using nonempty)]
  refine Entering.bind ?_ fun result => ?_
  rotate_left
  · -- what follows the poll names the fault, reading the closed flag and nothing else
    obtain ⟨written, _ | cause⟩ := result
    · exact .pure _
    · exact (wrap_outside "write" cause).bind fun _ => .pure _
  unfold Handle.poll
  refine ⟨_, _, rfl, fun m ready => ?_, fun m => ⟨fun closed => ?_, fun unclosed => ?_⟩⟩
  · simpa [HandleState.locked] using ready
  · simp only [Prog.bind, closed, if_true]
    exact .pure _
  · simp only [Prog.bind, unclosed, Bool.false_eq_true, if_false]
    refine Inside.of_plain (prepare_plain false) fun cause => ?_
    cases cause with
    | some cause => exact Inside.unlock fun _ => .pure _
    | none => exact Inside.of_plain (writeFrom_plain _ _ _) fun _ => Inside.unlock fun _ => .pure _

end Programs

/-- Where a thread is in the code of a handle's write lock. -/
inductive Place where
  | before
  | inside
  | out
  deriving DecidableEq

/-- The order in which a thread passes the places. -/
def Place.rank : Place → Nat
  | .before => 0
  | .inside => 1
  | .out => 2

/-- The place after one more exchange: the first await takes the lock unless it found the
handle closed, and the first change of the memory inside releases it. -/
def Place.next (h : Handle) : Place → Exchange Memory → Place
  | .before, ⟨.await _ _, m⟩ => if ((m : Memory).handle h.key).closed then .out else .inside
  | .inside, ⟨.update _, _⟩ => .out
  | p, _ => p

/-- The place of a thread whose exchanges so far are `es`. -/
def place (h : Handle) (es : List (Exchange Memory)) : Place := es.foldl (Place.next h) .before

/-- What a thread may still do at its place. -/
def Fits (h : Handle) : Place → Prog Memory Unit → Prop
  | .before, p => h.Entering p ∨ p = .pure ()
  | .inside, p => h.Inside p
  | .out, p => h.Outside p

section Places

variable {h : Handle}

theorem Place.rank_le_next (p : Place) (e : Exchange Memory) : p.rank ≤ (p.next h e).rank := by
  unfold Place.next
  split
  · split <;> simp [Place.rank]
  · simp [Place.rank]
  · exact Nat.le_refl _

theorem Place.rank_inj {p q : Place} (same : p.rank = q.rank) : p = q := by
  cases p <;> cases q <;> first | rfl | cases same

theorem place_append_single (es : List (Exchange Memory)) (e : Exchange Memory) :
    h.place (es ++ [e]) = (h.place es).next h e := by
  simp [place, List.foldl_append]

theorem rank_le_foldl (s : Place) (es : List (Exchange Memory)) :
    s.rank ≤ (es.foldl (Place.next h) s).rank := by
  induction es generalizing s with
  | nil => exact Nat.le_refl _
  | cons e es inductionHypothesis =>
      exact Nat.le_trans (Place.rank_le_next s e) (inductionHypothesis _)

theorem rank_place_le_append (es more : List (Exchange Memory)) :
    (h.place es).rank ≤ (h.place (es ++ more)).rank := by
  rw [place, place, List.foldl_append]
  exact rank_le_foldl _ more

theorem Place.next_inside_of_unchanged {e : Exchange Memory} (unchanged : e.request.change? = none) :
    Place.next h .inside e = .inside := by
  obtain ⟨r, x⟩ := e
  cases r <;> first | rfl | cases unchanged

theorem Place.next_out (e : Exchange Memory) : Place.next h .out e = .out := by
  obtain ⟨r, x⟩ := e
  cases r <;> rfl

end Places

/-- The invariant of a team whose threads use the write lock of `h`: the handle is
registered, every thread's program fits its place, at most one thread is inside, and the
lock's flag is set while one is. -/
structure Exclusive (h : Handle) (team : Team Memory) (history : List (Turn Memory)) : Prop where
  registered : (team.memory.handles.get? h.key).isSome = true
  fits : ∀ t p, team.threads[t]? = some p → h.Fits (h.place (ofThread t history)) p
  single : ∀ t u, h.place (ofThread t history) = .inside → h.place (ofThread u history) = .inside → t = u
  locked : ∀ t, h.place (ofThread t history) = .inside → (team.memory.handle h.key).writeLocked = true

namespace Exclusive

variable {h : Handle} {first mid last : Team Memory} {history : List (Turn Memory)} {turn : Turn Memory}

theorem start (registered : (first.memory.handles.get? h.key).isSome = true)
    (starts : ∀ p ∈ first.threads, h.Entering p ∨ p = .pure ()) : h.Exclusive first [] where
  registered := registered
  fits t p found := starts p (List.mem_of_getElem? found)
  single t _ before := by cases before
  locked t before := by cases before

/-- The invariant after a turn of thread `t` that takes it to place `s` with program `q`,
from what the turn does to the flag: it is set if `t` is inside, and it stays set and `t`
stays out of the lock when another thread is inside. -/
theorem turn_of {t : Nat} {s : Place} {e : Exchange Memory} {q : Prog Memory Unit} {m' : Memory}
    (ex : h.Exclusive mid history) (moved : (h.place (ofThread t history)).next h e = s)
    (fits : h.Fits s q) (registered : (m'.handles.get? h.key).isSome = true)
    (flag : s = .inside → (m'.handle h.key).writeLocked = true)
    (others : ∀ u, u ≠ t → h.place (ofThread u history) = .inside →
      s ≠ .inside ∧ (m'.handle h.key).writeLocked = true) :
    h.Exclusive ⟨m', mid.threads.set t q⟩ (history ++ [⟨t, e⟩]) := by
  have placed : ∀ u, h.place (ofThread u (history ++ [⟨t, e⟩])) =
      if t = u then s else h.place (ofThread u history) := by
    intro u
    rw [Team.ofThread_snoc]
    by_cases mine : t = u
    · subst mine
      simp [place_append_single, moved]
    · simp [mine]
  refine ⟨registered, fun u p found => ?_, fun u v insideU insideV => ?_, fun u inside => ?_⟩
  · rw [placed]
    by_cases mine : t = u
    · subst mine
      rw [if_pos rfl]
      have inRange : t < mid.threads.length := by simpa using (List.getElem?_eq_some_iff.mp found).1
      rw [List.getElem?_set_self inRange] at found
      exact Option.some.inj found ▸ fits
    · rw [if_neg mine]
      rw [List.getElem?_set_ne mine] at found
      exact ex.fits u p found
  · rw [placed] at insideU insideV
    by_cases mineU : t = u <;> by_cases mineV : t = v
    · exact mineU.symm.trans mineV
    · rw [if_pos mineU] at insideU
      rw [if_neg mineV] at insideV
      exact absurd insideU (others v (Ne.symm mineV) insideV).1
    · rw [if_neg mineU] at insideU
      rw [if_pos mineV] at insideV
      exact absurd insideV (others u (Ne.symm mineU) insideU).1
    · rw [if_neg mineU] at insideU
      rw [if_neg mineV] at insideV
      exact ex.single u v insideU insideV
  · rw [placed] at inside
    by_cases mine : t = u
    · rw [if_pos mine] at inside
      exact flag inside
    · rw [if_neg mine] at inside
      exact (others u (Ne.symm mine) inside).2

theorem none_inside (ex : h.Exclusive mid history) (free : (mid.memory.handle h.key).writeLocked = false)
    (u : Nat) : h.place (ofThread u history) ≠ .inside := by
  intro inside
  have held := ex.locked u inside
  rw [free] at held
  cases held

theorem step (ex : h.Exclusive mid history) (step : Team.Step mid turn last) :
    h.Exclusive last (history ++ [turn]) := by
  obtain ⟨p, current⟩ : ∃ p, mid.threads[turn.thread]? = some p :=
    ⟨_, List.getElem?_eq_getElem step.thread_lt⟩
  have fitting := ex.fits _ _ current
  obtain ⟨t, e⟩ := turn
  dsimp only at current fitting ⊢
  cases placed : h.place (ofThread t history) with
  | before =>
      rw [placed] at fitting
      rcases fitting with ⟨ready, next, rfl, free, onward⟩ | rfl
      · obtain ⟨holds, answered, rfl⟩ := step.of_await current
        dsimp only at answered
        subst answered
        have kept := Memory.closed_lockHandle h.key false mid.memory
        cases closed : (mid.memory.handle h.key).closed with
        | true =>
            rw [Memory.lockHandle_of_closed closed]
            refine ex.turn_of (s := .out) (by simp [placed, Place.next, closed])
              ((onward _).1 closed) ex.registered (fun out => by cases out) fun u _ inside =>
                ⟨by simp, ex.locked u inside⟩
        | false =>
            have free' : (mid.memory.handle h.key).writeLocked = false := by
              rcases free _ holds with closed' | unlocked
              · rw [closed] at closed'
                cases closed'
              · exact unlocked
            refine ex.turn_of (s := .inside) (by simp [placed, Place.next, kept, closed])
              ((onward _).2 (kept.trans closed))
              (by rw [Memory.registered_lockHandle]; exact ex.registered)
              (fun _ => Memory.writeLocked_lockHandle ex.registered closed)
              fun u _ inside => absurd inside (ex.none_inside free' u)
      · exact (step.of_pure current).elim
  | inside =>
      rw [placed] at fitting
      cases fitting with
      | step plain later =>
          obtain ⟨x, answered, rfl⟩ := step.of_plain current plain.1 plain.2
          dsimp only at answered
          subst answered
          exact ex.turn_of (s := .inside) (by rw [placed]; exact Place.next_inside_of_unchanged plain.1)
            (later x) ex.registered (fun _ => ex.locked t placed)
            fun u other inside => absurd (ex.single u t inside placed) other
      | release later =>
          obtain ⟨answered, rfl⟩ := step.of_update current
          dsimp only at answered
          subst answered
          exact ex.turn_of (s := .out) (by simp [placed, Place.next]) (later _)
            (by rw [Memory.registered_unlockHandle]; exact ex.registered) (fun out => by cases out)
            fun u other inside => absurd (ex.single u t inside placed) other
  | out =>
      rw [placed] at fitting
      cases fitting with
      | pure => exact (step.of_pure current).elim
      | @call r next apart later =>
          obtain ⟨r', next', x, asked, answered, moved⟩ := step.of_call
          rw [current] at asked
          cases asked
          obtain rfl := moved apart.1
          dsimp only at answered
          subst answered
          have record : ((r.change?.getD id) mid.memory).handles.get? h.key = mid.memory.handles.get? h.key := by
            cases changed : r.change? with
            | none => rfl
            | some f => exact apart.2.2 f changed mid.memory
          have sameHandle : ((r.change?.getD id) mid.memory).handle h.key = mid.memory.handle h.key := by
            simp only [Memory.handle, record]
          exact ex.turn_of (s := .out) (by rw [placed]; exact Place.next_out _) (later x)
            (by rw [record]; exact ex.registered) (fun out => by cases out)
            fun u _ inside => ⟨by simp, sameHandle ▸ ex.locked u inside⟩

theorem run (ex : h.Exclusive first []) (run : Team.Run first history last) : h.Exclusive last history := by
  induction run with
  | refl => exact ex
  | snoc _ step inductionHypothesis => exact inductionHypothesis.step step

theorem inside_of_writes (ex : h.Exclusive mid history) (step : Team.Step mid turn last)
    (writing : turn.exchange.writesTo h.fd = true) : h.place (ofThread turn.thread history) = .inside := by
  obtain ⟨r, next, x, current, answered, -⟩ := step.of_call
  have fitting := ex.fits _ _ current
  rw [answered] at writing
  cases placed : h.place (ofThread turn.thread history) with
  | before =>
      rw [placed] at fitting
      rcases fitting with ⟨ready, next', same, -, -⟩ | stopped
      · cases same
        cases writing
      · cases stopped
  | inside => rfl
  | out =>
      rw [placed] at fitting
      cases fitting with
      | call apart _ =>
          rw [Exchange.writesTo, apart.2.1] at writing
          cases writing

end Exclusive

section Runs

variable {h : Handle} {first last : Team Memory} {history : List (Turn Memory)}

theorem rank_place_take_le (h : Handle) (history : List (Turn Memory)) (t : Nat) {i j : Nat} (le : i ≤ j) :
    (h.place (ofThread t (history.take i))).rank ≤ (h.place (ofThread t (history.take j))).rank := by
  have split : history.take j = history.take i ++ (history.take j).drop i := by
    have kept : (history.take j).take i = history.take i := by rw [List.take_take, Nat.min_eq_left le]
    calc history.take j = (history.take j).take i ++ (history.take j).drop i := (List.take_append_drop i _).symm
      _ = history.take i ++ (history.take j).drop i := by rw [kept]
  rw [split, ofThread_append]
  exact rank_place_le_append _ _

/-- Between two writes on the descriptor by one thread no other thread writes on it: a
thread writes only while it holds the lock, it holds it over one stretch of its turns, and
no other thread holds it meanwhile. -/
theorem writes_apart (registered : (first.memory.handles.get? h.key).isSome = true)
    (starts : ∀ p ∈ first.threads, h.Entering p ∨ p = .pure ()) (run : Team.Run first history last)
    {i j k : Nat} (earlier : i < j) (later : j < k) (inHistory : k < history.length)
    (sameThread : history[i].thread = history[k].thread)
    (firstWrite : history[i].exchange.writesTo h.fd = true)
    (betweenWrite : history[j].exchange.writesTo h.fd = true)
    (lastWrite : history[k].exchange.writesTo h.fd = true) :
    history[j].thread = history[i].thread := by
  have before : ∀ n (bound : n < history.length), ∃ mid after,
      h.Exclusive mid (history.take n) ∧ Team.Step mid history[n] after := by
    intro n bound
    have whole : history.take n ++ history[n] :: history.drop (n + 1) = history := by simp
    rw [← whole] at run
    obtain ⟨mid, upTo, rest⟩ := run.split
    obtain ⟨after, step, -⟩ := rest.cons_inv
    exact ⟨mid, after, (Exclusive.start registered starts).run upTo, step⟩
  have insideAt : ∀ n (bound : n < history.length), history[n].exchange.writesTo h.fd = true →
      h.place (ofThread history[n].thread (history.take n)) = .inside := by
    intro n bound writing
    obtain ⟨mid, after, ex, step⟩ := before n bound
    exact ex.inside_of_writes step writing
  have atFirst := insideAt i (by omega) firstWrite
  have atLast := insideAt k inHistory lastWrite
  rw [← sameThread] at atLast
  have atBetween : h.place (ofThread history[i].thread (history.take j)) = .inside := by
    have low := rank_place_take_le h history history[i].thread (Nat.le_of_lt earlier)
    have high := rank_place_take_le h history history[i].thread (Nat.le_of_lt later)
    rw [atFirst] at low
    rw [atLast] at high
    apply Place.rank_inj
    exact Nat.le_antisymm high low
  obtain ⟨mid, after, ex, -⟩ := before j (by omega)
  exact ex.single _ _ (insideAt j (by omega) betweenWrite) atBetween

end Runs

/-- A thread that writes `data` on the handle and ends starts by waiting for the lock, or has
nothing to write. -/
theorem writer_starts (h : Handle) (data : ByteArray) :
    h.Entering (h.write data >>= fun _ => Pure.pure ()) ∨ (h.write data >>= fun _ => Pure.pure ()) = .pure () := by
  by_cases empty : data.size = 0
  · right
    unfold Handle.write
    rw [if_pos (by simpa using empty)]
    rfl
  · exact .inl ((write_entering empty).bind fun _ => .pure _)

/-- A write on a terminal, whatever the kernel and the poller answer, hands the kernel the
first `n` bytes of its data, each once and in order, where `n` is the count it answers; it
fails exactly when `n` falls short, naming `write`, the terminal's maker and the cause that
ended it, or the closed file once the handle is closed.  Threads that each write on one
registered handle never mix their bytes: between two writes on the descriptor by one of
them, no other writes on it. -/
theorem write_hands_over_prefix_unmixed :
    (∀ (h : Handle) (data : ByteArray) (es : List (Exchange Memory)) (n : Nat) (fault : Option Fault),
      Reaches (h.write data) es (.pure (n, fault)) → (∀ e ∈ es, e.Bounded) →
        n ≤ data.size ∧ es.flatMap (·.written (· == h.fd)) = data.data.toList.take n ∧
          (fault = none ↔ n = data.size) ∧
          ∀ f, fault = some f → ∃ m c, es.getLast? = some ⟨.update id, m⟩ ∧ h.WriteEnded es c ∧
            f = .path "write" Pty.makerPath (if (m.handle h.key).closed then .closed else c)) ∧
    ∀ (h : Handle) (m : Memory) (datas : List ByteArray) (history : List (Turn Memory)) (last : Team Memory),
      (m.handles.get? h.key).isSome = true →
      Team.Run ⟨m, datas.map fun data => h.write data >>= fun _ => Pure.pure ()⟩ history last →
      ∀ i j k (earlier : i < j) (later : j < k) (inHistory : k < history.length),
        history[i].thread = history[k].thread → history[i].exchange.writesTo h.fd = true →
        history[j].exchange.writesTo h.fd = true → history[k].exchange.writesTo h.fd = true →
        history[j].thread = history[i].thread := by
  refine ⟨fun h data es n fault run bounded => write_hands_over_prefix run bounded, ?_⟩
  intro h m datas history last registered run i j k earlier later inHistory sameThread firstWrite
    betweenWrite lastWrite
  have starts : ∀ p ∈ datas.map (fun data => h.write data >>= fun _ => Pure.pure ()), h.Entering p ∨ p = .pure () := by
    intro p member
    obtain ⟨data, -, rfl⟩ := List.mem_map.mp member
    exact writer_starts h data
  exact writes_apart registered starts run earlier later inHistory sameThread firstWrite betweenWrite lastWrite

/-- A kernel that takes one byte per write, and whose descriptors never pass a deadline
before a try. -/
def oneByteWrites : (r : Request Memory) → Option r.Answer
  | .deadlinePassed _ _ => some (.ok false)
  | .write _ _ => some (.ok 1)
  | _ => none

/-- A write of three bytes that the kernel takes two of, then would block, then after a
wait takes the last one, hands over all three in order.  Two threads writing `[1, 2]` and
`[3]` on one terminal whose kernel takes one byte per write hand over `[1, 2, 3]`, and
between two writes of one thread no other thread writes. -/
theorem writers_hand_over_unmixed :
    (∃ es, Reaches (Handle.write ⟨5, 0, "/dev/pts/0"⟩ ⟨#[1, 2, 3]⟩) es (.pure (3, none)) ∧
      (∀ e ∈ es, e.Bounded) ∧ 3 ≤ (⟨#[1, 2, 3]⟩ : ByteArray).size ∧
      es.flatMap (·.written (· == 5)) = [1, 2, 3]) ∧
    ∃ history last, Team.Run ⟨{ handles := [(0, {})] },
        [⟨#[1, 2]⟩, ⟨#[3]⟩].map fun data => Handle.write ⟨5, 0, "/dev/pts/0"⟩ data >>= fun _ => Pure.pure ()⟩
        history last ∧
      last.returned 0 ∧ last.returned 1 ∧ (history.map Turn.exchange).flatMap (·.written (· == 5)) = [1, 2, 3] ∧
      ∀ i j k (earlier : i < j) (later : j < k) (inHistory : k < history.length),
        history[i].thread = history[k].thread → history[i].exchange.writesTo 5 = true →
        history[j].exchange.writesTo 5 = true → history[k].exchange.writesTo 5 = true →
        history[j].thread = history[i].thread := by
  refine ⟨?_, ?_⟩
  · obtain ⟨es, run, bounded⟩ : ∃ es,
        Reaches (Handle.write ⟨5, 0, "/dev/pts/0"⟩ ⟨#[1, 2, 3]⟩) es (.pure (3, none)) ∧
          ∀ e ∈ es, e.Bounded := by
      apply Exists.intro
      constructor
      · unfold Handle.write Handle.poll
        rw [if_neg (by decide)]
        apply Reaches.call (r := .await _ _) ({} : Memory)
        have unclosed : ((({} : Memory).handle 0).closed = true) = False := by simp; rfl
        simp only [Prog.bind, unclosed, if_false, Handle.prepare]
        apply Reaches.call (r := .deadlinePassed _ _) (.ok false)
        simp only [Prog.bind, show waitLimit = 999999 + 1 from rfl]
        rw [Handle.writeFrom, if_neg (by decide)]
        simp only [Sys.write, lift_eq]
        apply Reaches.call (r := .write _ _) (.ok 2)
        simp only [Prog.bind, show (999999 : Nat) = 999998 + 1 from rfl]
        rw [Handle.writeFrom, if_neg (by decide)]
        simp only [Sys.write, lift_eq]
        apply Reaches.call (r := .write _ _) (.error Errno.eagain)
        simp only [Prog.bind, show (Errno.eagain == Errno.eintr) = false from rfl, Handle.park, beq_self_eq_true,
          Bool.false_eq_true, if_true, if_false, Sys.awaitReady, lift_eq]
        apply Reaches.call (r := .awaitReady _ _) Readiness.ready
        simp only [Prog.bind, show (999998 : Nat) = 999997 + 1 from rfl]
        rw [Handle.writeFrom, if_neg (by decide)]
        simp only [Sys.write, lift_eq]
        apply Reaches.call (r := .write _ _) (.ok 1)
        simp only [Prog.bind]
        rw [Handle.writeFrom, if_pos (by decide)]
        simp only [Sys.update, lift_eq]
        apply Reaches.call (r := .update _) ({} : Memory)
        exact .refl _
      · -- only the two writes the kernel took bytes of are bounded by what they were handed
        simp [Exchange.Bounded]
        refine ⟨?_, ?_⟩ <;> rintro k ⟨⟩ <;> decide
    obtain ⟨within, handed, -, -⟩ := write_hands_over_prefix_unmixed.1 _ _ _ _ _ run bounded
    exact ⟨es, run, bounded, within, handed⟩
  · obtain ⟨history, last, run, ok⟩ := Team.Run.of_play_any oneByteWrites
      ⟨{ handles := [(0, {})] },
        [⟨#[1, 2]⟩, ⟨#[3]⟩].map fun data => Handle.write ⟨5, 0, "/dev/pts/0"⟩ data >>= fun _ => Pure.pure ()⟩
      [0, 0, 0, 0, 0, 1, 1, 1, 1]
      (fun r => r.2.returned 0 && r.2.returned 1 && (r.1.map Turn.exchange).flatMap (·.written (· == 5)) == [1, 2, 3])
      (by decide +kernel)
    simp only [Bool.and_eq_true, beq_iff_eq] at ok
    obtain ⟨⟨first, second⟩, bytes⟩ := ok
    exact ⟨history, last, run, first, second, bytes, write_hands_over_prefix_unmixed.2 _ _ _ _ _ rfl run⟩

end Handle

end PseudoTerm.Control
