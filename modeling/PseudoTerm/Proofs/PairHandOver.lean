import Mathlib
import PseudoTerm.Proofs.PairLedger
import PseudoTerm.Proofs.QuietCalls
import PseudoTerm.Proofs.Team
import PseudoTerm.Proofs.CloseOnce

/-!
# Handing a pair over among threads

Any number of threads may call on one terminal pair at once, each closing it, resizing it
or starting a program on it, and choosing its next call from what its calls before
answered (`Pair.Uses`).  The pair's record counts the asks for its descriptors, and an ask
gets them only when it finds the count at zero (`Memory.handedOver`).  So in every history
of such threads exactly the first take hands the descriptors over, and it hands over those
the pair was made with (`PairTeam.handedOver_of_unasked`); every take and every resize that
begins once the descriptors were asked for finds the pair consumed
(`PairTeam.handedOver_of_asked`, `PairTeam.asks_of_asked`); and no two turns hand them over
(`PairTeam.handsOver_unique`).

Only the thread whose take got the descriptors ever changes the terminal handles, and only
after that take (`Gated`).  A start that fails after making the terminal of the parent side
closes it, and that close is the terminal's first whatever the other threads do
(`PairTeam.firstCloseOfMade`), so every call balances the descriptors it took
(`PairTeam.close_settled`, `PairTeam.spawn_settled`).

`pair_descriptors_closed_once` gathers these with the balance of an allocation
(`allocate_balanced`) and the single release of the terminal a start answers
(`Handle.releases_once`).
-/

namespace PseudoTerm.Machine

open PseudoTerm.Control

/-- The exchange asks for the descriptors of pair `k`. -/
def Exchange.Asks (k : Nat) (e : Exchange Memory) : Prop :=
  e.request.change? = some (Memory.claimPair k)

/-- The exchange is a take of pair `k` that got the descriptors. -/
def Exchange.HandsOver (k : Nat) (e : Exchange Memory) : Prop :=
  ∃ m, e = ⟨.await (Memory.pairFree k) (Memory.claimPair k), m⟩ ∧ (Memory.handedOver k m).isSome = true

theorem Exchange.HandsOver.asks {k : Nat} {e : Exchange Memory} (handed : e.HandsOver k) : e.Asks k := by
  obtain ⟨m, rfl, -⟩ := handed
  rfl

namespace Prog

variable {μ α : Type}

/-- A program whose requests all satisfy `P` and all satisfy `Q` makes only requests that
satisfy both. -/
theorem Only.and {P Q : Request μ → Prop} {p : Prog μ α} (left : Only P p) (right : Only Q p) :
    Only (fun r => P r ∧ Q r) p := by
  induction left with
  | pure a => exact .pure a
  | call allowed _ inductionHypothesis =>
      cases right with
      | call allowed' rest => exact .call ⟨allowed, allowed'⟩ fun x => inductionHypothesis x (rest x)

end Prog

theorem Team.Run.length_eq_of_plain
    {μ : Type}
    {first last : Team μ}
    {history : List (Turn μ)}
    (run : Team.Run first history last)
    (plain : ∀ turn ∈ history, turn.exchange.request.startsThread = false) :
    last.threads.length = first.threads.length := by
  induction run with
  | refl => rfl
  | snoc _ step inductionHypothesis =>
      rw [step.length_eq, plain _ (List.mem_append_right _ (List.mem_singleton_self _))]
      exact inductionHypothesis fun u member => plain u (List.mem_append_left _ member)

theorem mem_ofThread_of_mem
    {μ : Type}
    {history : List (Turn μ)}
    {u : Turn μ}
    (member : u ∈ history) :
    u.exchange ∈ ofThread u.thread history :=
  List.mem_filterMap.mpr ⟨u, member, by simp⟩

end PseudoTerm.Machine

namespace PseudoTerm.Control

open PseudoTerm.Machine

namespace Memory

theorem asks_claimPair_eq (k : Nat) (m : Memory) : asks k (claimPair k m) = (asks k m).map (· + 1) := by
  simp [asks, claimPair, modifyPair, Option.map_map, Function.comp_def]

theorem asks_beginResize (k : Nat) (m : Memory) : asks k (beginResize k m) = asks k m := by
  simp only [asks, beginResize, modifyPair, Table.get?_modify_self, Option.map_map]
  congr 1
  funext s
  dsimp only [Function.comp_apply]
  split <;> rfl

theorem handedOver_isSome_iff {k : Nat} {m : Memory} : (handedOver k m).isSome = true ↔ asks k m = some 1 := by
  unfold handedOver asks
  cases m.pairs.get? k with
  | none => simp
  | some s => by_cases one : s.takes = 1 <;> simp [one]

theorem handedOver_claimPair {k : Nat} {m : Memory} (unasked : asks k m = some 0) :
    handedOver k (claimPair k m) = pairDescriptors k m := by
  unfold asks at unasked
  simp only [handedOver, pairDescriptors, claimPair, modifyPair, Table.get?_modify_self]
  cases found : m.pairs.get? k with
  | none => simp [found] at unasked
  | some s =>
      simp only [found, Option.map_some, Option.some.injEq] at unasked
      simp [unasked]

@[simp] theorem next_recordHandle (m : Memory) : (recordHandle m).next = m.next + 1 := rfl

theorem get?_recordHandle {m : Memory} (below : m.KeysBelowNext) :
    (recordHandle m).handles.get? m.next = some {} :=
  Table.get?_insert_self m.handles below.handle_absent {}

theorem recordHandle_changes : ¬ Keeps handles (.update recordHandle) := by
  intro keeps
  have same := keeps recordHandle rfl {}
  simp [recordHandle, take, Table.insert] at same

theorem closes_beginClose {k : Nat} {m : Memory} {s : HandleState} (found : m.handles.get? k = some s) :
    ((beginClose k m).handle k).closes = s.closes + 1 := by
  simp [beginClose, modifyHandle, handle, found]

end Memory

section Replay

variable {k : Nat} {m : Memory} {es : List (Exchange Memory)}

theorem replay_pairDescriptors (steps : ∀ e ∈ es, PairStep k e.request) :
    Memory.pairDescriptors k (replay m es) = Memory.pairDescriptors k m :=
  replay_keeps fun e member => (steps e member).1

theorem replay_keysBelowNext (steps : ∀ e ∈ es, PairStep k e.request) (below : m.KeysBelowNext) :
    (replay m es).KeysBelowNext := by
  induction es generalizing m with
  | nil => exact below
  | cons e rest inductionHypothesis =>
      refine inductionHypothesis (fun e' member => steps e' (List.mem_cons_of_mem _ member)) ?_
      cases changed : e.request.change? with
      | none => simpa using below
      | some f => simpa using (steps e List.mem_cons_self).2.2 f changed m below

theorem replay_asks_of_unasked (steps : ∀ e ∈ es, PairStep k e.request) (unasked : ∀ e ∈ es, ¬ e.Asks k) :
    Memory.asks k (replay m es) = Memory.asks k m :=
  replay_keeps fun e member => (steps e member).2.1.resolve_left (unasked e member)

theorem replay_asks_of_asked (steps : ∀ e ∈ es, PairStep k e.request) (start : Memory.asks k m = some 0)
    (asked : ∃ e ∈ es, e.Asks k) :
    ∃ n, Memory.asks k (replay m es) = some n ∧ 0 < n := by
  obtain ⟨n, counted, -, grown⟩ :=
    replay_grows (Memory.asks_claimPair k) (fun e member => (steps e member).2.1) start
  exact ⟨n, counted, grown asked⟩

end Replay

end PseudoTerm.Control

namespace PseudoTerm.Pty

open PseudoTerm.Machine Prog PseudoTerm.Control

/-- A call on a terminal pair. -/
inductive PairCall where
  | close
  | resize (cols rows : Nat)
  | spawn (cmd : Command) (helper : Option String) (inherited : List String)

namespace PairCall

/-- What a call answers. -/
def Answer : PairCall → Type
  | close => Except Fault Unit
  | resize .. => Except Fault Unit
  | spawn .. => Except Fault (Handle × Child)

/-- Make the call on pair `p`. -/
def perform (p : Pair) : (c : PairCall) → Prog Memory c.Answer
  | close => p.close
  | resize cols rows => p.resize cols rows
  | spawn cmd helper inherited => p.spawn cmd helper inherited

theorem perform_only (p : Pair) (c : PairCall) :
    Only (fun r => PairStep p.key r ∧ r.startsThread = false) (c.perform p) := by
  cases c with
  | close => exact (close_pairStep p).and ((pair_close_quiet p).mono fun _ quiet => quiet.2)
  | resize cols rows =>
      exact ((resize_pairStep p cols rows).mono fun _ both => both.1).and
        ((pair_resize_quiet p cols rows).mono fun _ quiet => quiet.2)
  | spawn cmd helper inherited =>
      exact (spawn_pairStep p cmd helper inherited).and
        ((pair_spawn_quiet p cmd helper inherited).mono fun _ quiet => quiet.2)

end PairCall

/-- A thread that makes calls on pair `p` and nothing else, each chosen from what the calls
before it answered. -/
inductive Pair.Uses (p : Pair) {α : Type} : Prog Memory α → Prop
  | pure (a : α) : Pair.Uses p (.pure a)
  | call (c : PairCall) {k : c.Answer → Prog Memory α} :
      (∀ x, Pair.Uses p (k x)) → Pair.Uses p (c.perform p >>= k)

/-- A program that leaves the terminal handles alone until a take of pair `k` gets the
descriptors; from then on it is free. -/
inductive Gated (k : Nat) {α : Type} : Prog Memory α → Prop
  | pure (a : α) : Gated k (.pure a)
  | call {r : Request Memory} {next : r.Answer → Prog Memory α} :
      Keeps Memory.handles r → (∀ x, ¬ Exchange.HandsOver k ⟨r, x⟩ → Gated k (next x)) →
      Gated k (.call r next)

namespace Gated

variable {k : Nat} {α β : Type}

theorem bind {p : Prog Memory α} {f : α → Prog Memory β} (gated : Gated k p) (rest : ∀ a, Gated k (f a)) :
    Gated k (p >>= f) := by
  induction gated with
  | pure a => exact rest a
  | call keeps _ inductionHypothesis =>
      rw [call_bind]
      exact .call keeps inductionHypothesis

theorem of_keeps {p : Prog Memory α} (only : Only (Keeps Memory.handles) p) : Gated k p := by
  induction only with
  | pure a => exact .pure a
  | call keeps _ inductionHypothesis => exact .call keeps fun x _ => inductionHypothesis x

/-- A take that does not get the descriptors goes on as the program says for nothing
handed over. -/
theorem take_bind {p : Pair} {f : Option (Nat × Nat) → Prog Memory α} (refused : Gated p.key (f none)) :
    Gated p.key (p.take >>= f) := by
  show Gated p.key (.call (.await (Memory.pairFree p.key) (Memory.claimPair p.key))
    fun m => f (Memory.handedOver p.key m))
  refine .call (by rintro g ⟨⟩ m; rfl) fun m unhanded => ?_
  have none : Memory.handedOver p.key m = none := by
    cases handed : Memory.handedOver p.key m with
    | none => rfl
    | some pair => exact absurd ⟨m, rfl, by simp [handed]⟩ unhanded
  rw [none]
  exact refused

theorem close_bind {p : Pair} {f : Except Fault Unit → Prog Memory α} (rest : ∀ x, Gated p.key (f x)) :
    Gated p.key (p.close >>= f) := by
  unfold Pair.close
  rw [Prog.bind_assoc]
  exact take_bind (rest (.ok ()))

theorem spawn_bind {p : Pair} {cmd : Command} {helper : Option String} {inherited : List String}
    {f : Except Fault (Handle × Child) → Prog Memory α} (rest : ∀ x, Gated p.key (f x)) :
    Gated p.key (p.spawn cmd helper inherited >>= f) := by
  unfold Pair.spawn
  rw [Prog.bind_assoc]
  exact take_bind (rest (.error .pairConsumed))

/-- Along a run of a gated program, every exchange leaves the handles alone unless an
earlier exchange of the run got the descriptors. -/
theorem reaches {p q : Prog Memory α} {es : List (Exchange Memory)} (gated : Gated k p) (run : Reaches p es q) :
    ∀ before e after, es = before ++ e :: after →
      Keeps Memory.handles e.request ∨ ∃ w ∈ before, w.HandsOver k := by
  induction run with
  | refl =>
      intro before e after split
      simp at split
  | call x _ inductionHypothesis =>
      cases gated with
      | call keeps rest =>
          intro before e after split
          cases before with
          | nil =>
              obtain ⟨rfl, -⟩ := List.cons.inj split
              exact .inl keeps
          | cons b before =>
              obtain ⟨rfl, later⟩ := List.cons.inj split
              by_cases handed : Exchange.HandsOver k ⟨_, x⟩
              · exact .inr ⟨_, List.mem_cons_self, handed⟩
              · rcases inductionHypothesis (rest x handed) before e after later with kept | ⟨w, member, handed'⟩
                · exact .inl kept
                · exact .inr ⟨w, List.mem_cons_of_mem _ member, handed'⟩

end Gated

namespace Pair.Uses

variable {p : Pair} {α : Type} {q : Prog Memory α}

/-- A thread calling on a pair changes the handles only once its take got the
descriptors. -/
theorem gated (uses : p.Uses q) : Gated p.key q := by
  induction uses with
  | pure a => exact .pure a
  | call c _ inductionHypothesis =>
      cases c with
      | close => exact Gated.close_bind inductionHypothesis
      | resize cols rows =>
          exact (Gated.of_keeps ((resize_pairStep p cols rows).mono fun _ both => both.2)).bind
            inductionHypothesis
      | spawn cmd helper inherited => exact Gated.spawn_bind inductionHypothesis

/-- Every request of a thread calling on a pair is a step of a call on the pair that starts
no thread. -/
theorem only (uses : p.Uses q) : Only (fun r => PairStep p.key r ∧ r.startsThread = false) q := by
  induction uses with
  | pure a => exact .pure a
  | call c _ inductionHypothesis => exact (c.perform_only p).bind inductionHypothesis

end Pair.Uses

/-- A close begun in a part of a thread's exchanges is the first close of a handle the
thread made there, when it is so in all of them. -/
theorem FirstCloseOfMade.middle
    {pre es post : List (Exchange Memory)}
    (whole : FirstCloseOfMade (pre ++ es ++ post)) :
    FirstCloseOfMade es := by
  intro before made between m after split bystanders
  exact whole (pre ++ before) made between m (after ++ post) (by simp [split]) bystanders

/-- A team of threads that call on pair `p`, whose record holds `parent` and `child` and was
never asked for, in a memory that keeps every key below the next one. -/
structure PairTeam (p : Pair) (parent child : Nat) (team : Team Memory) : Prop where
  recorded : team.memory.pairs.get? p.key = some { parent, child }
  below : team.memory.KeysBelowNext
  uses : ∀ q ∈ team.threads, p.Uses q

namespace PairTeam

variable {p : Pair} {parent child : Nat} {first last : Team Memory} {history : List (Turn Memory)}

theorem asks_start (start : PairTeam p parent child first) : Memory.asks p.key first.memory = some 0 := by
  simp [Memory.asks, start.recorded]

theorem steps (start : PairTeam p parent child first) (run : Team.Run first history last) :
    ∀ turn ∈ history, PairStep p.key turn.exchange.request ∧ turn.exchange.request.startsThread = false :=
  (run.only fun q member => (start.uses q member).only).1

theorem steps_before
    (start : PairTeam p parent child first)
    (run : Team.Run first history last)
    {before after : List (Turn Memory)}
    {turn : Turn Memory}
    (split : history = before ++ turn :: after) :
    ∀ e ∈ before.map Turn.exchange, PairStep p.key e.request := by
  intro e member
  obtain ⟨u, inBefore, rfl⟩ := List.mem_map.mp member
  exact (start.steps run u (split ▸ List.mem_append_left _ inBefore)).1

theorem handedOver_of_unasked
    (start : PairTeam p parent child first)
    (run : Team.Run first history last)
    {before after : List (Turn Memory)}
    {t : Nat}
    {m : Memory}
    (split : history = before ++ ⟨t, ⟨.await (Memory.pairFree p.key) (Memory.claimPair p.key), m⟩⟩ :: after)
    (unasked : ∀ u ∈ before, ¬ u.exchange.Asks p.key) :
    Memory.handedOver p.key m = some (parent, child) := by
  obtain ⟨-, rfl⟩ := run.fits split
  have steps := start.steps_before run split
  have none : ∀ e ∈ before.map Turn.exchange, ¬ e.Asks p.key := by
    intro e member
    obtain ⟨u, inBefore, rfl⟩ := List.mem_map.mp member
    exact unasked u inBefore
  rw [Memory.handedOver_claimPair (by rw [replay_asks_of_unasked steps none, start.asks_start]),
    replay_pairDescriptors steps]
  simp [Memory.pairDescriptors, start.recorded]

theorem asked_before
    (start : PairTeam p parent child first)
    (run : Team.Run first history last)
    {before after : List (Turn Memory)}
    {turn : Turn Memory}
    (split : history = before ++ turn :: after)
    (asked : ∃ u ∈ before, u.exchange.Asks p.key) :
    ∃ n, Memory.asks p.key (replay first.memory (before.map Turn.exchange)) = some n ∧ 0 < n := by
  obtain ⟨u, inBefore, asks⟩ := asked
  exact replay_asks_of_asked (start.steps_before run split) start.asks_start
    ⟨u.exchange, List.mem_map_of_mem inBefore, asks⟩

theorem handedOver_of_asked
    (start : PairTeam p parent child first)
    (run : Team.Run first history last)
    {before after : List (Turn Memory)}
    {t : Nat}
    {m : Memory}
    (split : history = before ++ ⟨t, ⟨.await (Memory.pairFree p.key) (Memory.claimPair p.key), m⟩⟩ :: after)
    (asked : ∃ u ∈ before, u.exchange.Asks p.key) :
    Memory.handedOver p.key m = none := by
  obtain ⟨n, counted, positive⟩ := start.asked_before run split asked
  obtain ⟨-, fits⟩ := run.fits split
  cases handed : Memory.handedOver p.key m with
  | none => rfl
  | some pair =>
      have one : Memory.asks p.key m = some 1 := Memory.handedOver_isSome_iff.mp (by rw [handed]; rfl)
      rw [fits, Memory.asks_claimPair_eq, counted] at one
      simp only [Option.map_some, Option.some.injEq] at one
      omega

theorem asks_of_asked
    (start : PairTeam p parent child first)
    (run : Team.Run first history last)
    {before after : List (Turn Memory)}
    {t : Nat}
    {m : Memory}
    (split : history = before ++ ⟨t, ⟨.update (Memory.beginResize p.key), m⟩⟩ :: after)
    (asked : ∃ u ∈ before, u.exchange.Asks p.key) :
    Memory.asks p.key m ≠ some 0 := by
  obtain ⟨n, counted, positive⟩ := start.asked_before run split asked
  have fits : m = Memory.beginResize p.key _ := run.fits split
  rw [fits, Memory.asks_beginResize, counted]
  simp only [ne_eq, Option.some.injEq]
  omega

theorem not_handsOver_of_asked
    (start : PairTeam p parent child first)
    (run : Team.Run first history last)
    {before after : List (Turn Memory)}
    {turn : Turn Memory}
    (split : history = before ++ turn :: after)
    (asked : ∃ u ∈ before, u.exchange.Asks p.key) :
    ¬ turn.exchange.HandsOver p.key := by
  obtain ⟨t, e⟩ := turn
  rintro ⟨m, rfl, handed⟩
  rw [start.handedOver_of_asked run split asked] at handed
  cases handed

theorem handsOver_unique
    (start : PairTeam p parent child first)
    (run : Team.Run first history last)
    {i j : Nat}
    (hi : i < history.length)
    (hj : j < history.length)
    (handedI : history[i].exchange.HandsOver p.key)
    (handedJ : history[j].exchange.HandsOver p.key) :
    i = j := by
  have earlier : ∀ {i j : Nat} (hi : i < history.length) (hj : j < history.length), i < j →
      history[i].exchange.HandsOver p.key → ¬ history[j].exchange.HandsOver p.key := by
    intro i j hi hj before handedI
    have split : history = history.take j ++ history[j] :: history.drop (j + 1) := by simp
    have member : history[i] ∈ history.take j := by
      rw [List.mem_iff_getElem]
      exact ⟨i, by simp; omega, by simp⟩
    exact start.not_handsOver_of_asked run split ⟨_, member, handedI.asks⟩
  rcases Nat.lt_trichotomy i j with before | same | after
  · exact absurd handedJ (earlier hi hj before handedI)
  · exact same
  · exact absurd handedI (earlier hj hi after handedJ)

theorem handsOver_eq
    (start : PairTeam p parent child first)
    (run : Team.Run first history last)
    {u v : Turn Memory}
    (memberU : u ∈ history)
    (memberV : v ∈ history)
    (handedU : u.exchange.HandsOver p.key)
    (handedV : v.exchange.HandsOver p.key) :
    u = v := by
  obtain ⟨i, hi, rfl⟩ := List.mem_iff_getElem.mp memberU
  obtain ⟨j, hj, rfl⟩ := List.mem_iff_getElem.mp memberV
  obtain rfl := start.handsOver_unique run hi hj handedU handedV
  rfl

theorem handedOver_of_handsOver
    (start : PairTeam p parent child first)
    (run : Team.Run first history last)
    {before after : List (Turn Memory)}
    {t : Nat}
    {m : Memory}
    (split : history = before ++ ⟨t, ⟨.await (Memory.pairFree p.key) (Memory.claimPair p.key), m⟩⟩ :: after)
    (handed : (Memory.handedOver p.key m).isSome = true) :
    Memory.handedOver p.key m = some (parent, child) := by
  by_cases asked : ∃ u ∈ before, u.exchange.Asks p.key
  · rw [start.handedOver_of_asked run split asked] at handed
    cases handed
  · exact start.handedOver_of_unasked run split fun u member asks => asked ⟨u, member, asks⟩

theorem gated_turn
    (start : PairTeam p parent child first)
    (run : Team.Run first history last)
    {before after : List (Turn Memory)}
    {turn : Turn Memory}
    (split : history = before ++ turn :: after) :
    Keeps Memory.handles turn.exchange.request ∨ ∃ w ∈ ofThread turn.thread before, w.HandsOver p.key := by
  obtain ⟨t, e⟩ := turn
  have existing : t < first.threads.length := by
    have within := run.thread_lt ⟨t, e⟩ (by simp [split])
    rwa [run.length_eq_of_plain fun u member => (start.steps run u member).2] at within
  obtain ⟨q, q', found, -, reached⟩ := run.reaches existing
  have gated := (start.uses q (List.mem_of_getElem? found)).gated
  rw [split, ofThread_append, ofThread_cons_self] at reached
  exact gated.reaches reached _ e _ rfl

/-- A turn of another thread than the one that got the descriptors leaves the handles
alone. -/
theorem keeps_of_other
    (start : PairTeam p parent child first)
    (run : Team.Run first history last)
    {before after : List (Turn Memory)}
    {turn winner : Turn Memory}
    (split : history = before ++ turn :: after)
    (won : winner ∈ history)
    (handed : winner.exchange.HandsOver p.key)
    (other : turn.thread ≠ winner.thread) :
    Keeps Memory.handles turn.exchange.request := by
  rcases start.gated_turn run split with kept | ⟨w, member, handed'⟩
  · exact kept
  · have mine : (⟨turn.thread, w⟩ : Turn Memory) ∈ history :=
      split ▸ List.mem_append_left _ (mem_of_mem_ofThread member)
    exact absurd (congrArg Turn.thread (start.handsOver_eq run mine won handed' handed)) other

/-- A close a thread begins on a handle it made, with only bystanders of its own since, is
the handle's first close: only that thread changes handles, and the handle was made fresh
under a key no handle had. -/
theorem firstCloseOfMade
    (start : PairTeam p parent child first)
    (run : Team.Run first history last)
    (t : Nat) :
    FirstCloseOfMade (ofThread t history) := by
  intro before made between mb after split bystanders
  obtain ⟨early, rest, whole, -, ownRest⟩ := ofThread_eq_append_cons split
  obtain ⟨middle, late, rfl, ownMiddle, -⟩ := ofThread_eq_append_cons ownRest
  set M := replay first.memory (early.map Turn.exchange)
  have madeFits : made = Memory.recordHandle M := run.fits whole
  subst madeFits
  let making : Turn Memory := ⟨t, ⟨.update Memory.recordHandle, Memory.recordHandle M⟩⟩
  have closeSplit : history = (early ++ making :: middle) ++
      ⟨t, ⟨.update (Memory.beginClose ((Memory.recordHandle M).next - 1)), mb⟩⟩ :: late := by
    rw [whole]
    simp [making]
  have closeFits : mb = Memory.beginClose ((Memory.recordHandle M).next - 1)
      (replay first.memory ((early ++ making :: middle).map Turn.exchange)) :=
    run.fits closeSplit
  obtain ⟨w, wMember, handed⟩ := (start.gated_turn run whole).resolve_left Memory.recordHandle_changes
  have won : (⟨t, w⟩ : Turn Memory) ∈ history := whole ▸ List.mem_append_left _ (mem_of_mem_ofThread wMember)
  have quiet : ∀ e ∈ middle.map Turn.exchange, Keeps Memory.handles e.request := by
    intro e member
    obtain ⟨u, inMiddle, rfl⟩ := List.mem_map.mp member
    by_cases mine : u.thread = t
    · have own : u.exchange ∈ between := ownMiddle ▸ mine ▸ mem_ofThread_of_mem inMiddle
      exact fun f changed m => (bystanders _ own f changed m).2.1
    · obtain ⟨A, B, middleSplit⟩ := List.append_of_mem inMiddle
      have uSplit : history = (early ++ making :: A) ++ u ::
          (B ++ ⟨t, ⟨.update (Memory.beginClose ((Memory.recordHandle M).next - 1)), mb⟩⟩ :: late) := by
        rw [closeSplit, middleSplit]
        simp
      exact start.keeps_of_other run uSplit won handed mine
  have below : M.KeysBelowNext := replay_keysBelowNext (start.steps_before run whole) start.below
  have found : (replay first.memory ((early ++ making :: middle).map Turn.exchange)).handles.get?
      ((Memory.recordHandle M).next - 1) = some {} := by
    simp only [List.map_append, List.map_cons, replay_append, replay, making, Request.change?, Option.getD]
    rw [replay_keeps quiet]
    simpa using Memory.get?_recordHandle below
  rw [closeFits]
  exact Memory.closes_beginClose found

/-- A call a thread begins after an ask for the descriptors begins with a turn after that
ask. -/
theorem turn_after
    {before after : List (Turn Memory)}
    {t : Nat}
    {pre rest post : List (Exchange Memory)}
    {e : Exchange Memory}
    (split : history = before ++ after)
    (own : ofThread t after = pre ++ e :: rest ++ post) :
    ∃ middle later, history = (before ++ middle) ++ ⟨t, e⟩ :: later := by
  obtain ⟨middle, later, whole, -, -⟩ := ofThread_eq_append_cons (show ofThread t after = pre ++ e :: (rest ++ post) by
    rw [own]
    simp)
  exact ⟨middle, later, by rw [split, whole]; simp⟩

theorem asked_widen
    {before middle : List (Turn Memory)}
    (asked : ∃ u ∈ before, u.exchange.Asks p.key) :
    ∃ u ∈ before ++ middle, u.exchange.Asks p.key := by
  obtain ⟨u, member, asks⟩ := asked
  exact ⟨u, List.mem_append_left _ member, asks⟩

theorem close_refused
    (start : PairTeam p parent child first)
    (run : Team.Run first history last)
    {before after : List (Turn Memory)}
    {t : Nat}
    {pre es post : List (Exchange Memory)}
    {x : Except Fault Unit}
    (split : history = before ++ after)
    (asked : ∃ u ∈ before, u.exchange.Asks p.key)
    (own : ofThread t after = pre ++ es ++ post)
    (closing : Reaches p.close es (.pure x)) :
    x = .ok () ∧ ∀ d, closeCount d es = 0 := by
  obtain ⟨m, rest, rfl, refused, -⟩ := Pair.close_balanced closing
  obtain ⟨middle, later, whole⟩ := turn_after split own
  obtain ⟨rfl, rfl⟩ := refused (start.handedOver_of_asked run whole (asked_widen asked))
  exact ⟨rfl, fun d => rfl⟩

theorem resize_refused
    (start : PairTeam p parent child first)
    (run : Team.Run first history last)
    {before after : List (Turn Memory)}
    {t cols rows : Nat}
    {pre es post : List (Exchange Memory)}
    {x : Except Fault Unit}
    (split : history = before ++ after)
    (asked : ∃ u ∈ before, u.exchange.Asks p.key)
    (own : ofThread t after = pre ++ es ++ post)
    (resizing : Reaches (p.resize cols rows) es (.pure x)) :
    x = .error (.resize .pairConsumed) := by
  obtain ⟨-, m, rest, rfl, refused⟩ := Pair.resize_balanced resizing
  obtain ⟨middle, later, whole⟩ := turn_after split own
  exact refused (start.asks_of_asked run whole (asked_widen asked))

theorem spawn_refused
    (start : PairTeam p parent child first)
    (run : Team.Run first history last)
    {before after : List (Turn Memory)}
    {t : Nat}
    {cmd : Command}
    {helper : Option String}
    {inherited : List String}
    {pre es post : List (Exchange Memory)}
    {x : Except Fault (Handle × Child)}
    (split : history = before ++ after)
    (asked : ∃ u ∈ before, u.exchange.Asks p.key)
    (own : ofThread t after = pre ++ es ++ post)
    (spawning : Reaches (p.spawn cmd helper inherited) es (.pure x)) :
    x = .error .pairConsumed ∧ es.length = 1 := by
  have whole : ofThread t history = (ofThread t before ++ pre) ++ es ++ post := by
    rw [split, ofThread_append, own]
    simp
  obtain ⟨m, rest, rfl, refused, -⟩ :=
    Pair.spawn_balanced spawning (FirstCloseOfMade.middle (whole ▸ start.firstCloseOfMade run t))
  obtain ⟨middle, later, atTurn⟩ := turn_after split own
  obtain ⟨rfl, rfl⟩ := refused (start.handedOver_of_asked run atTurn (asked_widen asked))
  exact ⟨rfl, rfl⟩

/-- A finished close of the pair either got nothing and closed nothing, or got the pair's
descriptors and closed each once. -/
theorem close_settled
    (start : PairTeam p parent child first)
    (run : Team.Run first history last)
    {t : Nat}
    {pre es post : List (Exchange Memory)}
    {x : Except Fault Unit}
    (own : ofThread t history = pre ++ es ++ post)
    (closing : Reaches p.close es (.pure x)) :
    (x = .ok () ∧ es.length = 1) ∨ Ledger [parent, child] [] [] es := by
  obtain ⟨m, rest, rfl, refused, balanced⟩ := Pair.close_balanced closing
  cases handed : Memory.handedOver p.key m with
  | none =>
      obtain ⟨rfl, rfl⟩ := refused handed
      exact .inl ⟨rfl, rfl⟩
  | some pair =>
      obtain ⟨before, after, whole, -, -⟩ := ofThread_eq_append_cons (show ofThread t history =
          pre ++ ⟨.await (Memory.pairFree p.key) (Memory.claimPair p.key), m⟩ :: (rest ++ post) by
        rw [own]
        simp)
      have descriptors := start.handedOver_of_handsOver run whole (by simp [handed])
      rw [handed] at descriptors
      obtain rfl := Option.some.inj descriptors
      exact .inr (balanced parent child handed)

/-- A finished start on the pair either got nothing and failed at once, or got the pair's
descriptors and balanced them and all it made, keeping the parent side only for the
terminal of a started program, whose handle it made fresh. -/
theorem spawn_settled
    (start : PairTeam p parent child first)
    (run : Team.Run first history last)
    {t : Nat}
    {cmd : Command}
    {helper : Option String}
    {inherited : List String}
    {pre es post : List (Exchange Memory)}
    {x : Except Fault (Handle × Child)}
    (own : ofThread t history = pre ++ es ++ post)
    (spawning : Reaches (p.spawn cmd helper inherited) es (.pure x)) :
    (x = .error .pairConsumed ∧ es.length = 1) ∨
      ((∀ term c, x = .ok (term, c) → term.fd = parent ∧
        ∃ made, ⟨.update Memory.recordHandle, made⟩ ∈ es ∧ made.handles.get? term.key = some {}) ∧
      ∃ waited, waited.Subperm (es.flatMap Exchange.launched) ∧
        Ledger [parent, child] (if x.isOk then [parent] else []) waited es) := by
  obtain ⟨m, rest, rfl, refused, balanced⟩ :=
    Pair.spawn_balanced spawning (FirstCloseOfMade.middle (own ▸ start.firstCloseOfMade run t))
  cases handed : Memory.handedOver p.key m with
  | none =>
      obtain ⟨rfl, rfl⟩ := refused handed
      exact .inl ⟨rfl, rfl⟩
  | some pair =>
      obtain ⟨before, after, whole, -, -⟩ := ofThread_eq_append_cons (show ofThread t history =
          pre ++ ⟨.await (Memory.pairFree p.key) (Memory.claimPair p.key), m⟩ :: (rest ++ post) by
        rw [own]
        simp)
      have descriptors := start.handedOver_of_handsOver run whole (by simp [handed])
      rw [handed] at descriptors
      obtain rfl := Option.some.inj descriptors
      obtain ⟨terminal, waited, launched, ledger⟩ := balanced parent child handed
      refine .inr ⟨fun term c started => ?_, waited, launched, ledger⟩
      obtain ⟨fd, early, made, late, making, key⟩ := terminal term c started
      refine ⟨fd, made, by rw [making]; simp, ?_⟩
      obtain ⟨A, B, atMaking, -, -⟩ := ofThread_eq_append_cons (show ofThread t history =
          (pre ++ early) ++ ⟨.update Memory.recordHandle, made⟩ :: (late ++ post) by
        rw [own, making]
        simp)
      have fits : made = Memory.recordHandle (replay first.memory (A.map Turn.exchange)) := run.fits atMaking
      have below := replay_keysBelowNext (start.steps_before run atMaking) start.below
      rw [key, fits]
      simpa using Memory.get?_recordHandle below

end PairTeam

/-- Allocating a pair closes every descriptor it opened when it fails, and otherwise keeps
exactly the two it records.  Among any threads calling on a pair, in any order and each
choosing its next call from what its calls before answered, at most one take gets the
descriptors, and the first take gets those the pair was made with; a close, resize or start
begun after the descriptors were asked for is refused and closes nothing; a finished close
closes both descriptors once or nothing, a resize balances what it opens, and a start closes
once everything it took or made but the parent side of the terminal it answers, whose
handle it made fresh.  Among threads closing such a terminal, at most one releases its
descriptor, and once any close has finished one has. -/
theorem pair_descriptors_closed_once :
    (∀ es x, Reaches (allocate childPathOf) es (.pure x) → AllocationBalanced es x) ∧
    (∀ (p : Pair) (parent child : Nat) (first last : Team Memory) (history : List (Turn Memory)),
      PairTeam p parent child first → Team.Run first history last →
        (∀ i j (hi : i < history.length) (hj : j < history.length),
          history[i].exchange.HandsOver p.key → history[j].exchange.HandsOver p.key → i = j) ∧
        (∀ before t m after,
          history = before ++ ⟨t, ⟨.await (Memory.pairFree p.key) (Memory.claimPair p.key), m⟩⟩ :: after →
          (∀ u ∈ before, ¬ u.exchange.Asks p.key) → Memory.handedOver p.key m = some (parent, child)) ∧
        (∀ before after t pre es post, history = before ++ after → (∃ u ∈ before, u.exchange.Asks p.key) →
          ofThread t after = pre ++ es ++ post →
            (∀ x, Reaches p.close es (.pure x) → x = .ok () ∧ ∀ d, closeCount d es = 0) ∧
            (∀ cols rows x, Reaches (p.resize cols rows) es (.pure x) → x = .error (.resize .pairConsumed)) ∧
            (∀ cmd helper inherited x, Reaches (p.spawn cmd helper inherited) es (.pure x) →
              x = .error .pairConsumed ∧ es.length = 1)) ∧
        ∀ t pre es post, ofThread t history = pre ++ es ++ post →
          (∀ x, Reaches p.close es (.pure x) → (x = .ok () ∧ es.length = 1) ∨ Ledger [parent, child] [] [] es) ∧
          (∀ cols rows x, Reaches (p.resize cols rows) es (.pure x) → Ledger [] [] [] es) ∧
          (∀ cmd helper inherited x, Reaches (p.spawn cmd helper inherited) es (.pure x) →
            (x = .error .pairConsumed ∧ es.length = 1) ∨
              ((∀ term c, x = .ok (term, c) → term.fd = parent ∧
                ∃ made, ⟨.update Memory.recordHandle, made⟩ ∈ es ∧ made.handles.get? term.key = some {}) ∧
              ∃ waited, waited.Subperm (es.flatMap Exchange.launched) ∧
                Ledger [parent, child] (if x.isOk then [parent] else []) waited es))) ∧
    ∀ (h : Handle) (s : HandleState) (first last : Team Memory) (history : List (Turn Memory)),
      first.memory.handles.get? h.key = some s → s.closeResult = none →
      (∀ q ∈ first.threads, h.Closer .idle q) → Team.Run first history last →
        h.releases history ≤ 1 ∧
          ∀ t pre es post x, ofThread t history = pre ++ es ++ post → Reaches h.close es (.pure x) →
            h.releases history = 1 := by
  refine ⟨fun es x run => allocate_balanced run, ?_,
    fun h s first last history fresh unrecorded idle run => Handle.releases_once fresh unrecorded idle run⟩
  intro p parent child first last history start run
  refine ⟨fun i j hi hj => start.handsOver_unique run hi hj,
    fun before t m after split unasked => start.handedOver_of_unasked run split unasked, ?_, ?_⟩
  · intro before after t pre es post split asked own
    exact ⟨fun x closing => start.close_refused run split asked own closing,
      fun cols rows x resizing => start.resize_refused run split asked own resizing,
      fun cmd helper inherited x spawning => start.spawn_refused run split asked own spawning⟩
  · intro t pre es post own
    exact ⟨fun x closing => start.close_settled run own closing,
      fun cols rows x resizing => (Pair.resize_balanced resizing).1,
      fun cmd helper inherited x spawning => start.spawn_settled run own spawning⟩

/-- Every close of a descriptor succeeds; nothing else is answered. -/
def closesSucceed : (r : Request Memory) → Option r.Answer
  | .close _ => some (.ok ())
  | _ => none

/-- Two threads on the pair recorded with descriptors 3 and 4 under key 1: the first closes
it, the second resizes it and then starts a program on it. -/
def lateCallers : Team Memory :=
  ⟨{ next := 2, pairs := [(1, { parent := 3, child := 4 })] },
    [PairCall.close.perform ⟨1, "/dev/pts/1"⟩ >>= fun _ => .pure (),
      (PairCall.resize 80 24).perform ⟨1, "/dev/pts/1"⟩ >>= fun _ =>
        (PairCall.spawn default none []).perform ⟨1, "/dev/pts/1"⟩ >>= fun _ => .pure ()]⟩

/-- Two threads closing the terminal handle of descriptor 5 registered under key 1. -/
def twoClosers : Team Memory :=
  ⟨{ next := 2, handles := [(1, {})] },
    [Handle.close ⟨5, 1, "/dev/pts/1"⟩ >>= fun _ => .pure (),
      Handle.close ⟨5, 1, "/dev/pts/1"⟩ >>= fun _ => .pure ()]⟩

theorem lateCallers_start : PairTeam ⟨1, "/dev/pts/1"⟩ 3 4 lateCallers := by
  refine ⟨rfl, by simp [lateCallers, Memory.KeysBelowNext], fun q member => ?_⟩
  simp only [lateCallers, List.mem_cons, List.not_mem_nil, or_false] at member
  rcases member with rfl | rfl
  · exact .call .close fun _ => .pure _
  · exact .call (.resize 80 24) fun _ => .call (.spawn default none []) fun _ => .pure _

theorem twoClosers_idle : ∀ q ∈ twoClosers.threads, Handle.Closer ⟨5, 1, "/dev/pts/1"⟩ .idle q := by
  intro q member
  simp only [twoClosers, List.mem_cons, List.not_mem_nil, or_false, or_self] at member
  subst member
  exact Handle.close_closer fun _ => .pure _

/-- An allocation whose calls all succeed keeps both descriptors it opened.  When the first
of `lateCallers` closes the pair before the second calls, only the close's take hands the
descriptors over, those the pair was made with, and the close closes each once; the resize
and the start come after that take and are refused, the start after its one take.  When
both of `twoClosers` finish, the descriptor was released once. -/
theorem late_callers_refused :
    (∃ es, Reaches (allocate childPathOf) es (.pure (.ok ⟨1, "/dev/pts/5"⟩)) ∧
      AllocationBalanced es (.ok ⟨1, "/dev/pts/5"⟩)) ∧
    (∃ history last, Team.Run lateCallers history last ∧ last.returned 0 ∧ last.returned 1 ∧
      (∀ i (hi : i < history.length), history[i].exchange.HandsOver 1 → i = 0) ∧
      Memory.handedOver 1 (Memory.claimPair 1 lateCallers.memory) = some (3, 4) ∧
      Ledger [3, 4] [] [] (ofThread 0 history) ∧
      ∃ resizing starting, ofThread 1 history = resizing ++ starting ∧
        Reaches (Pair.resize ⟨1, "/dev/pts/1"⟩ 80 24) resizing (.pure (.error (.resize .pairConsumed))) ∧
        Reaches (Pair.spawn ⟨1, "/dev/pts/1"⟩ default none []) starting (.pure (.error .pairConsumed)) ∧
        starting.length = 1) ∧
    ∃ history last, Team.Run twoClosers history last ∧ last.returned 0 ∧ last.returned 1 ∧
      Handle.releases ⟨5, 1, "/dev/pts/1"⟩ history = 1 := by
  have allocation : Reaches (allocate childPathOf)
      [⟨.openPath makerPath parentFlags 0, .ok 3⟩, ⟨.terminalNumber 3, .ok 5⟩, ⟨.setLock 3 false, .ok ()⟩,
        ⟨.terminalNumber 3, .ok 5⟩, ⟨.openPath "/dev/pts/5" childFlags 0, .ok 4⟩,
        ⟨.update (Memory.recordPair 3 4), { next := 2 }⟩] (.pure (.ok ⟨1, "/dev/pts/5"⟩)) :=
    .call _ (.call _ (.call _ (.call _ (.call _ (.call _ (.refl _))))))
  refine ⟨⟨_, allocation, pair_descriptors_closed_once.1 _ _ allocation⟩, ?_, ?_⟩
  · let asked : Turn Memory :=
      ⟨0, ⟨.await (Memory.pairFree 1) (Memory.claimPair 1), Memory.claimPair 1 lateCallers.memory⟩⟩
    let rest : List (Turn Memory) :=
      [⟨0, ⟨.close 3, .ok ()⟩⟩, ⟨0, ⟨.close 4, .ok ()⟩⟩,
        ⟨1, ⟨.update (Memory.beginResize 1), Memory.beginResize 1 (Memory.claimPair 1 lateCallers.memory)⟩⟩,
        ⟨1, ⟨.await (Memory.pairFree 1) (Memory.claimPair 1),
          Memory.claimPair 1 (Memory.beginResize 1 (Memory.claimPair 1 lateCallers.memory))⟩⟩]
    have run : Team.Run lateCallers (asked :: rest)
        ⟨Memory.claimPair 1 (Memory.beginResize 1 (Memory.claimPair 1 lateCallers.memory)), [.pure (), .pure ()]⟩ :=
      Team.Run.of_play (show Team.play closesSucceed lateCallers [0, 0, 0, 1, 1] = some _ from rfl)
    obtain ⟨unique, handed, refused, settled⟩ := pair_descriptors_closed_once.2.1 _ 3 4 _ _ _ lateCallers_start run
    obtain ⟨closing, none, x, whole, closed, finished⟩ :=
      run.bind_reaches (t := 0) (p := PairCall.close.perform ⟨1, "/dev/pts/1"⟩) rfl rfl
    obtain ⟨rfl, -⟩ := Prog.reaches_pure_iff.mp finished
    rw [List.append_nil] at whole
    have balanced : Ledger [3, 4] [] [] (ofThread 0 (asked :: rest)) := by
      rcases (settled 0 [] closing [] (by simp [whole])).1 x closed with ⟨-, short⟩ | balanced
      · rw [← whole] at short
        exact absurd short (by decide)
      · rwa [whole]
    obtain ⟨resizing, more, y, whole', resized, later⟩ :=
      run.bind_reaches (t := 1) (p := (PairCall.resize 80 24).perform ⟨1, "/dev/pts/1"⟩) rfl rfl
    obtain ⟨starting, none', z, rfl, started, ended⟩ := Prog.reaches_bind_pure_iff.mp later
    obtain ⟨rfl, -⟩ := Prog.reaches_pure_iff.mp ended
    have after : ofThread 1 (rest.drop 2) = resizing ++ (starting ++ []) := by
      rw [← whole']
      rfl
    have before : ∃ u ∈ asked :: rest.take 2, u.exchange.Asks 1 := ⟨asked, by simp, rfl⟩
    obtain ⟨-, refusedResize, -⟩ := refused (asked :: rest.take 2) (rest.drop 2) 1 [] resizing _ rfl before
      (by simpa using after)
    obtain ⟨-, -, refusedStart⟩ := refused (asked :: rest.take 2) (rest.drop 2) 1 resizing starting [] rfl
      before (by simpa using after)
    obtain rfl := refusedResize 80 24 y resized
    obtain ⟨rfl, short⟩ := refusedStart _ _ _ z started
    exact ⟨_, _, run, rfl, rfl, fun i hi handsOver => unique i 0 hi (by simp) handsOver ⟨_, rfl, rfl⟩,
      handed [] 0 _ rest rfl (by simp), balanced, resizing, starting, by simpa using whole', resized, started,
      short⟩
  · obtain ⟨history, last, run, ended⟩ := Team.Run.of_play_any closesSucceed twoClosers [0, 1, 0, 0, 1]
      (fun r => r.2.returned 0 && r.2.returned 1) (by decide +kernel)
    simp only [Bool.and_eq_true] at ended
    obtain ⟨closing, rest, x, whole, closed, -⟩ :=
      run.bind_reaches (t := 0) (p := Handle.close ⟨5, 1, "/dev/pts/1"⟩) rfl (Team.returned_iff.1 ended.1)
    exact ⟨history, last, run, ended.1, ended.2,
      (pair_descriptors_closed_once.2.2 _ {} _ _ _ rfl rfl twoClosers_idle run).2 0 [] closing rest x (by simp [whole])
        closed⟩

end PseudoTerm.Pty
