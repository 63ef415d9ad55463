import Mathlib
import PseudoTerm.Proofs.DeadlineDiscipline

/-!
# The deadline put back after a context ends

A team in which one thread runs an operation under a context in one direction of a
terminal (`Keeper.underContext_bind`), and every other thread sets deadlines or makes
requests apart from them, ends the operation with the descriptor's deadline equal to the
recorded one, unless a setter holds the lock of the deadlines at that moment
(`DeadlinesKept.deadline_restored`).

The invariant (`DeadlinesKept`) gives each thread a stage, which its program fits.  The
lock of the deadlines is held exactly while one thread is at a holding stage; each stage
says what the memory holds of its watch (`StageFits`).  The descriptor's deadline is the
recorded one, unless a setter has recorded a deadline it has not yet given the descriptor,
or a callback moved the deadline into the past and the operation it woke has not put it
back (`Moved`).  Each kind of turn keeps the invariant (`calm`, `take`, `record`, `apply`,
`release`, `makeWatch`, `spawnWatch`, `stopped`, `awaitFired`, `commit`, `call`, `fire`),
hence every run does (`DeadlinesKept.run`).
-/

namespace PseudoTerm.Machine

variable {μ : Type}

theorem Keeps.after {β : Type} {value : μ → β} {r : Request μ} (keeps : Keeps value r) (m : μ) :
    value ((r.change?.getD id) m) = value m := by
  cases changed : r.change? with
  | none => rfl
  | some f => exact keeps f changed m

theorem deadlineAfter_snoc {fd : Nat} {reading : Bool} {init : Option Int} (history : List (Turn μ))
    (turn : Turn μ) :
    deadlineAfter fd reading init ((history ++ [turn]).map Turn.exchange) =
      (turn.exchange.deadlineSet? fd reading).getD (deadlineAfter fd reading init (history.map Turn.exchange)) := by
  simp [deadlineAfter_append]

end PseudoTerm.Machine

namespace PseudoTerm.Control

open PseudoTerm.Machine

namespace Memory

/-- Stopping a watch names it: an armed watch tells the watches apart. -/
theorem stopWatch_injective {w w' : Nat} (same : stopWatch w = stopWatch w') : w = w' := by
  by_contra other
  have moved := congrArg watches (congrFun same { watches := [(w, .armed)] })
  simp [stopWatch, phaseOf, setPhase, Table.get?, Table.modify, List.lookup, other] at moved

theorem stopWatch_not_quiet (w : Nat) : ¬ Quiet (.update (stopWatch w)) := by
  intro quiet
  have moved := (quiet.1 _ rfl { watches := [(w, .armed)] }).2 w
  simp [stopWatch, phaseOf, setPhase, Table.get?, Table.modify] at moved
  omega

theorem setPhase_fired_ne_stopWatch (v w : Nat) : (fun m : Memory => m.setPhase v .fired) ≠ stopWatch w := by
  intro same
  have moved := congrArg watches (congrFun same { watches := [(w, .armed)] })
  by_cases here : w = v
  · subst here
    simp [stopWatch, phaseOf, setPhase, Table.get?, Table.modify, List.lookup] at moved
  · simp [stopWatch, phaseOf, setPhase, Table.get?, Table.modify, List.lookup, here] at moved

theorem armWatch_quiet : Quiet (.update armWatch) := by
  refine ⟨fun f changed m => ?_, rfl⟩
  cases changed
  refine ⟨⟨Nat.le_succ _, fun _ _ ended => ended, fun _ done => done⟩, fun k differs => ?_⟩
  by_cases fresh : k = m.next
  · subst fresh
    exact .inr (.inr ⟨le_refl _, Nat.lt_succ_self _⟩)
  · exact absurd (Table.get?_insert_other m.watches fresh .armed) differs

/-- A change that leaves alone the watches under the keys handed out so far, hands out keys
only forward, and undoes no context's end. -/
structure Calm (m m' : Memory) : Prop where
  next : m.next ≤ m'.next
  phases : ∀ w, w < m.next → m'.phaseOf w = m.phaseOf w
  keys : ∀ w, (m'.watches.get? w).isSome = true → (m.watches.get? w).isSome = true ∨ w < m'.next
  ended : ∀ k, (m.causeOf k).isSome = true → (m'.causeOf k).isSome = true

theorem Calm.refl (m : Memory) : Calm m m :=
  ⟨le_refl _, fun _ _ => rfl, fun _ found => .inl found, fun _ ended => ended⟩

theorem Calm.of_quiet {r : Request Memory} (quiet : Quiet r) (m : Memory) :
    Calm m ((r.change?.getD id) m) := by
  cases changed : r.change? with
  | none => exact Calm.refl m
  | some f =>
      obtain ⟨steady, watches⟩ := quiet.1 f changed m
      refine ⟨steady.next, fun w below => ?_, fun w found => ?_, fun k ended => ?_⟩
      · -- only fresh keys change
        by_contra moved
        have fresh := watches w fun same => moved (by simp [phaseOf, same])
        simp only [Set.mem_empty_iff_false, false_or] at fresh
        omega
      · by_cases same : (f m).watches.get? w = m.watches.get? w
        · exact .inl (same ▸ found)
        · have fresh := watches w same
          simp only [Set.mem_empty_iff_false, false_or] at fresh
          exact .inr fresh.2
      · obtain ⟨c, cause⟩ := Option.isSome_iff_exists.mp ended
        simp [steady.ended k c cause]

theorem Calm.of_frames {f : Memory → Memory} (frames : Frames f) (m : Memory) : Calm m (f m) :=
  Calm.of_quiet (Quiet.update frames) m

theorem setPhase_isSome (m : Memory) (w k : Nat) (p : WatchPhase) :
    ((m.setPhase w p).watches.get? k).isSome = (m.watches.get? k).isSome := by
  by_cases same : k = w
  · subst same
    simp [setPhase]
  · rw [setPhase_get?_other m p same]

end Memory

namespace DeadlineStage

/-- The stage is the operation's while watch `w` may still have moved the deadline. -/
def Covers (w : Nat) (s : DeadlineStage) : Prop := (∃ k, s = .watching w k) ∨ s.Restores w

theorem watch?_of_watches {w k : Nat} {s : DeadlineStage} (watches : s.Watches w k) : s.watch? = some w := by
  cases s <;> simp_all [Watches, watch?]

theorem watch?_of_covers {w : Nat} {s : DeadlineStage} (covers : s.Covers w) : s.watch? = some w := by
  rcases covers with ⟨k, rfl⟩ | restores
  · rfl
  · cases s <;> (try cases ‹Option Nat›) <;> simp_all [Restores, watch?]

theorem Covers.owns {w : Nat} {s : DeadlineStage} (covers : s.Covers w) : s.Owns := by
  rcases covers with ⟨k, rfl⟩ | restores
  · trivial
  · cases s <;> (try cases ‹Option Nat›) <;> simp_all [Restores, Owns]

theorem watches_of_named {w : Nat} {s : DeadlineStage} (named : s.watch? = some w) (notOwns : ¬ s.Owns) :
    ∃ k, s.Watches w k := by
  cases s <;> (try cases ‹Option Nat›) <;> simp_all [watch?, Owns, Watches]

/-- Stage `s₀` gives way to `s` in a turn that makes no watch and gives none up: what the
invariant follows of the new stage held of the old one, and the old stage's watch, pending
deadline and callback carry over. -/
structure Moves (s₀ s : DeadlineStage) : Prop where
  owns : s.Owns → s₀.Owns
  watches : ∀ w k, s.Watches w k → s₀.Watches w k
  made : ∀ w, s = .made w → s₀ = .made w
  watching : ∀ w k, s₀ = .watching w k → s = .watching w k
  pending : ∀ o v, s₀ = .pending o v → ∃ o' v', s = .pending o' v'
  firing : ∀ w k, s₀ = .firing w k → s = .firing w k
  covers : ∀ w, s₀.Covers w → s.Covers w

namespace Moves

theorem refl (s : DeadlineStage) : Moves s s :=
  ⟨id, fun _ _ => id, fun _ => id, fun _ _ => id, fun o v same => ⟨o, v, same⟩, fun _ _ => id, fun _ => id⟩

theorem settle : Moves .ready .idle := by
  constructor <;> simp [Owns, Watches, Covers, Restores]

theorem drop {w k : Nat} : Moves (.waiting w k) .idle := by
  constructor <;> simp [Owns, Watches, Covers, Restores]

theorem acquire : Moves .idle (.held none) := by
  constructor <;> simp [Owns, Watches, Covers, Restores]

theorem acquireReady : Moves .ready (.held none) := by
  constructor <;> simp [Owns, Watches, Covers, Restores]

theorem reacquire {w : Nat} : Moves (.restoring w) (.held (some w)) := by
  constructor <;> simp [Owns, Watches, Covers, Restores]

theorem record {o : Option Nat} {v : Option Int} : Moves (.held o) (.pending o v) := by
  constructor <;> cases o <;> simp [Owns, Watches, Covers, Restores]

theorem release : Moves (.held none) .idle := by
  constructor <;> simp [Owns, Watches, Covers, Restores]

theorem spawn {w k : Nat} : Moves (.made w) (.watching w k) := by
  constructor <;> simp [Owns, Watches, Covers, Restores]

theorem commit {w k : Nat} : Moves (.waiting w k) (.calling w k) := by
  constructor <;> simp [Owns, Watches, Covers, Restores]

theorem call {w k : Nat} : Moves (.calling w k) (.firing w k) := by
  constructor <;> simp [Owns, Watches, Covers, Restores]

end Moves

end DeadlineStage

namespace Handle

variable (h : Handle) (reading : Bool) (c : Nat)

/-- What the memory says of a thread at each stage: a pending thread's deadline is the
recorded one; a made watch is armed; the thread of a watch finds it armed or stopped until
it takes the callback on, and running until the callback has fired; an operation whose
watch runs or fired finds its context ended, and a restoring one finds the callback fired;
every watch named is under a key handed out. -/
def StageFits (m : Memory) : DeadlineStage → Prop
  | .ready | .idle | .held none => True
  | .held (some w) | .restoring w => m.phaseOf w = .fired ∧ w < m.next
  | .pending none v => h.recorded reading m = v
  | .pending (some w) v => h.recorded reading m = v ∧ m.phaseOf w = .fired ∧ w < m.next
  | .made w => m.phaseOf w = .armed ∧ w < m.next
  | .watching w k => m.phaseOf w ≠ .stopped ∧
      (m.phaseOf w = .running ∨ m.phaseOf w = .fired → (m.causeOf k).isSome = true) ∧ w < m.next
  | .waiting w _ => (m.phaseOf w = .armed ∨ m.phaseOf w = .stopped) ∧ w < m.next
  | .calling w _ | .firing w _ => m.phaseOf w = .running ∧ w < m.next

namespace StageFits

variable {h : Handle} {reading : Bool} {c : Nat} {m m' : Memory} {s : DeadlineStage}

theorem lt_of_named (fits : h.StageFits reading m s) {w : Nat} (named : s.watch? = some w) : w < m.next := by
  cases s <;> (try cases ‹Option Nat›) <;> simp_all [StageFits, DeadlineStage.watch?]

/-- A stage's facts hold on in a memory that keeps the phases of the watch it names, ends no
context's end, hands keys out only forward, and keeps the recorded deadline while the stage
holds the lock. -/
theorem of_phases
    (next : m.next ≤ m'.next)
    (phases : ∀ w, s.watch? = some w → m'.phaseOf w = m.phaseOf w)
    (ended : ∀ k, (m.causeOf k).isSome = true → (m'.causeOf k).isSome = true)
    (recorded : s.Holds → h.recorded reading m' = h.recorded reading m)
    (fits : h.StageFits reading m s) :
    h.StageFits reading m' s := by
  have below : ∀ {w}, w < m.next → w < m'.next := fun lt => lt_of_lt_of_le lt next
  cases s with
  | ready | idle => trivial
  | held o =>
      cases o with
      | none => trivial
      | some w =>
          obtain ⟨fired, lt⟩ := fits
          exact ⟨(phases w rfl).trans fired, below lt⟩
  | pending o v =>
      have same := recorded trivial
      cases o with
      | none => exact same.trans fits
      | some w =>
          obtain ⟨value, fired, lt⟩ := fits
          exact ⟨same.trans value, (phases w rfl).trans fired, below lt⟩
  | made w =>
      obtain ⟨armed, lt⟩ := fits
      exact ⟨(phases w rfl).trans armed, below lt⟩
  | watching w k =>
      obtain ⟨live, ended', lt⟩ := fits
      dsimp only [StageFits]
      rw [phases w rfl]
      exact ⟨live, fun moving => ended k (ended' moving), below lt⟩
  | restoring w =>
      obtain ⟨fired, lt⟩ := fits
      exact ⟨(phases w rfl).trans fired, below lt⟩
  | waiting w k =>
      obtain ⟨phase, lt⟩ := fits
      dsimp only [StageFits]
      rw [phases w rfl]
      exact ⟨phase, below lt⟩
  | calling w k =>
      obtain ⟨running, lt⟩ := fits
      exact ⟨(phases w rfl).trans running, below lt⟩
  | firing w k =>
      obtain ⟨running, lt⟩ := fits
      exact ⟨(phases w rfl).trans running, below lt⟩

theorem calm (calm : m.Calm m') (recorded : s.Holds → h.recorded reading m' = h.recorded reading m)
    (fits : h.StageFits reading m s) : h.StageFits reading m' s :=
  fits.of_phases calm.next (fun w named => calm.phases w (fits.lt_of_named named)) calm.ended recorded

theorem recorded_of_pending {o : Option Nat} {v : Option Int} (fits : h.StageFits reading m (.pending o v)) :
    h.recorded reading m = v := by
  cases o with
  | none => exact fits
  | some w => exact fits.1

theorem not_fired_of_watches {w k : Nat} (fits : h.StageFits reading m s) (watches : s.Watches w k) :
    m.phaseOf w ≠ .fired := by
  cases s <;> simp only [DeadlineStage.Watches] at watches <;> obtain ⟨rfl, -⟩ := watches
  · rcases fits.1 with phase | phase <;> simp [phase]
  · simp [fits.1]
  · simp [fits.1]

theorem stopped_of_watches {w k : Nat} (fits : h.StageFits reading m s) (watches : s.Watches w k)
    (armed : m.phaseOf w = .armed) : h.StageFits reading (m.setPhase w .stopped) s := by
  have present := Memory.present_of_phaseOf armed (by decide)
  cases s <;> simp only [DeadlineStage.Watches] at watches <;> obtain ⟨rfl, rfl⟩ := watches
  · exact ⟨.inr (Memory.phaseOf_setPhase_self present _), fits.2⟩
  · exact absurd (armed.symm.trans fits.1) (by decide)
  · exact absurd (armed.symm.trans fits.1) (by decide)

theorem setPhase {w : Nat} {p : WatchPhase} (other : s.watch? ≠ some w) (fits : h.StageFits reading m s) :
    h.StageFits reading (m.setPhase w p) s :=
  of_phases (m := m) le_rfl
    (fun w' named => Memory.phaseOf_setPhase_other m p fun same : w' = w => other (same ▸ named))
    (fun _ ended => ended) (fun _ => rfl) fits

end StageFits

/-- A callback may have moved the descriptor's deadline into the past, and the operation it
woke has not put the recorded deadline back: the callback's thread is about to mark it run,
or it has run and its operation still covers the watch. -/
def Moved (m : Memory) (stage : Nat → DeadlineStage) : Prop :=
  ∃ t w, (∃ k, stage t = .firing w k) ∨ m.phaseOf w = .fired ∧ (stage t).Covers w

/-- The invariant of a team in which thread `o` may run an operation under a context in
direction `reading` of the handle, the descriptor's deadline in that direction having been
`init` before the turns of `history`.  Every thread's program fits its stage, and only `o`
is ever at a stage of the operation.  The handle stays registered with no close begun, and
the lock of its deadlines is held exactly while one thread is at a holding stage.  Every
watch is under a key handed out, and the memory agrees with each stage.  A made watch has no
thread yet, a watch has one thread at most, and a watch that was not stopped has its
operation watching it while its thread runs.  The descriptor's deadline is the recorded
one, or a setter holds a deadline it has not yet given, or a callback moved it. -/
structure DeadlinesKept (o : Nat) (init : Option Int) (team : Team Memory) (history : List (Turn Memory))
    (stage : Nat → DeadlineStage) : Prop where
  fits : ∀ t q, team.threads[t]? = some q → h.Keeper reading c (stage t) q
  beyond : ∀ t, team.threads.length ≤ t → stage t = .idle
  owner : ∀ t, (stage t).Owns → t = o
  opened : ∃ s, team.memory.handles.get? h.key = some s ∧ s.closes = 0 ∧
    (s.deadlinesLocked = true ↔ ∃ t, (stage t).Holds)
  single : ∀ t u, (stage t).Holds → (stage u).Holds → t = u
  keys : ∀ w, (team.memory.watches.get? w).isSome = true → w < team.memory.next
  facts : ∀ t, h.StageFits reading team.memory (stage t)
  made : ∀ t w, stage t = .made w → ∀ u k, ¬ (stage u).Watches w k
  alone : ∀ t u w k k', (stage t).Watches w k → (stage u).Watches w k' → t = u
  owned : ∀ t w k, (stage t).Watches w k → team.memory.phaseOf w ≠ .stopped → ∃ u, stage u = .watching w k
  agrees : deadlineAfter h.fd reading init (history.map Turn.exchange) = h.recorded reading team.memory ∨
    (∃ t o' v, stage t = .pending o' v) ∨ Moved team.memory stage

theorem of_update {P : DeadlineStage → Prop} {stage : Nat → DeadlineStage} {t : Nat} {s : DeadlineStage}
    (imp : P s → P (stage t)) {u : Nat} (holds : P (Function.update stage t s u)) : P (stage u) := by
  by_cases mine : u = t
  · subst mine
    rw [Function.update_self] at holds
    exact imp holds
  · rwa [Function.update_of_ne mine] at holds

theorem to_update {P : DeadlineStage → Prop} {stage : Nat → DeadlineStage} {t : Nat} {s : DeadlineStage}
    (imp : P (stage t) → P s) {u : Nat} (holds : P (stage u)) : P (Function.update stage t s u) := by
  by_cases mine : u = t
  · subst mine
    rw [Function.update_self]
    exact imp holds
  · rwa [Function.update_of_ne mine]

end Handle

theorem Handle.Keeper.keeps_causes {h : Handle} {reading : Bool} {c : Nat} {α : Type} {s : DeadlineStage}
    {r : Request Memory} {next : r.Answer → Prog Memory α}
    (keeper : h.Keeper reading c s (.call r next)) (m : Memory) {k : Nat} {cause : Fault}
    (ended : m.causeOf k = some cause) : ((r.change?.getD id) m).causeOf k = some cause := by
  have quietly : ∀ {r : Request Memory}, Quiet r → ((r.change?.getD id) m).causeOf k = some cause := by
    intro r quiet
    cases changed : r.change? with
    | none => exact ended
    | some f => exact (quiet.1 f changed m).1.ended k cause ended
  generalize asked : Prog.call r next = p at keeper
  cases keeper with
  | settle inner =>
      cases inner with
      | apart apart _ => cases asked; exact quietly apart.1
      | other _ => cases asked; exact ended
      | acquire _ => cases asked; exact ended
      | pure => cases asked
  | apart apart _ => cases asked; exact quietly apart.1
  | other _ => cases asked; exact ended
  | acquire _ => cases asked; exact ended
  | reacquire _ => cases asked; exact ended
  | record quiet _ _ => cases asked; exact quietly quiet
  | look apart _ => cases asked; exact quietly apart.1
  | apply _ => cases asked; exact ended
  | release _ => cases asked; exact ended
  | makeWatch _ => cases asked; exact quietly Memory.armWatch_quiet
  | spawnWatch _ _ => cases asked; exact ended
  | stop _ _ =>
      cases asked
      show (Memory.stopWatch _ m).causeOf k = some cause
      unfold Memory.stopWatch
      split <;> exact ended
  | awaitFired _ => cases asked; exact ended
  | commit _ _ =>
      cases asked
      show (Memory.commitWatch _ m).causeOf k = some cause
      unfold Memory.commitWatch
      split <;> exact ended
  | call _ => cases asked; exact ended
  | fire _ => cases asked; exact ended
  | pure => cases asked

theorem Handle.Keeper.stage_of_stop {h : Handle} {reading : Bool} {c : Nat} {α : Type} {s : DeadlineStage} {w : Nat}
    {next : Memory → Prog Memory α}
    (keeper : h.Keeper reading c s (.call (.update (Memory.stopWatch w)) next)) : s = .watching w c := by
  have loud : ∀ {f : Memory → Memory}, Quiet (.update f) → Memory.stopWatch w ≠ f :=
    fun quiet same => Memory.stopWatch_not_quiet w (same ▸ quiet)
  have frames : ∀ {held : Bool}, Quiet (.update (Memory.setDeadlinesLocked h.key held)) :=
    Quiet.update fun _ => ⟨le_refl _, rfl, rfl, rfl⟩
  generalize asked : Prog.call (Request.update (Memory.stopWatch w)) next = p at keeper
  cases keeper with
  | settle inner =>
      cases inner with
      | apart apart _ =>
          injection asked with requestEq
          exact absurd (requestEq ▸ apart.1) (Memory.stopWatch_not_quiet w)
      | other _ => cases asked
      | acquire _ => cases asked
      | pure => cases asked
  | apart apart _ =>
      injection asked with requestEq
      exact absurd (requestEq ▸ apart.1) (Memory.stopWatch_not_quiet w)
  | record quiet _ _ =>
      injection asked with requestEq
      injection requestEq with same
      exact absurd same (loud quiet)
  | look apart _ =>
      injection asked with requestEq
      injection requestEq with same
      exact absurd same (loud apart.1)
  | release _ =>
      injection asked with requestEq
      injection requestEq with same
      exact absurd same (loud frames)
  | makeWatch _ =>
      injection asked with requestEq
      injection requestEq with same
      exact absurd same (loud Memory.armWatch_quiet)
  | stop _ _ =>
      injection asked with requestEq
      injection requestEq with same
      obtain rfl := Memory.stopWatch_injective same
      rfl
  | fire _ =>
      injection asked with requestEq
      injection requestEq with same
      exact absurd same.symm (Memory.setPhase_fired_ne_stopWatch _ w)
  | other _ => cases asked
  | acquire _ => cases asked
  | reacquire _ => cases asked
  | apply _ => cases asked
  | spawnWatch _ _ => cases asked
  | awaitFired _ => cases asked
  | commit _ _ => cases asked
  | call _ => cases asked
  | pure => cases asked

namespace Handle.DeadlinesKept

open DeadlineStage

variable {h : Handle} {reading : Bool} {c : Nat} {o : Nat} {init : Option Int}
  {first mid last : Team Memory} {history : List (Turn Memory)} {turn : Turn Memory}
  {stage : Nat → DeadlineStage}

/-! ### What one thread's move keeps -/

theorem fits_set
    (inv : h.DeadlinesKept reading c o init mid history stage)
    {t : Nat}
    {s : DeadlineStage}
    {q : Prog Memory Unit}
    (fits : h.Keeper reading c s q) :
    ∀ u q', (mid.threads.set t q)[u]? = some q' → h.Keeper reading c (Function.update stage t s u) q' := by
  intro u q' found
  by_cases mine : u = t
  · subst mine
    have inRange : u < mid.threads.length := by simpa using (List.getElem?_eq_some_iff.mp found).1
    rw [List.getElem?_set_self inRange] at found
    rw [Function.update_self]
    exact Option.some.inj found ▸ fits
  · rw [List.getElem?_set_ne (Ne.symm mine)] at found
    rw [Function.update_of_ne mine]
    exact inv.fits u q' found

theorem beyond_set
    (inv : h.DeadlinesKept reading c o init mid history stage)
    {t : Nat}
    {s : DeadlineStage}
    {q : Prog Memory Unit}
    (lt : t < mid.threads.length) :
    ∀ u, (mid.threads.set t q).length ≤ u → Function.update stage t s u = .idle := by
  intro u late
  rw [List.length_set] at late
  rw [Function.update_of_ne (by omega)]
  exact inv.beyond u late

/-- A turn that keeps the lock view and moves no thread into or out of a holding stage keeps
the handle open, its lock held exactly by a holder. -/
theorem opened_set
    (inv : h.DeadlinesKept reading c o init mid history stage)
    {t : Nat}
    {s : DeadlineStage}
    {m' : Memory}
    (lock : h.lockView m' = h.lockView mid.memory)
    (holds : s.Holds ↔ (stage t).Holds) :
    ∃ st, m'.handles.get? h.key = some st ∧ st.closes = 0 ∧
      (st.deadlinesLocked = true ↔ ∃ u, (Function.update stage t s u).Holds) := by
  obtain ⟨st, found, unclosed, locked⟩ := inv.opened
  have view : (m'.handles.get? h.key).map (fun st => (st.deadlinesLocked, st.closes)) =
      some (st.deadlinesLocked, st.closes) := by
    change h.lockView m' = _
    rw [lock]
    simp [lockView, found]
  obtain ⟨st', found', same⟩ := Option.map_eq_some_iff.mp view
  simp only [Prod.mk.injEq] at same
  refine ⟨st', found', same.2.trans unclosed, ?_⟩
  rw [same.1, locked]
  exact ⟨fun found => found.elim fun u holding => ⟨u, to_update holds.mpr holding⟩,
    fun found => found.elim fun u holding => ⟨u, of_update holds.mp holding⟩⟩

theorem single_set
    (inv : h.DeadlinesKept reading c o init mid history stage)
    {t : Nat}
    {s : DeadlineStage}
    (holds : s.Holds → (stage t).Holds) :
    ∀ u v, (Function.update stage t s u).Holds → (Function.update stage t s v).Holds → u = v :=
  fun u v holdsU holdsV => inv.single u v (of_update holds holdsU) (of_update holds holdsV)

theorem keys_calm
    (inv : h.DeadlinesKept reading c o init mid history stage)
    {m' : Memory}
    (calm : mid.memory.Calm m') :
    ∀ w, (m'.watches.get? w).isSome = true → w < m'.next :=
  fun w found => (calm.keys w found).elim (fun old => lt_of_lt_of_le (inv.keys w old) calm.next) id

theorem facts_set
    (inv : h.DeadlinesKept reading c o init mid history stage)
    {t : Nat}
    {s : DeadlineStage}
    {m' : Memory}
    (calm : mid.memory.Calm m')
    (recorded : ∀ u, u ≠ t → (stage u).Holds → h.recorded reading m' = h.recorded reading mid.memory)
    (fits : h.StageFits reading m' s) :
    ∀ u, h.StageFits reading m' (Function.update stage t s u) := by
  intro u
  by_cases mine : u = t
  · subst mine
    rw [Function.update_self]
    exact fits
  · rw [Function.update_of_ne mine]
    exact (inv.facts u).calm calm (recorded u mine)

theorem made_set
    (inv : h.DeadlinesKept reading c o init mid history stage)
    {t : Nat}
    {s : DeadlineStage}
    (made : ∀ w, s = .made w → stage t = .made w)
    (watches : ∀ w k, s.Watches w k → (stage t).Watches w k) :
    ∀ u w, Function.update stage t s u = .made w → ∀ v k, ¬ (Function.update stage t s v).Watches w k :=
  fun u w madeU v k watchesV =>
    inv.made u w (of_update (P := (· = .made w)) (made w) madeU) v k (of_update (watches w k) watchesV)

theorem alone_set
    (inv : h.DeadlinesKept reading c o init mid history stage)
    {t : Nat}
    {s : DeadlineStage}
    (watches : ∀ w k, s.Watches w k → (stage t).Watches w k) :
    ∀ u v w k k', (Function.update stage t s u).Watches w k → (Function.update stage t s v).Watches w k' →
      u = v :=
  fun u v w k k' watchesU watchesV =>
    inv.alone u v w k k' (of_update (watches w k) watchesU) (of_update (watches w k') watchesV)

theorem owned_set
    (inv : h.DeadlinesKept reading c o init mid history stage)
    {t : Nat}
    {s : DeadlineStage}
    {m' : Memory}
    (live : ∀ w, w < mid.memory.next → m'.phaseOf w ≠ .stopped → mid.memory.phaseOf w ≠ .stopped)
    (watches : ∀ w k, s.Watches w k → (stage t).Watches w k)
    (watching : ∀ w k, stage t = .watching w k → s = .watching w k) :
    ∀ u w k, (Function.update stage t s u).Watches w k → m'.phaseOf w ≠ .stopped →
      ∃ v, Function.update stage t s v = .watching w k := by
  intro u w k watchesU stillLive
  have old := of_update (watches w k) watchesU
  have lt := (inv.facts u).lt_of_named (watch?_of_watches old)
  obtain ⟨v, found⟩ := inv.owned u w k old (live w lt stillLive)
  exact ⟨v, to_update (P := (· = .watching w k)) (watching w k) found⟩

theorem moved_set
    (inv : h.DeadlinesKept reading c o init mid history stage)
    {t : Nat}
    {s : DeadlineStage}
    {m' : Memory}
    (fired : ∀ w, w < mid.memory.next → mid.memory.phaseOf w = .fired → m'.phaseOf w = .fired)
    (firing : ∀ w k, stage t = .firing w k → s = .firing w k)
    (covers : ∀ w, (stage t).Covers w → s.Covers w)
    (moved : Moved mid.memory stage) :
    Moved m' (Function.update stage t s) := by
  obtain ⟨u, w, ⟨k, firingU⟩ | ⟨firedW, coversU⟩⟩ := moved
  · exact ⟨u, w, .inl ⟨k, to_update (P := (· = .firing w k)) (firing w k) firingU⟩⟩
  · have lt := (inv.facts u).lt_of_named (watch?_of_covers coversU)
    exact ⟨u, w, .inr ⟨fired w lt firedW, to_update (covers w) coversU⟩⟩

theorem pending_set
    {t : Nat}
    {s : DeadlineStage}
    (pending : ∀ o' v, stage t = .pending o' v → ∃ o'' v', s = .pending o'' v')
    (found : ∃ u o' v, stage u = .pending o' v) :
    ∃ u o' v, Function.update stage t s u = .pending o' v := by
  obtain ⟨u, o', v, placed⟩ := found
  by_cases mine : u = t
  · subst mine
    obtain ⟨o'', v', moved⟩ := pending o' v placed
    exact ⟨u, o'', v', by rw [Function.update_self, moved]⟩
  · exact ⟨u, o', v, by rw [Function.update_of_ne mine, placed]⟩

/-- A turn that sets no deadline and keeps the recorded one keeps the descriptor's deadline
agreeing with the record, as long as the mover hands on its pending deadline and its callback. -/
theorem agrees_set
    (inv : h.DeadlinesKept reading c o init mid history stage)
    {t : Nat}
    {s : DeadlineStage}
    {m' : Memory}
    {e : Exchange Memory}
    (unset : e.deadlineSet? h.fd reading = none)
    (recorded : h.recorded reading m' = h.recorded reading mid.memory)
    (fired : ∀ w, w < mid.memory.next → mid.memory.phaseOf w = .fired → m'.phaseOf w = .fired)
    (pending : ∀ o' v, stage t = .pending o' v → ∃ o'' v', s = .pending o'' v')
    (firing : ∀ w k, stage t = .firing w k → s = .firing w k)
    (covers : ∀ w, (stage t).Covers w → s.Covers w) :
    deadlineAfter h.fd reading init ((history ++ [(⟨t, e⟩ : Turn Memory)]).map Turn.exchange) =
        h.recorded reading m' ∨
      (∃ u o' v, Function.update stage t s u = .pending o' v) ∨ Moved m' (Function.update stage t s) := by
  rw [deadlineAfter_snoc, unset, Option.getD_none, recorded]
  rcases inv.agrees with same | found | moved
  · exact .inl same
  · exact .inr (.inl (pending_set pending found))
  · exact .inr (.inr (inv.moved_set fired firing covers moved))

theorem keys_setPhase
    (inv : h.DeadlinesKept reading c o init mid history stage)
    {w : Nat}
    {p : WatchPhase} :
    ∀ w', ((mid.memory.setPhase w p).watches.get? w').isSome = true → w' < (mid.memory.setPhase w p).next := by
  intro w' found
  rw [Memory.setPhase_isSome] at found
  exact inv.keys w' found

/-- After a phase is set, the mover's new stage, the stages naming that watch and, as before,
every other stage agree with the memory. -/
theorem facts_setPhase
    (inv : h.DeadlinesKept reading c o init mid history stage)
    {t w : Nat}
    {p : WatchPhase}
    {s : DeadlineStage}
    (fact : h.StageFits reading (mid.memory.setPhase w p) s)
    (named : ∀ u, u ≠ t → (stage u).watch? = some w → h.StageFits reading (mid.memory.setPhase w p) (stage u)) :
    ∀ u, h.StageFits reading (mid.memory.setPhase w p) (Function.update stage t s u) := by
  intro u
  by_cases mine : u = t
  · subst mine
    rw [Function.update_self]
    exact fact
  · rw [Function.update_of_ne mine]
    by_cases naming : (stage u).watch? = some w
    · exact named u mine naming
    · exact (inv.facts u).setPhase naming

/-- While the thread of a watch that was not stopped runs, every other thread naming the
watch is its operation, watching it. -/
theorem watching_of_named
    (inv : h.DeadlinesKept reading c o init mid history stage)
    {t u w k : Nat}
    (watches : (stage t).Watches w k)
    (live : mid.memory.phaseOf w ≠ .stopped)
    (other : u ≠ t)
    (named : (stage u).watch? = some w) :
    stage u = .watching w k := by
  obtain ⟨v, watching⟩ := inv.owned t w k watches live
  by_cases owns : (stage u).Owns
  · have same : u = v := (inv.owner u owns).trans (inv.owner v (by rw [watching]; trivial)).symm
    exact same ▸ watching
  · obtain ⟨k', watchesU⟩ := watches_of_named named owns
    exact absurd (inv.alone u t w k' k watchesU watches) other

theorem not_moved_of_armed
    (inv : h.DeadlinesKept reading c o init mid history stage)
    {t w k : Nat}
    (placed : stage t = .watching w k)
    (armed : mid.memory.phaseOf w = .armed) :
    ¬ Moved mid.memory stage := by
  have mine : t = o := inv.owner t (by rw [placed]; trivial)
  rintro ⟨u, w', ⟨k', firing⟩ | ⟨fired, covers⟩⟩
  · -- a callback about to be marked run has its watch running, watched by the operation
    have running : mid.memory.phaseOf w' = .running := by
      have fact := inv.facts u
      rw [firing] at fact
      exact fact.1
    obtain ⟨v, watching⟩ := inv.owned u w' k' (by rw [firing]; exact ⟨rfl, rfl⟩) (by rw [running]; decide)
    have same : v = t := (inv.owner v (by rw [watching]; trivial)).trans mine.symm
    rw [same, placed] at watching
    cases watching
    rw [armed] at running
    cases running
  · have same : u = t := (inv.owner u covers.owns).trans mine.symm
    rw [same, placed] at covers
    rcases covers with ⟨_, watching⟩ | restores
    · cases watching
      rw [armed] at fired
      cases fired
    · cases restores

/-! ### Each kind of turn keeps the invariant -/

/-- A turn that sets no deadline, keeps the recorded one and the named watches, and moves
its thread as `Moves` allows keeps the invariant, given how the lock stands after it. -/
theorem shift
    (inv : h.DeadlinesKept reading c o init mid history stage)
    {t : Nat}
    {s : DeadlineStage}
    {m' : Memory}
    {e : Exchange Memory}
    {q : Prog Memory Unit}
    (lt : t < mid.threads.length)
    (moves : Moves (stage t) s)
    (calm : mid.memory.Calm m')
    (recorded : h.recorded reading m' = h.recorded reading mid.memory)
    (unset : e.deadlineSet? h.fd reading = none)
    (opened : ∃ st, m'.handles.get? h.key = some st ∧ st.closes = 0 ∧
      (st.deadlinesLocked = true ↔ ∃ u, (Function.update stage t s u).Holds))
    (single : ∀ u v, (Function.update stage t s u).Holds → (Function.update stage t s v).Holds → u = v)
    (fact : h.StageFits reading m' s)
    (fits : h.Keeper reading c s q) :
    h.DeadlinesKept reading c o init ⟨m', mid.threads.set t q⟩ (history ++ [⟨t, e⟩]) (Function.update stage t s) where
  fits := inv.fits_set fits
  beyond := inv.beyond_set lt
  owner := fun u owning => inv.owner u (of_update moves.owns owning)
  opened := opened
  single := single
  keys := inv.keys_calm calm
  facts := inv.facts_set calm (fun _ _ _ => recorded) fact
  made := inv.made_set moves.made moves.watches
  alone := inv.alone_set moves.watches
  owned := inv.owned_set (fun w lt live => by rwa [calm.phases w lt] at live) moves.watches moves.watching
  agrees := inv.agrees_set unset recorded (fun w lt fired => (calm.phases w lt).trans fired) moves.pending
    moves.firing moves.covers

/-- A turn that also keeps the lock and moves no thread into or out of a holding stage keeps
the invariant. -/
theorem calm
    (inv : h.DeadlinesKept reading c o init mid history stage)
    {t : Nat}
    {s : DeadlineStage}
    {m' : Memory}
    {e : Exchange Memory}
    {q : Prog Memory Unit}
    (lt : t < mid.threads.length)
    (moves : Moves (stage t) s)
    (holds : s.Holds ↔ (stage t).Holds)
    (calm : mid.memory.Calm m')
    (lock : h.lockView m' = h.lockView mid.memory)
    (recorded : h.recorded reading m' = h.recorded reading mid.memory)
    (unset : e.deadlineSet? h.fd reading = none)
    (fact : h.StageFits reading m' s)
    (fits : h.Keeper reading c s q) :
    h.DeadlinesKept reading c o init ⟨m', mid.threads.set t q⟩ (history ++ [⟨t, e⟩]) (Function.update stage t s) :=
  inv.shift lt moves calm recorded unset (inv.opened_set lock holds) (inv.single_set holds.mp) fact fits

theorem take
    (inv : h.DeadlinesKept reading c o init mid history stage)
    {t : Nat}
    {o' : Option Nat}
    {q : Prog Memory Unit}
    (lt : t < mid.threads.length)
    (moves : Moves (stage t) (.held o'))
    (free : h.deadlinesFree mid.memory = true)
    (fits : h.Keeper reading c (.held o') q)
    (fact : h.StageFits reading mid.memory (.held o')) :
    h.DeadlinesKept reading c o init ⟨Memory.setDeadlinesLocked h.key true mid.memory, mid.threads.set t q⟩
      (history ++ [⟨t, ⟨.await h.deadlinesFree (Memory.setDeadlinesLocked h.key true),
        Memory.setDeadlinesLocked h.key true mid.memory⟩⟩])
      (Function.update stage t (.held o')) := by
  have calm := Memory.Calm.of_frames (f := Memory.setDeadlinesLocked h.key true)
    (fun _ => ⟨le_refl _, rfl, rfl, rfl⟩) mid.memory
  have recorded := (keeps_recorded_setDeadlinesLocked true :
    Keeps (h.recorded reading) (.update (Memory.setDeadlinesLocked h.key true))) _ rfl mid.memory
  obtain ⟨st, found, unclosed, locked⟩ := inv.opened
  have nobody : ∀ u, ¬ (stage u).Holds := fun u holding => by
    have taken := locked.mpr ⟨u, holding⟩
    simp [deadlinesFree, Memory.handle, found, taken] at free
  have onlyMine : ∀ u, (Function.update stage t (.held o') u).Holds → u = t := fun u holding =>
    by_contra fun other => nobody u (by rwa [Function.update_of_ne other] at holding)
  refine inv.shift lt moves calm recorded rfl ⟨{ st with deadlinesLocked := true }, ?_, unclosed, ?_⟩
    (fun u v holdsU holdsV => (onlyMine u holdsU).trans (onlyMine v holdsV).symm)
    (fact.calm calm fun _ => recorded) fits
  · simp [Memory.setDeadlinesLocked, Memory.modifyHandle, found]
  · exact iff_of_true rfl ⟨t, by rw [Function.update_self]; trivial⟩

/-- A request apart from the deadline keeps the invariant, its thread staying at its stage
or settling from a dormant one to idle. -/
theorem apart
    (inv : h.DeadlinesKept reading c o init mid history stage)
    {t : Nat}
    {s : DeadlineStage}
    {r : Request Memory}
    {x : r.Answer}
    {q : Prog Memory Unit}
    (lt : t < mid.threads.length)
    (moves : Moves (stage t) s)
    (holds : s.Holds ↔ (stage t).Holds)
    (stays : s = stage t ∨ s = .idle)
    (apart : h.DeadlineApart reading r)
    (fits : h.Keeper reading c s q) :
    h.DeadlinesKept reading c o init ⟨(r.change?.getD id) mid.memory, mid.threads.set t q⟩
      (history ++ [⟨t, ⟨r, x⟩⟩]) (Function.update stage t s) := by
  have calm := Memory.Calm.of_quiet apart.1 mid.memory
  have recorded := apart.2.2.2.after mid.memory
  refine inv.calm lt moves holds calm (apart.2.2.1.after _) recorded (deadlineSet?_of_ne x apart.2.1) ?_ fits
  rcases stays with rfl | rfl
  · exact (inv.facts t).calm calm fun _ => recorded
  · trivial

theorem apply
    (inv : h.DeadlinesKept reading c o init mid history stage)
    {t : Nat}
    {o' : Option Nat}
    {v : Option Int}
    {q : Prog Memory Unit}
    (lt : t < mid.threads.length)
    (placed : stage t = .pending o' v)
    (fits : h.Keeper reading c (.held none) q) :
    h.DeadlinesKept reading c o init ⟨mid.memory, mid.threads.set t q⟩
      (history ++ [⟨t, ⟨.setDeadline h.fd reading v, .ok ()⟩⟩]) (Function.update stage t (.held none)) := by
  have given : h.recorded reading mid.memory = v := by
    have pending := inv.facts t
    rw [placed] at pending
    exact pending.recorded_of_pending
  have holds : (DeadlineStage.held none).Holds ↔ (stage t).Holds := by
    rw [placed]
    exact Iff.rfl
  exact {
    fits := inv.fits_set fits
    beyond := inv.beyond_set lt
    owner := fun u owning => inv.owner u (of_update (fun impossible => (by cases impossible)) owning)
    opened := inv.opened_set rfl holds
    single := inv.single_set holds.mp
    keys := inv.keys_calm (.refl _)
    facts := inv.facts_set (.refl _) (fun _ _ _ => rfl) trivial
    made := inv.made_set (fun _ same => (by cases same)) fun _ _ impossible => (by cases impossible)
    alone := inv.alone_set fun _ _ impossible => (by cases impossible)
    owned := inv.owned_set (fun _ _ live => live) (fun _ _ impossible => (by cases impossible)) fun w k watching => by
      rw [placed] at watching
      cases watching
    agrees := .inl (by rw [deadlineAfter_snoc]; simp [given]) }

theorem release
    (inv : h.DeadlinesKept reading c o init mid history stage)
    {t : Nat}
    {q : Prog Memory Unit}
    (lt : t < mid.threads.length)
    (placed : stage t = .held none)
    (fits : h.Keeper reading c .idle q) :
    h.DeadlinesKept reading c o init ⟨Memory.setDeadlinesLocked h.key false mid.memory, mid.threads.set t q⟩
      (history ++ [⟨t, ⟨.update (Memory.setDeadlinesLocked h.key false),
        Memory.setDeadlinesLocked h.key false mid.memory⟩⟩])
      (Function.update stage t .idle) := by
  have calm := Memory.Calm.of_frames (f := Memory.setDeadlinesLocked h.key false)
    (fun _ => ⟨le_refl _, rfl, rfl, rfl⟩) mid.memory
  have recorded := (keeps_recorded_setDeadlinesLocked false :
    Keeps (h.recorded reading) (.update (Memory.setDeadlinesLocked h.key false))) _ rfl mid.memory
  have moves : Moves (stage t) .idle := by
    rw [placed]
    exact Moves.release
  have others : ∀ u, u ≠ t → ¬ (stage u).Holds :=
    fun u other holding => other (inv.single u t holding (by rw [placed]; trivial))
  have nobody : ∀ u, ¬ (Function.update stage t .idle u).Holds := by
    intro u holding
    by_cases mine : u = t
    · subst mine
      rw [Function.update_self] at holding
      exact holding
    · rw [Function.update_of_ne mine] at holding
      exact others u mine holding
  obtain ⟨st, found, unclosed, -⟩ := inv.opened
  refine inv.shift lt moves calm recorded rfl ⟨{ st with deadlinesLocked := false }, ?_, unclosed, ?_⟩
    (fun u _ holding => absurd holding (nobody u)) trivial fits
  · simp [Memory.setDeadlinesLocked, Memory.modifyHandle, found]
  · exact iff_of_false (by simp) fun found => found.elim fun u holding => nobody u holding

theorem makeWatch
    (inv : h.DeadlinesKept reading c o init mid history stage)
    {t : Nat}
    {q : Prog Memory Unit}
    (lt : t < mid.threads.length)
    (placed : stage t = .ready)
    (fits : h.Keeper reading c (.made mid.memory.next) q) :
    h.DeadlinesKept reading c o init ⟨Memory.armWatch mid.memory, mid.threads.set t q⟩
      (history ++ [⟨t, ⟨.update Memory.armWatch, Memory.armWatch mid.memory⟩⟩])
      (Function.update stage t (.made mid.memory.next)) := by
  have calm : mid.memory.Calm (Memory.armWatch mid.memory) := Memory.Calm.of_quiet Memory.armWatch_quiet mid.memory
  have absent : mid.memory.watches.get? mid.memory.next = none := by
    cases found : mid.memory.watches.get? mid.memory.next with
    | none => rfl
    | some _ => exact absurd (inv.keys _ (by simp [found])) (lt_irrefl _)
  have armed : (Memory.armWatch mid.memory).phaseOf mid.memory.next = .armed := by
    simp [Memory.armWatch, Memory.take, Memory.phaseOf, Table.get?_insert_self _ absent]
  have holds : (DeadlineStage.made mid.memory.next).Holds ↔ (stage t).Holds := by
    rw [placed]
    exact Iff.rfl
  exact {
    fits := inv.fits_set fits
    beyond := inv.beyond_set lt
    owner := fun u owning => inv.owner u (of_update (fun _ => by rw [placed]; trivial) owning)
    opened := inv.opened_set rfl holds
    single := inv.single_set holds.mp
    keys := inv.keys_calm calm
    facts := inv.facts_set calm (fun _ _ _ => rfl) ⟨armed, Nat.lt_succ_self _⟩
    made := fun u w madeU v k watchesV => by
      have old := of_update (fun watches => absurd watches id) watchesV
      by_cases mine : u = t
      · -- every stage named a watch under a key below the new one
        subst mine
        rw [Function.update_self] at madeU
        cases madeU
        exact lt_irrefl _ ((inv.facts v).lt_of_named (watch?_of_watches old))
      · rw [Function.update_of_ne mine] at madeU
        exact inv.made u w madeU v k old
    alone := inv.alone_set fun _ _ impossible => (by cases impossible)
    owned := inv.owned_set (fun w lt live => by rwa [calm.phases w lt] at live) (fun _ _ impossible => (by cases impossible))
      fun w k watching => by
        rw [placed] at watching
        cases watching
    agrees := inv.agrees_set rfl rfl (fun w lt fired => (calm.phases w lt).trans fired)
      (fun _ _ pending => by rw [placed] at pending; cases pending)
      (fun _ _ firing => by rw [placed] at firing; cases firing)
      fun _ covers => by
        rw [placed] at covers
        rcases covers with ⟨_, watching⟩ | restores
        · cases watching
        · cases restores }

theorem record
    (inv : h.DeadlinesKept reading c o init mid history stage)
    {t : Nat}
    {o' : Option Nat}
    {f : Memory → Memory}
    {q : Prog Memory Unit}
    (lt : t < mid.threads.length)
    (placed : stage t = .held o')
    (quiet : Quiet (.update f))
    (lock : Keeps h.lockView (.update f))
    (fits : h.Keeper reading c (.pending o' (h.recorded reading (f mid.memory))) q) :
    h.DeadlinesKept reading c o init ⟨f mid.memory, mid.threads.set t q⟩
      (history ++ [⟨t, ⟨.update f, f mid.memory⟩⟩])
      (Function.update stage t (.pending o' (h.recorded reading (f mid.memory)))) := by
  have calm : mid.memory.Calm (f mid.memory) := Memory.Calm.of_quiet quiet mid.memory
  have moves : Moves (stage t) (.pending o' (h.recorded reading (f mid.memory))) := by
    rw [placed]
    exact Moves.record
  have holds : (DeadlineStage.pending o' (h.recorded reading (f mid.memory))).Holds ↔ (stage t).Holds := by
    rw [placed]
    exact Iff.rfl
  have others : ∀ u, u ≠ t → ¬ (stage u).Holds :=
    fun u other holding => other (inv.single u t holding (by rw [placed]; trivial))
  have fact : h.StageFits reading (f mid.memory) (.pending o' (h.recorded reading (f mid.memory))) := by
    have held := inv.facts t
    rw [placed] at held
    cases o' with
    | none => rfl
    | some w =>
        obtain ⟨fired, below⟩ := held
        exact ⟨rfl, (calm.phases w below).trans fired, lt_of_lt_of_le below calm.next⟩
  exact {
    fits := inv.fits_set fits
    beyond := inv.beyond_set lt
    owner := fun u owning => inv.owner u (of_update moves.owns owning)
    opened := inv.opened_set (lock.after mid.memory) holds
    single := inv.single_set holds.mp
    keys := inv.keys_calm calm
    facts := inv.facts_set calm (fun u other holding => absurd holding (others u other)) fact
    made := inv.made_set moves.made moves.watches
    alone := inv.alone_set moves.watches
    owned := inv.owned_set (fun w lt live => by rwa [calm.phases w lt] at live) moves.watches moves.watching
    agrees := Or.inr (Or.inl ⟨t, o', h.recorded reading (f mid.memory), Function.update_self t _ stage⟩) }

/-- A thread started for a watch its operation watches, and that has no thread yet, joins
the team waiting. -/
theorem adopt
    {team : Team Memory}
    (inv : h.DeadlinesKept reading c o init team history stage)
    {t w k : Nat}
    {p : Prog Memory Unit}
    (placed : stage t = .watching w k)
    (armed : team.memory.phaseOf w = .armed)
    (unwatched : ∀ u k', ¬ (stage u).Watches w k')
    (fits : h.Keeper reading c (.waiting w k) p) :
    h.DeadlinesKept reading c o init ⟨team.memory, team.threads ++ [p]⟩ history
      (Function.update stage team.threads.length (.waiting w k)) := by
  have fresh : stage team.threads.length = .idle := inv.beyond _ le_rfl
  have below : w < team.memory.next := by
    have fact := inv.facts t
    rw [placed] at fact
    exact fact.2.2
  have mine : t = o := inv.owner t (by rw [placed]; trivial)
  have holds : (DeadlineStage.waiting w k).Holds ↔ (stage team.threads.length).Holds := by
    rw [fresh]
    exact Iff.rfl
  have classify : ∀ u w' k', (Function.update stage team.threads.length (.waiting w k) u).Watches w' k' →
      (u = team.threads.length ∧ w' = w ∧ k' = k) ∨ (u ≠ team.threads.length ∧ (stage u).Watches w' k') := by
    intro u w' k' watches
    by_cases new : u = team.threads.length
    · subst new
      rw [Function.update_self] at watches
      exact .inl ⟨rfl, watches.1.symm, watches.2.symm⟩
    · rw [Function.update_of_ne new] at watches
      exact .inr ⟨new, watches⟩
  exact {
    fits := fun u q found => by
      by_cases new : u = team.threads.length
      · subst new
        rw [List.getElem?_append_right le_rfl] at found
        simp only [Nat.sub_self, List.getElem?_cons_zero, Option.some.injEq] at found
        rw [Function.update_self, ← found]
        exact fits
      · have inRange : u < team.threads.length := by
          have := (List.getElem?_eq_some_iff.mp found).1
          simp only [List.length_append, List.length_singleton] at this
          omega
        rw [List.getElem?_append_left inRange] at found
        rw [Function.update_of_ne new]
        exact inv.fits u q found
    beyond := fun u late => by
      simp only [List.length_append, List.length_singleton] at late
      rw [Function.update_of_ne (by omega)]
      exact inv.beyond u (by omega)
    owner := fun u owning => inv.owner u (of_update (fun impossible => (by cases impossible)) owning)
    opened := inv.opened_set rfl holds
    single := inv.single_set holds.mp
    keys := inv.keys
    facts := inv.facts_set (.refl _) (fun _ _ _ => rfl) ⟨.inl armed, below⟩
    made := fun u w' madeU v k' _ => by
      have old := of_update (P := (· = .made w')) (fun same => by cases same) madeU
      have same : u = t := (inv.owner u (by rw [old]; trivial)).trans mine.symm
      rw [same, placed] at old
      cases old
    alone := fun u v w' k₁ k₂ watchesU watchesV => by
      rcases classify u w' k₁ watchesU with ⟨rfl, rfl, -⟩ | ⟨-, oldU⟩ <;>
        rcases classify v _ k₂ watchesV with ⟨rfl, sameWatch, -⟩ | ⟨-, oldV⟩
      · rfl
      · exact absurd oldV (unwatched v k₂)
      · exact absurd (sameWatch ▸ oldU) (unwatched u k₁)
      · exact inv.alone u v w' k₁ k₂ oldU oldV
    owned := fun u w' k' watches live => by
      rcases classify u w' k' watches with ⟨-, rfl, rfl⟩ | ⟨-, old⟩
      · -- the new thread's watch is watched by the thread that started it
        refine ⟨t, ?_⟩
        rw [Function.update_of_ne (fun same => by rw [same, fresh] at placed; cases placed)]
        exact placed
      · obtain ⟨v, watching⟩ := inv.owned u w' k' old live
        refine ⟨v, ?_⟩
        rw [Function.update_of_ne (fun same => by rw [same, fresh] at watching; cases watching)]
        exact watching
    agrees := by
      rcases inv.agrees with same | found | moved
      · exact .inl same
      · exact .inr (.inl (pending_set (fun _ _ pending => by rw [fresh] at pending; cases pending) found))
      · refine .inr (.inr (inv.moved_set (fun _ _ fired => fired)
          (fun _ _ firing => by rw [fresh] at firing; cases firing) (fun _ covers => ?_) moved))
        rw [fresh] at covers
        rcases covers with ⟨_, watching⟩ | restores
        · cases watching
        · cases restores }

/-- Stopping an armed watch on a context that goes on leaves its operation idle: the callback
never runs. -/
theorem stopped
    (inv : h.DeadlinesKept reading c o init mid history stage)
    {t w k : Nat}
    {e : Exchange Memory}
    {q : Prog Memory Unit}
    (lt : t < mid.threads.length)
    (placed : stage t = .watching w k)
    (armed : mid.memory.phaseOf w = .armed)
    (unset : e.deadlineSet? h.fd reading = none)
    (fits : h.Keeper reading c .idle q) :
    h.DeadlinesKept reading c o init ⟨mid.memory.setPhase w .stopped, mid.threads.set t q⟩ (history ++ [⟨t, e⟩])
      (Function.update stage t .idle) := by
  have mine : t = o := inv.owner t (by rw [placed]; trivial)
  have holds : DeadlineStage.idle.Holds ↔ (stage t).Holds := by
    rw [placed]
    exact Iff.rfl
  exact {
    fits := inv.fits_set fits
    beyond := inv.beyond_set lt
    owner := fun u owning => inv.owner u (of_update (fun impossible => (by cases impossible)) owning)
    opened := inv.opened_set rfl holds
    single := inv.single_set holds.mp
    keys := inv.keys_setPhase
    facts := inv.facts_setPhase trivial fun u other named => by
      have notOwns : ¬ (stage u).Owns := fun owning => other ((inv.owner u owning).trans mine.symm)
      obtain ⟨k', watches⟩ := watches_of_named named notOwns
      exact (inv.facts u).stopped_of_watches watches armed
    made := inv.made_set (fun _ same => (by cases same)) fun _ _ impossible => (by cases impossible)
    alone := inv.alone_set fun _ _ impossible => (by cases impossible)
    owned := fun u w' k' watches live => by
      have old := of_update (fun impossible => (by cases impossible)) watches
      have other : w' ≠ w := by
        rintro rfl
        exact live (Memory.phaseOf_setPhase_self (Memory.present_of_phaseOf armed (by decide)) _)
      rw [Memory.phaseOf_setPhase_other _ _ other] at live
      obtain ⟨v, watching⟩ := inv.owned u w' k' old live
      refine ⟨v, to_update (P := (· = .watching w' k')) (fun same => ?_) watching⟩
      rw [placed] at same
      cases same
      exact absurd rfl other
    agrees := by
      rw [deadlineAfter_snoc, unset, Option.getD_none]
      rcases inv.agrees with same | found | moved
      · exact .inl same
      · exact .inr (.inl (pending_set (fun _ _ pending => by rw [placed] at pending; cases pending) found))
      · exact absurd moved (inv.not_moved_of_armed placed armed) }

theorem awaitFired
    (inv : h.DeadlinesKept reading c o init mid history stage)
    {t w k : Nat}
    {e : Exchange Memory}
    {q : Prog Memory Unit}
    (lt : t < mid.threads.length)
    (placed : stage t = .watching w k)
    (fired : mid.memory.phaseOf w = .fired)
    (fits : h.Keeper reading c (.restoring w) q) :
    h.DeadlinesKept reading c o init ⟨mid.memory, mid.threads.set t q⟩ (history ++ [⟨t, e⟩])
      (Function.update stage t (.restoring w)) := by
  have below : w < mid.memory.next := by
    have fact := inv.facts t
    rw [placed] at fact
    exact fact.2.2
  have holds : (DeadlineStage.restoring w).Holds ↔ (stage t).Holds := by
    rw [placed]
    exact Iff.rfl
  exact {
    fits := inv.fits_set fits
    beyond := inv.beyond_set lt
    owner := fun u owning => inv.owner u (of_update (fun _ => by rw [placed]; trivial) owning)
    opened := inv.opened_set rfl holds
    single := inv.single_set holds.mp
    keys := inv.keys
    facts := inv.facts_set (.refl _) (fun _ _ _ => rfl) ⟨fired, below⟩
    made := inv.made_set (fun _ same => (by cases same)) fun _ _ impossible => (by cases impossible)
    alone := inv.alone_set fun _ _ impossible => (by cases impossible)
    owned := fun u w' k' watches live => by
      have old := of_update (fun impossible => (by cases impossible)) watches
      obtain ⟨v, watching⟩ := inv.owned u w' k' old live
      refine ⟨v, to_update (P := (· = .watching w' k')) (fun same => ?_) watching⟩
      rw [placed] at same
      cases same
      exact absurd fired ((inv.facts u).not_fired_of_watches old)
    agrees := .inr (.inr ⟨t, w, .inr ⟨fired, by rw [Function.update_self]; exact .inr rfl⟩⟩) }

/-- The thread of a watch whose context ended takes the callback on while the watch is
armed. -/
theorem commit
    (inv : h.DeadlinesKept reading c o init mid history stage)
    {t w k : Nat}
    {e : Exchange Memory}
    {q : Prog Memory Unit}
    (lt : t < mid.threads.length)
    (placed : stage t = .waiting w k)
    (armed : mid.memory.phaseOf w = .armed)
    (ended : (mid.memory.causeOf k).isSome = true)
    (unset : e.deadlineSet? h.fd reading = none)
    (fits : h.Keeper reading c (.calling w k) q) :
    h.DeadlinesKept reading c o init ⟨mid.memory.setPhase w .running, mid.threads.set t q⟩ (history ++ [⟨t, e⟩])
      (Function.update stage t (.calling w k)) := by
  have moves : Moves (stage t) (.calling w k) := by
    rw [placed]
    exact Moves.commit
  have holds : (DeadlineStage.calling w k).Holds ↔ (stage t).Holds := by
    rw [placed]
    exact Iff.rfl
  have present := Memory.present_of_phaseOf armed (by decide)
  have running : (mid.memory.setPhase w .running).phaseOf w = .running := Memory.phaseOf_setPhase_self present _
  have below : w < mid.memory.next := by
    have fact := inv.facts t
    rw [placed] at fact
    exact fact.2
  have others : ∀ w', w' ≠ w → (mid.memory.setPhase w .running).phaseOf w' = mid.memory.phaseOf w' :=
    fun w' other => Memory.phaseOf_setPhase_other _ _ other
  exact {
    fits := inv.fits_set fits
    beyond := inv.beyond_set lt
    owner := fun u owning => inv.owner u (of_update moves.owns owning)
    opened := inv.opened_set rfl holds
    single := inv.single_set holds.mp
    keys := inv.keys_setPhase
    facts := inv.facts_setPhase ⟨running, below⟩ fun u other named => by
      rw [inv.watching_of_named (by rw [placed]; exact ⟨rfl, rfl⟩) (by rw [armed]; decide) other named]
      exact ⟨by rw [running]; decide, fun _ => ended, below⟩
    made := inv.made_set moves.made moves.watches
    alone := inv.alone_set moves.watches
    owned := inv.owned_set (fun w' _ live => by
        by_cases same : w' = w
        · subst same
          rw [armed]
          decide
        · rwa [others w' same] at live) moves.watches moves.watching
    agrees := inv.agrees_set unset rfl (fun w' _ fired => by
        by_cases same : w' = w
        · subst same
          rw [armed] at fired
          cases fired
        · rwa [others w' same]) moves.pending moves.firing moves.covers }

theorem call
    (inv : h.DeadlinesKept reading c o init mid history stage)
    {t w k : Nat}
    {x : Except Errno Unit}
    {q : Prog Memory Unit}
    (lt : t < mid.threads.length)
    (placed : stage t = .calling w k)
    (fits : h.Keeper reading c (.firing w k) q) :
    h.DeadlinesKept reading c o init ⟨mid.memory, mid.threads.set t q⟩
      (history ++ [⟨t, ⟨.setDeadline h.fd reading (some 0), x⟩⟩]) (Function.update stage t (.firing w k)) := by
  have moves : Moves (stage t) (.firing w k) := by
    rw [placed]
    exact Moves.call
  have holds : (DeadlineStage.firing w k).Holds ↔ (stage t).Holds := by
    rw [placed]
    exact Iff.rfl
  have fact : h.StageFits reading mid.memory (.firing w k) := by
    have calling := inv.facts t
    rw [placed] at calling
    exact calling
  exact {
    fits := inv.fits_set fits
    beyond := inv.beyond_set lt
    owner := fun u owning => inv.owner u (of_update moves.owns owning)
    opened := inv.opened_set rfl holds
    single := inv.single_set holds.mp
    keys := inv.keys
    facts := inv.facts_set (.refl _) (fun _ _ _ => rfl) fact
    made := inv.made_set moves.made moves.watches
    alone := inv.alone_set moves.watches
    owned := inv.owned_set (fun _ _ live => live) moves.watches moves.watching
    agrees := .inr (.inr ⟨t, w, .inl ⟨k, Function.update_self _ _ _⟩⟩) }

theorem fire
    (inv : h.DeadlinesKept reading c o init mid history stage)
    {t w k : Nat}
    {e : Exchange Memory}
    {q : Prog Memory Unit}
    (lt : t < mid.threads.length)
    (placed : stage t = .firing w k)
    (fits : h.Keeper reading c .idle q) :
    h.DeadlinesKept reading c o init ⟨mid.memory.setPhase w .fired, mid.threads.set t q⟩ (history ++ [⟨t, e⟩])
      (Function.update stage t .idle) := by
  have holds : DeadlineStage.idle.Holds ↔ (stage t).Holds := by
    rw [placed]
    exact Iff.rfl
  obtain ⟨running, below⟩ : mid.memory.phaseOf w = .running ∧ w < mid.memory.next := by
    have fact := inv.facts t
    rw [placed] at fact
    exact fact
  have present := Memory.present_of_phaseOf running (by decide)
  have fired : (mid.memory.setPhase w .fired).phaseOf w = .fired := Memory.phaseOf_setPhase_self present _
  have watches : (stage t).Watches w k := by
    rw [placed]
    exact ⟨rfl, rfl⟩
  have live : mid.memory.phaseOf w ≠ .stopped := by
    rw [running]
    decide
  obtain ⟨v, watching⟩ := inv.owned t w k watches live
  have other : v ≠ t := fun same => by rw [same, placed] at watching; cases watching
  exact {
    fits := inv.fits_set fits
    beyond := inv.beyond_set lt
    owner := fun u owning => inv.owner u (of_update (fun impossible => (by cases impossible)) owning)
    opened := inv.opened_set rfl holds
    single := inv.single_set holds.mp
    keys := inv.keys_setPhase
    facts := inv.facts_setPhase trivial fun u other' named => by
      rw [inv.watching_of_named watches live other' named]
      have fact := inv.facts u
      rw [inv.watching_of_named watches live other' named] at fact
      exact ⟨by rw [fired]; decide, fun _ => fact.2.1 (.inl running), below⟩
    made := inv.made_set (fun _ same => (by cases same)) fun _ _ impossible => (by cases impossible)
    alone := inv.alone_set fun _ _ impossible => (by cases impossible)
    owned := inv.owned_set (fun w' _ stillLive => by
        by_cases same : w' = w
        · subst same
          exact live
        · rwa [Memory.phaseOf_setPhase_other _ _ same] at stillLive) (fun _ _ impossible => (by cases impossible))
      fun w' k' watching' => by
        rw [placed] at watching'
        cases watching'
    agrees := .inr (.inr ⟨v, w, .inr ⟨fired, .inl ⟨k, by rw [Function.update_of_ne other]; exact watching⟩⟩⟩) }

/-! ### Every run keeps the invariant -/

theorem deadlineApart_other {at? : Option Int} :
    h.DeadlineApart reading (.setDeadline h.fd (!reading) at?) :=
  deadlineApart_of_unchanged rfl rfl fun _ same => by
    injection same with _ flipped
    cases reading <;> cases flipped

/-- Every turn whose setting of a deadline on the descriptor, if it is one, the kernel
accepts keeps the invariant, with the moving thread at its next stage. -/
theorem step
    (inv : h.DeadlinesKept reading c o init mid history stage)
    (step : Team.Step mid turn last)
    (accepted : turn.exchange.DeadlineAccepted h.fd) :
    ∃ stage', h.DeadlinesKept reading c o init last (history ++ [turn]) stage' := by
  obtain ⟨r, next, x, current, answered, moved⟩ := step.of_call
  have fitted := step.fits
  have lt := step.thread_lt
  obtain ⟨t, e⟩ := turn
  dsimp only at current answered moved fitted accepted lt
  subst answered
  have fitting := inv.fits t _ current
  have fact := inv.facts t
  generalize placed : stage t = s₀ at fitting
  rw [placed] at fact
  have same : ∀ {s : DeadlineStage}, s = s₀ → Moves (stage t) s ∧ (s.Holds ↔ (stage t).Holds) := by
    rintro s rfl
    rw [placed]
    exact ⟨.refl _, .rfl⟩
  cases fitting with
  | settle inner =>
      have settles : Moves (stage t) .idle ∧ (DeadlineStage.idle.Holds ↔ (stage t).Holds) := by
        rw [placed]
        exact ⟨Moves.settle, .rfl⟩
      cases inner with
      | apart apart later =>
          obtain rfl := moved apart.1.2
          exact ⟨_, inv.apart lt settles.1 settles.2 (.inr rfl) apart (later x)⟩
      | other later =>
          obtain rfl : x = .ok () := accepted rfl
          obtain rfl := moved rfl
          exact ⟨_, inv.apart lt settles.1 settles.2 (.inr rfl) deadlineApart_other later⟩
      | acquire later =>
          obtain ⟨free, rfl⟩ := fitted
          obtain rfl := moved rfl
          exact ⟨_, inv.take lt (by rw [placed]; exact Moves.acquireReady) free (later _) trivial⟩
  | apart apart later =>
      obtain rfl := moved apart.1.2
      exact ⟨_, inv.apart lt (same rfl).1 (same rfl).2 (.inl placed.symm) apart (later x)⟩
  | other later =>
      obtain rfl : x = .ok () := accepted rfl
      obtain rfl := moved rfl
      exact ⟨_, inv.apart lt (same rfl).1 (same rfl).2 (.inl placed.symm) deadlineApart_other later⟩
  | acquire later =>
      obtain ⟨free, rfl⟩ := fitted
      obtain rfl := moved rfl
      exact ⟨_, inv.take lt (by rw [placed]; exact Moves.acquire) free (later _) trivial⟩
  | reacquire later =>
      obtain ⟨free, rfl⟩ := fitted
      obtain rfl := moved rfl
      exact ⟨_, inv.take lt (by rw [placed]; exact Moves.reacquire) free (later _) fact⟩
  | record quiet keeps later =>
      obtain rfl := fitted
      obtain rfl := moved rfl
      obtain ⟨st, found, -, -⟩ := inv.opened
      exact ⟨_, inv.record lt placed quiet keeps (later _ (by simp [found]))⟩
  | look apart later =>
      obtain rfl := fitted
      obtain rfl := moved rfl
      obtain ⟨st, found, unclosed, -⟩ := inv.opened
      have open' : (mid.memory.handle h.key).closed = false := by
        simp [Memory.handle, found, HandleState.closed, unclosed]
      exact ⟨_, inv.apart lt (same rfl).1 (same rfl).2 (.inl placed.symm) apart
        (later _ fact.recorded_of_pending open')⟩
  | apply later =>
      obtain rfl : x = .ok () := accepted rfl
      obtain rfl := moved rfl
      exact ⟨_, inv.apply lt placed later⟩
  | release later =>
      obtain rfl := fitted
      obtain rfl := moved rfl
      exact ⟨_, inv.release lt placed (later _)⟩
  | makeWatch later =>
      obtain rfl := fitted
      obtain rfl := moved rfl
      exact ⟨_, inv.makeWatch lt placed (later _)⟩
  | @spawnWatch w next toWatching toWaiting =>
      obtain ⟨sameExchange, rfl⟩ := step.of_startThread current
      cases sameExchange
      have moving : h.DeadlinesKept reading c o init ⟨mid.memory, mid.threads.set t (next false)⟩
          (history ++ [⟨t, ⟨.startThread, false⟩⟩]) (Function.update stage t (.watching w c)) :=
        inv.calm lt (by rw [placed]; exact Moves.spawn) (by rw [placed]; exact .rfl) (.refl _) rfl rfl rfl
          ⟨by rw [fact.1]; decide, fun running => by rw [fact.1] at running; simp at running, fact.2⟩ toWatching
      have unwatched : ∀ u k', ¬ (Function.update stage t (.watching w c) u).Watches w k' :=
        fun u k' watches => inv.made t w placed u k' (of_update (fun impossible => (by cases impossible)) watches)
      exact ⟨_, moving.adopt (Function.update_self _ _ _) fact.1 unwatched toWaiting⟩
  | @stop w next toIdle toWatching =>
      obtain rfl := fitted
      obtain rfl := moved rfl
      dsimp only [Request.change?, Option.getD]
      by_cases armed : mid.memory.phaseOf w = .armed
      · -- the callback was not taken on: the watch is stopped now, ended context or not
        have stops : Memory.stopWatch w mid.memory = mid.memory.setPhase w .stopped := by
          simp only [Memory.stopWatch]
          rw [if_pos (by simpa using armed)]
        have stoppedNow : (Memory.stopWatch w mid.memory).phaseOf w = .stopped := by
          rw [stops]
          exact Memory.phaseOf_setPhase_self (Memory.present_of_phaseOf armed (by decide)) _
        have result := inv.stopped (e := ⟨.update (Memory.stopWatch w), Memory.stopWatch w mid.memory⟩)
          lt placed armed rfl (toIdle _ stoppedNow)
        rw [← stops] at result
        exact ⟨_, result⟩
      · -- the callback was taken on: nothing changes
        have unchanged : Memory.stopWatch w mid.memory = mid.memory := by
          simp only [Memory.stopWatch]
          rw [if_neg (by simpa using armed)]
        have live : (Memory.stopWatch w mid.memory).phaseOf w ≠ .stopped := by
          rw [unchanged]
          exact fact.1
        have calm : mid.memory.Calm (Memory.stopWatch w mid.memory) := by
          rw [unchanged]
          exact .refl _
        exact ⟨_, inv.calm lt (same rfl).1 (same rfl).2 calm (by rw [unchanged]) (by rw [unchanged]) rfl
          (by rw [unchanged]; exact fact) (toWatching _ live)⟩
  | @awaitFired w k next later =>
      obtain ⟨ready, rfl⟩ := fitted
      obtain rfl := moved rfl
      exact ⟨_, inv.awaitFired lt placed (by simpa using ready) (later _)⟩
  | @commit w k next toCalling toIdle =>
      obtain ⟨ready, rfl⟩ := fitted
      obtain rfl := moved rfl
      by_cases runs : (Memory.commitWatch w mid.memory).phaseOf w = .running
      · -- the watch was armed, so its context has ended: the callback is taken on
        have armed : mid.memory.phaseOf w = .armed := by
          by_contra notArmed
          have unchanged : Memory.commitWatch w mid.memory = mid.memory := by
            simp only [Memory.commitWatch]
            rw [if_neg (by simpa using notArmed)]
          rw [unchanged] at runs
          rcases fact.1 with phase | phase <;> rw [phase] at runs <;> cases runs
        have ended : (mid.memory.causeOf k).isSome = true := by
          simpa [Memory.watchReady, armed] using ready
        have commits : Memory.commitWatch w mid.memory = mid.memory.setPhase w .running := by
          simp only [Memory.commitWatch]
          rw [if_pos (by simpa using armed)]
        have result := inv.commit (e := ⟨.await (Memory.watchReady w k) (Memory.commitWatch w),
          Memory.commitWatch w mid.memory⟩) lt placed armed ended rfl (toCalling _ runs)
        rw [← commits] at result
        exact ⟨_, result⟩
      · -- the watch was stopped: the thread leaves
        dsimp only [Request.change?, Option.getD]
        have unchanged : Memory.commitWatch w mid.memory = mid.memory := by
          simp only [Memory.commitWatch]
          rw [if_neg fun armed => runs (by
            simp only [Memory.commitWatch]
            rw [if_pos armed]
            exact Memory.phaseOf_setPhase_self (Memory.present_of_phaseOf (by simpa using armed) (by decide)) _)]
        have calm : mid.memory.Calm (Memory.commitWatch w mid.memory) := by
          rw [unchanged]
          exact .refl _
        exact ⟨_, inv.calm lt (by rw [placed]; exact Moves.drop) (by rw [placed]; exact .rfl) calm
          (by rw [unchanged]) (by rw [unchanged]) rfl (by trivial) (toIdle _ runs)⟩
  | call later =>
      obtain rfl := moved rfl
      exact ⟨_, inv.call lt placed (later x)⟩
  | fire later =>
      obtain rfl := fitted
      obtain rfl := moved rfl
      exact ⟨_, inv.fire lt placed (later _)⟩

/-- A team starts in the invariant when thread `o` is about to run its operation, every
other thread stands idle, the handle is registered with no close begun and the lock of its
deadlines free, and every watch is under a key handed out. -/
theorem start
    {st : HandleState}
    (registered : first.memory.handles.get? h.key = some st)
    (unclosed : st.closes = 0)
    (free : st.deadlinesLocked = false)
    (keys : ∀ w, (first.memory.watches.get? w).isSome = true → w < first.memory.next)
    (lt : o < first.threads.length)
    (fits : ∀ t q, first.threads[t]? = some q → h.Keeper reading c (if t = o then .ready else .idle) q) :
    h.DeadlinesKept reading c o (h.recorded reading first.memory) first []
      fun t => if t = o then .ready else .idle := by
  have calm : ∀ t, (if t = o then DeadlineStage.ready else .idle) = .ready ∨
      (if t = o then DeadlineStage.ready else .idle) = .idle := by
    intro t
    split
    · exact .inl rfl
    · exact .inr rfl
  have unheld : ∀ t, ¬ (if t = o then DeadlineStage.ready else .idle).Holds := by
    intro t
    rcases calm t with placed | placed <;> rw [placed] <;> exact id
  have unwatched : ∀ t w k, ¬ (if t = o then DeadlineStage.ready else .idle).Watches w k := by
    intro t w k
    rcases calm t with placed | placed <;> rw [placed] <;> exact id
  exact {
    fits := fits
    beyond := fun t late => if_neg (by omega)
    owner := fun t owning => by
      by_contra other
      rw [if_neg other] at owning
      exact owning
    opened := ⟨st, registered, unclosed, by simp only [free, Bool.false_eq_true, false_iff]; exact fun found => found.elim fun t holding => unheld t holding⟩
    single := fun t _ holding => absurd holding (unheld t)
    keys := keys
    facts := fun t => by rcases calm t with placed | placed <;> rw [placed] <;> trivial
    made := fun t w made => by rcases calm t with placed | placed <;> rw [placed] at made <;> cases made
    alone := fun t _ _ _ _ watches => absurd watches (unwatched _ _ _)
    owned := fun t _ _ watches => absurd watches (unwatched _ _ _)
    agrees := .inl rfl }

/-- Every run whose settings of the descriptor's deadline the kernel accepts keeps the
invariant. -/
theorem run
    {prior : List (Turn Memory)}
    (inv : h.DeadlinesKept reading c o init first prior stage)
    (run : Team.Run first history last)
    (accepted : ∀ turn ∈ history, turn.exchange.DeadlineAccepted h.fd) :
    ∃ stage', h.DeadlinesKept reading c o init last (prior ++ history) stage' := by
  induction run with
  | refl => exact ⟨stage, by simpa using inv⟩
  | snoc _ step inductionHypothesis =>
      obtain ⟨stage', inv'⟩ := inductionHypothesis fun turn member => accepted turn (List.mem_append_left _ member)
      rw [← List.append_assoc]
      exact inv'.step step (accepted _ (List.mem_append_right _ (List.mem_singleton_self _)))

/-- A stop that comes too late finds the callback taken on, and so the context of the
operation ended: a watch stays armed until its thread takes the callback on, and that
thread waits for the context to end. -/
theorem ended_of_live_stop
    (inv : h.DeadlinesKept reading c o init mid history stage)
    {t w : Nat}
    {next : Memory → Prog Memory Unit}
    (current : mid.threads[t]? = some (.call (.update (Memory.stopWatch w)) next))
    (live : (Memory.stopWatch w mid.memory).phaseOf w ≠ .stopped) :
    (mid.memory.causeOf c).isSome = true := by
  have fact := inv.facts t
  rw [(inv.fits t _ current).stage_of_stop] at fact
  obtain ⟨notStopped, moving, -⟩ := fact
  have notArmed : mid.memory.phaseOf w ≠ .armed := by
    intro armed
    apply live
    simp only [Memory.stopWatch, armed, beq_self_eq_true, if_true]
    exact Memory.phaseOf_setPhase_self (Memory.present_of_phaseOf armed (by decide)) _
  rcases phase : mid.memory.phaseOf w with _ | _ | _ | _
  · exact absurd phase notArmed
  · exact absurd phase notStopped
  · exact moving (.inl phase)
  · exact moving (.inr phase)

theorem keeps_causes
    {prior : List (Turn Memory)}
    (inv : h.DeadlinesKept reading c o init first prior stage)
    (run : Team.Run first history last)
    (accepted : ∀ turn ∈ history, turn.exchange.DeadlineAccepted h.fd)
    {k : Nat}
    {cause : Fault}
    (ended : first.memory.causeOf k = some cause) :
    last.memory.causeOf k = some cause := by
  induction run with
  | refl => exact ended
  | snoc earlier step inductionHypothesis =>
      have before := inductionHypothesis fun turn member => accepted turn (List.mem_append_left _ member)
      obtain ⟨stage', inv'⟩ := inv.run earlier fun turn member => accepted turn (List.mem_append_left _ member)
      obtain ⟨r, next, x, current, answered, -⟩ := step.of_call
      rw [step.memory, answered]
      exact (inv'.fits _ _ current).keeps_causes _ before

end Handle.DeadlinesKept

theorem Handle.Keeper.stage_of_pure {h : Handle} {reading : Bool} {c : Nat} {α : Type} {s : DeadlineStage} {a : α}
    (keeper : h.Keeper reading c s (.pure a)) : s = .idle ∨ s = .ready := by
  cases keeper with
  | pure => exact .inl rfl
  | settle => exact .inr rfl

namespace Handle.DeadlinesKept

variable {h : Handle} {reading : Bool} {c : Nat} {o : Nat} {first last : Team Memory} {history : List (Turn Memory)}

/-- Once the thread of the operation has returned, the descriptor's deadline is the
recorded one, unless a setter holds the lock of the deadlines: every callback that moved it
into the past was followed by the operation putting the recorded deadline back, and every
setter gave the descriptor what it recorded before releasing the lock. -/
theorem deadline_restored
    {st : HandleState}
    (registered : first.memory.handles.get? h.key = some st)
    (unclosed : st.closes = 0)
    (free : st.deadlinesLocked = false)
    (keys : ∀ w, (first.memory.watches.get? w).isSome = true → w < first.memory.next)
    (lt : o < first.threads.length)
    (fits : ∀ t q, first.threads[t]? = some q → h.Keeper reading c (if t = o then .ready else .idle) q)
    (run : Team.Run first history last)
    (accepted : ∀ turn ∈ history, turn.exchange.DeadlineAccepted h.fd)
    (returned : last.threads[o]? = some (.pure ()))
    (unlocked : (last.memory.handle h.key).deadlinesLocked = false) :
    deadlineAfter h.fd reading (h.recorded reading first.memory) (history.map Turn.exchange) =
      h.recorded reading last.memory := by
  obtain ⟨stage, inv⟩ := (start registered unclosed free keys lt fits).run run accepted
  rw [List.nil_append] at inv
  have finished := (inv.fits o _ returned).stage_of_pure
  have uncovered : ∀ w, ¬ (stage o).Covers w := by
    intro w covers
    rcases finished with placed | placed <;> rw [placed] at covers <;>
      rcases covers with ⟨_, watching⟩ | restores
    all_goals first | cases watching | cases restores
  rcases inv.agrees with same | ⟨u, o', v, pending⟩ | ⟨u, w, ⟨k, firing⟩ | ⟨_, covers⟩⟩
  · exact same
  · -- a pending deadline is held under the lock
    obtain ⟨st', found, -, locked⟩ := inv.opened
    have taken := locked.mpr ⟨u, by rw [pending]; trivial⟩
    simp [Memory.handle, found, taken] at unlocked
  · -- a callback about to be marked run has its operation watching
    have running : last.memory.phaseOf w = .running := by
      have fact := inv.facts u
      rw [firing] at fact
      exact fact.1
    obtain ⟨v, watching⟩ := inv.owned u w k (by rw [firing]; exact ⟨rfl, rfl⟩) (by rw [running]; decide)
    have mine : v = o := inv.owner v (by rw [watching]; trivial)
    rw [mine] at watching
    exact absurd (.inl ⟨k, watching⟩) (uncovered w)
  · have mine : u = o := inv.owner u covers.owns
    rw [mine] at covers
    exact absurd covers (uncovered w)

end Handle.DeadlinesKept

end PseudoTerm.Control
