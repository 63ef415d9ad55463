import Mathlib
import PseudoTerm.Proofs.PairLedger
import PseudoTerm.Proofs.Team

/-!
# A terminal is released once

Any number of threads may close one terminal handle, each any number of times, among other
requests that leave the handle's close alone (`Handle.Closer`).  The first close begun
counts a close in the handle's record and releases the descriptor; every other close waits
until the first has recorded what the release answered.  So in every history at most one
request releases the descriptor, and once any close has finished one has
(`Handle.releases_once`).

The proof is an invariant of the team (`Handle.ClosesOnce`), in the manner of a token that
is made once and used once: each thread is at a stage of its own close, idle, releasing or
recording; the first begun close makes its thread the one releasing thread; the release
moves it to recording, and the record back to idle.  While no close has begun nothing is
released and every thread is idle, a recording thread has released, and a recorded answer
means the release happened.
-/

namespace PseudoTerm.Control

open PseudoTerm.Machine Prog

namespace Handle

/-- What the record of a handle holds for its close while the handle is registered: the
closes begun, and what the first recorded. -/
def closeState (h : Handle) (m : Memory) : Option (Nat × Option (Except Fault Unit)) :=
  (m.handles.get? h.key).map fun s => (s.closes, s.closeResult)

/-- A request apart from the close of a handle: it starts no thread, does not close the
handle's descriptor, and leaves the handle's close state alone. -/
def CloseApart (h : Handle) (r : Request Memory) : Prop :=
  r.startsThread = false ∧ (∀ x, Exchange.closes h.fd ⟨r, x⟩ = false) ∧ Keeps h.closeState r

/-- Where a thread is in a close of a handle. -/
inductive CloseStage where
  /-- not inside a close that was the handle's first -/
  | idle
  /-- its close was the first, and it is about to release the descriptor -/
  | releasing
  /-- it released the descriptor and is about to record what that answered -/
  | recording
  deriving DecidableEq

/-- What a thread at a stage of closing handle `h` may still do.  While idle it makes
requests apart from the close, and closes of the handle; a close that finds itself the
first goes on releasing the descriptor, then recording the answer, then idle again. -/
inductive Closer (h : Handle) {α : Type} : CloseStage → Prog Memory α → Prop
  | pure (a : α) : Closer h .idle (.pure a)
  | apart {r : Request Memory} {next : r.Answer → Prog Memory α} :
      h.CloseApart r → (∀ x, Closer h .idle (next x)) → Closer h .idle (.call r next)
  | begin {next : Memory → Prog Memory α} :
      (∀ m, (m.handle h.key).closes = 1 → Closer h .releasing (next m)) →
      (∀ m, (m.handle h.key).closes ≠ 1 → Closer h .idle (next m)) →
      Closer h .idle (.call (.update (Memory.beginClose h.key)) next)
  | release {next : Except Errno Unit → Prog Memory α} :
      (∀ x, Closer h .recording (next x)) → Closer h .releasing (.call (.close h.fd) next)
  | record {result : Except Fault Unit} {next : Memory → Prog Memory α} :
      (∀ m, Closer h .idle (next m)) →
      Closer h .recording (.call (.update (Memory.finishClose h.key result)) next)

variable {h : Handle}

theorem close_closer {α : Type} {k : Except Fault Unit → Prog Memory α} (rest : ∀ x, h.Closer .idle (k x)) :
    h.Closer .idle (h.close >>= k) := by
  refine .begin (fun m first => ?_) (fun m later => ?_)
  · simp only [Prog.bind, first, beq_self_eq_true, if_true]
    refine .release fun x => ?_
    cases x <;> exact .record fun _ => rest _
  · have waits : ((m.handle h.key).closes == 1) = false := beq_false_of_ne later
    simp only [Prog.bind, waits, Bool.false_eq_true, if_false]
    exact .apart ⟨rfl, fun _ => rfl, fun _ changed _ => by obtain rfl := Option.some.inj changed; rfl⟩
      fun _ => rest _

/-- The close state of the handle is what its record says, and nothing when it is not
registered. -/
theorem closes_of_closeState (m : Memory) :
    (m.handle h.key).closes = ((h.closeState m).map Prod.fst).getD 0 ∧
      (m.handle h.key).closeResult = ((h.closeState m).map Prod.snd).getD none := by
  unfold closeState Memory.handle
  cases m.handles.get? h.key <;> simp

theorem closeResult_isSome_eq (m : Memory) :
    (m.handle h.key).closeResult.isSome = ((h.closeState m).bind Prod.snd).isSome := by
  unfold closeState Memory.handle
  cases m.handles.get? h.key <;> simp

theorem closeState_beginClose (m : Memory) :
    h.closeState (Memory.beginClose h.key m) = (h.closeState m).map fun s => (s.1 + 1, s.2) := by
  simp [closeState, Memory.beginClose, Memory.modifyHandle, Option.map_map, Function.comp_def]

theorem closeState_finishClose (result : Except Fault Unit) (m : Memory) :
    h.closeState (Memory.finishClose h.key result m) = (h.closeState m).map fun s => (s.1, some result) := by
  simp [closeState, Memory.finishClose, Memory.modifyHandle, Option.map_map, Function.comp_def]

/-- The releases of the descriptor of `h` in a history. -/
def releases (h : Handle) (history : List (Turn Memory)) : Nat :=
  closeCount h.fd (history.map Turn.exchange)

theorem releases_snoc (history : List (Turn Memory)) (t : Nat) (e : Exchange Memory) :
    h.releases (history ++ [⟨t, e⟩]) = h.releases history + if e.closes h.fd then 1 else 0 := by
  simp [releases, closeCount, List.countP_cons]

theorem releases_le_append (history more : List (Turn Memory)) :
    h.releases history ≤ h.releases (history ++ more) := by
  simp [releases]

/-- The invariant of a team of threads closing handle `h`, where `stage` tells how far each
thread is in a close of its own: the handle stays registered, every thread's program fits
its stage, at most one thread is releasing and only while nothing was released, a recording
thread has released, at most one release happened, none before a close begins (and then
every thread is idle), and a recorded answer means the release happened. -/
structure ClosesOnce (h : Handle) (team : Team Memory) (history : List (Turn Memory))
    (stage : Nat → CloseStage) : Prop where
  registered : (h.closeState team.memory).isSome = true
  fits : ∀ t q, team.threads[t]? = some q → h.Closer (stage t) q
  single : ∀ t u, stage t = .releasing → stage u = .releasing → t = u
  releasing : ∀ t, stage t = .releasing → h.releases history = 0
  recording : ∀ t, stage t = .recording → h.releases history = 1
  atMostOne : h.releases history ≤ 1
  unbegun : (h.closeState team.memory).map Prod.fst = some 0 → h.releases history = 0 ∧ ∀ t, stage t = .idle
  recorded : ((h.closeState team.memory).bind Prod.snd).isSome = true → h.releases history = 1

namespace ClosesOnce

variable {first mid last : Team Memory} {history : List (Turn Memory)} {turn : Turn Memory}
  {stage : Nat → CloseStage}

theorem start
    {s : HandleState}
    (fresh : first.memory.handles.get? h.key = some s)
    (unrecorded : s.closeResult = none)
    (idle : ∀ q ∈ first.threads, h.Closer .idle q) :
    h.ClosesOnce first [] fun _ => .idle where
  registered := by simp [closeState, fresh]
  fits t q found := idle q (List.mem_of_getElem? found)
  single t _ releasing := by cases releasing
  releasing t releasing := by cases releasing
  recording t recording := by cases recording
  atMostOne := by simp [releases]
  unbegun _ := ⟨rfl, fun _ => rfl⟩
  recorded recorded := by simp [closeState, fresh, unrecorded] at recorded

theorem fits_set
    (inv : h.ClosesOnce mid history stage)
    {t : Nat}
    {s : CloseStage}
    {q : Prog Memory Unit}
    (fits : h.Closer s q) :
    ∀ u q', (mid.threads.set t q)[u]? = some q' → h.Closer (Function.update stage t s u) q' := by
  intro u q' found
  by_cases mine : u = t
  · subst mine
    have inRange : u < mid.threads.length := by simpa using (List.getElem?_eq_some_iff.mp found).1
    rw [List.getElem?_set_self inRange] at found
    rw [Function.update_self]
    exact Option.some.inj found ▸ fits
  · rw [List.getElem?_set_ne (Ne.symm mine)] at found
    rw [Function.update_of_ne mine]
    exact inv.fits u q' found

theorem apart
    (inv : h.ClosesOnce mid history stage)
    {t : Nat}
    {r : Request Memory}
    {x : r.Answer}
    {q : Prog Memory Unit}
    (placed : stage t = .idle)
    (apart : h.CloseApart r)
    (fits : h.Closer .idle q) :
    h.ClosesOnce ⟨(r.change?.getD id) mid.memory, mid.threads.set t q⟩ (history ++ [⟨t, ⟨r, x⟩⟩]) stage := by
  have kept : h.closeState ((r.change?.getD id) mid.memory) = h.closeState mid.memory := by
    cases changed : r.change? with
    | none => rfl
    | some f => exact apart.2.2 f changed mid.memory
  have same : h.releases (history ++ [⟨t, ⟨r, x⟩⟩]) = h.releases history := by
    simp [releases_snoc, apart.2.1 x]
  have unmoved : Function.update stage t .idle = stage := placed ▸ Function.update_eq_self t stage
  exact {
    registered := kept ▸ inv.registered
    fits := unmoved ▸ inv.fits_set fits
    single := inv.single
    releasing := fun u releasing => same ▸ inv.releasing u releasing
    recording := fun u recording => same ▸ inv.recording u recording
    atMostOne := same ▸ inv.atMostOne
    unbegun := fun unbegun => same ▸ inv.unbegun (kept ▸ unbegun)
    recorded := fun recorded => same ▸ inv.recorded (kept ▸ recorded) }

/-- A close that begins and is not the first keeps the invariant, the thread staying idle
while it waits for the answer. -/
theorem begin_idle
    (inv : h.ClosesOnce mid history stage)
    {t : Nat}
    {q : Prog Memory Unit}
    (placed : stage t = .idle)
    (fits : h.Closer .idle q) :
    h.ClosesOnce ⟨Memory.beginClose h.key mid.memory, mid.threads.set t q⟩
      (history ++ [⟨t, ⟨.update (Memory.beginClose h.key), Memory.beginClose h.key mid.memory⟩⟩]) stage := by
  have counted := closeState_beginClose (h := h) mid.memory
  have same : h.releases (history ++ [⟨t, ⟨.update (Memory.beginClose h.key),
      Memory.beginClose h.key mid.memory⟩⟩]) = h.releases history := by
    simp [releases_snoc, Exchange.closes]
  have unmoved : Function.update stage t .idle = stage := placed ▸ Function.update_eq_self t stage
  exact {
    registered := by simpa [counted] using inv.registered
    fits := unmoved ▸ inv.fits_set fits
    single := inv.single
    releasing := fun u releasing => same ▸ inv.releasing u releasing
    recording := fun u recording => same ▸ inv.recording u recording
    atMostOne := same ▸ inv.atMostOne
    unbegun := fun unbegun => by simp [counted] at unbegun
    recorded := fun recorded => same ▸ inv.recorded (by simpa [counted, Option.bind_map] using recorded) }

theorem begin_first
    (inv : h.ClosesOnce mid history stage)
    {t : Nat}
    {q : Prog Memory Unit}
    (placed : stage t = .idle)
    (first : ((Memory.beginClose h.key mid.memory).handle h.key).closes = 1)
    (fits : h.Closer .releasing q) :
    h.ClosesOnce ⟨Memory.beginClose h.key mid.memory, mid.threads.set t q⟩
      (history ++ [⟨t, ⟨.update (Memory.beginClose h.key), Memory.beginClose h.key mid.memory⟩⟩])
      (Function.update stage t .releasing) := by
  have counted := closeState_beginClose (h := h) mid.memory
  have same : h.releases (history ++ [⟨t, ⟨.update (Memory.beginClose h.key),
      Memory.beginClose h.key mid.memory⟩⟩]) = h.releases history := by
    simp [releases_snoc, Exchange.closes]
  obtain ⟨⟨n, result⟩, registered⟩ := Option.isSome_iff_exists.mp inv.registered
  have unbegun : n = 0 := by
    have := (closes_of_closeState (h := h) (Memory.beginClose h.key mid.memory)).1
    rw [counted, registered] at this
    simp only [Option.map_some, Option.getD_some] at this
    omega
  obtain ⟨unreleased, allIdle⟩ := inv.unbegun (by simp [registered, unbegun])
  have onlyMine : ∀ u, Function.update stage t .releasing u = .releasing → u = t := by
    intro u releasing
    by_contra other
    rw [Function.update_of_ne other, allIdle u] at releasing
    cases releasing
  exact {
    registered := by simp [counted, registered]
    fits := inv.fits_set fits
    single := fun u v releasingU releasingV => (onlyMine u releasingU).trans (onlyMine v releasingV).symm
    releasing := fun _ _ => same ▸ unreleased
    recording := fun u recording => by
      by_cases mine : u = t
      · subst mine
        simp at recording
      · rw [Function.update_of_ne mine, allIdle u] at recording
        cases recording
    atMostOne := by omega
    unbegun := fun restarted => by simp [counted, registered] at restarted
    recorded := fun recorded => same ▸ inv.recorded (by simpa [counted, Option.bind_map] using recorded) }

theorem release
    (inv : h.ClosesOnce mid history stage)
    {t : Nat}
    {x : Except Errno Unit}
    {q : Prog Memory Unit}
    (placed : stage t = .releasing)
    (fits : h.Closer .recording q) :
    h.ClosesOnce ⟨mid.memory, mid.threads.set t q⟩ (history ++ [⟨t, ⟨.close h.fd, x⟩⟩])
      (Function.update stage t .recording) := by
  have released : h.releases (history ++ [⟨t, ⟨.close h.fd, x⟩⟩]) = 1 := by
    simp [releases_snoc, Exchange.closes, inv.releasing t placed]
  have noneReleasing : ∀ u, Function.update stage t .recording u ≠ .releasing := by
    intro u releasing
    by_cases mine : u = t
    · subst mine
      simp at releasing
    · rw [Function.update_of_ne mine] at releasing
      exact mine (inv.single u t releasing placed)
  exact {
    registered := inv.registered
    fits := inv.fits_set fits
    single := fun u _ releasing => absurd releasing (noneReleasing u)
    releasing := fun u releasing => absurd releasing (noneReleasing u)
    recording := fun _ _ => released
    atMostOne := released.le
    unbegun := fun unbegun => absurd ((inv.unbegun unbegun).2 t) (by simp [placed])
    recorded := fun _ => released }

theorem record
    (inv : h.ClosesOnce mid history stage)
    {t : Nat}
    {result : Except Fault Unit}
    {q : Prog Memory Unit}
    (placed : stage t = .recording)
    (fits : h.Closer .idle q) :
    h.ClosesOnce ⟨Memory.finishClose h.key result mid.memory, mid.threads.set t q⟩
      (history ++ [⟨t, ⟨.update (Memory.finishClose h.key result), Memory.finishClose h.key result mid.memory⟩⟩])
      (Function.update stage t .idle) := by
  have counted := closeState_finishClose (h := h) result mid.memory
  have released : h.releases (history ++ [⟨t, ⟨.update (Memory.finishClose h.key result),
      Memory.finishClose h.key result mid.memory⟩⟩]) = 1 := by
    simp [releases_snoc, Exchange.closes, inv.recording t placed]
  have noneReleasing : ∀ u, Function.update stage t .idle u ≠ .releasing := by
    intro u releasing
    by_cases mine : u = t
    · subst mine
      simp at releasing
    · rw [Function.update_of_ne mine] at releasing
      have none := inv.releasing u releasing
      rw [inv.recording t placed] at none
      cases none
  exact {
    registered := by simpa [counted] using inv.registered
    fits := inv.fits_set fits
    single := fun u _ releasing => absurd releasing (noneReleasing u)
    releasing := fun u releasing => absurd releasing (noneReleasing u)
    recording := fun _ _ => released
    atMostOne := released.le
    unbegun := fun unbegun => absurd ((inv.unbegun (by simpa [counted, Option.map_map] using unbegun)).2 t)
      (by simp [placed])
    recorded := fun _ => released }

theorem step (inv : h.ClosesOnce mid history stage) (step : Team.Step mid turn last) :
    ∃ stage', h.ClosesOnce last (history ++ [turn]) stage' := by
  obtain ⟨r, next, x, current, answered, moved⟩ := step.of_call
  have fitted := step.fits
  obtain ⟨t, e⟩ := turn
  dsimp only at current answered moved fitted
  subst answered
  have fitting := inv.fits t _ current
  cases placed : stage t with
  | idle =>
      rw [placed] at fitting
      cases fitting with
      | apart apart later =>
          rw [moved apart.1]
          exact ⟨stage, inv.apart placed apart (later x)⟩
      | begin toReleasing toIdle =>
          rw [moved rfl]
          have answer : x = Memory.beginClose h.key mid.memory := fitted
          subst answer
          by_cases first : ((Memory.beginClose h.key mid.memory).handle h.key).closes = 1
          · exact ⟨_, inv.begin_first placed first (toReleasing _ first)⟩
          · exact ⟨stage, inv.begin_idle placed (toIdle _ first)⟩
  | releasing =>
      rw [placed] at fitting
      cases fitting with
      | release later =>
          rw [moved rfl]
          exact ⟨_, inv.release placed (later x)⟩
  | recording =>
      rw [placed] at fitting
      cases fitting with
      | record later =>
          rw [moved rfl]
          have answer : x = Memory.finishClose h.key _ mid.memory := fitted
          subst answer
          exact ⟨_, inv.record placed (later _)⟩

theorem run (inv : h.ClosesOnce first [] stage) (run : Team.Run first history last) :
    ∃ stage', h.ClosesOnce last history stage' := by
  induction run with
  | refl => exact ⟨stage, inv⟩
  | snoc _ step inductionHypothesis =>
      obtain ⟨stage', inv'⟩ := inductionHypothesis
      exact inv'.step step

end ClosesOnce

/-- Threads that close a registered handle with no answer recorded yet, each any number of
times among requests apart from the close, release its descriptor at most once in every
history; and once any of their closes has finished, exactly once. -/
theorem releases_once
    {first last : Team Memory}
    {history : List (Turn Memory)}
    {s : HandleState}
    (fresh : first.memory.handles.get? h.key = some s)
    (unrecorded : s.closeResult = none)
    (idle : ∀ q ∈ first.threads, h.Closer .idle q)
    (run : Team.Run first history last) :
    h.releases history ≤ 1 ∧
      ∀ t pre es post x, ofThread t history = pre ++ es ++ post → Reaches h.close es (.pure x) →
        h.releases history = 1 := by
  have start := ClosesOnce.start fresh unrecorded idle
  obtain ⟨stage, inv⟩ := start.run run
  refine ⟨inv.atMostOne, fun t pre es post x split closing => ?_⟩
  obtain ⟨m, rest, rfl, released, waited⟩ := close_finished closing
  by_cases opened : (m.handle h.key).closes = 1
  · -- this close released the descriptor itself
    obtain ⟨answer, m', rfl⟩ := released opened
    have member : (⟨t, ⟨.close h.fd, answer⟩⟩ : Turn Memory) ∈ history :=
      mem_of_mem_ofThread (by rw [split]; simp)
    have once : 1 ≤ h.releases history :=
      List.countP_pos_iff.mpr ⟨_, List.mem_map_of_mem member, by simp [Exchange.closes]⟩
    exact Nat.le_antisymm inv.atMostOne once
  · -- this close waited until an answer was recorded, which only the release records
    obtain ⟨m', rfl, -⟩ := waited opened
    have ownSplit : ofThread t history = (pre ++ [⟨.update (Memory.beginClose h.key), m⟩]) ++
        ⟨.await (fun m => (m.handle h.key).closeResult.isSome) id, m'⟩ :: post := by
      rw [split]
      simp
    obtain ⟨before, after, whole, -, -⟩ := ofThread_eq_append_cons ownSplit
    obtain ⟨ready, -⟩ := run.fits whole
    rw [whole] at run
    obtain ⟨mid, upTo, -⟩ := run.split
    obtain ⟨stage', inv'⟩ := start.run upTo
    have answered : ((h.closeState mid.memory).bind Prod.snd).isSome = true := by
      rw [upTo.memory, ← closeResult_isSome_eq]
      exact ready
    have once := inv'.recorded answered
    have atMostOne := inv.atMostOne
    have more := releases_le_append (h := h) before (⟨t, ⟨.await (fun m => (m.handle h.key).closeResult.isSome) id, m'⟩⟩ :: after)
    rw [← whole] at more
    omega

end Handle

end PseudoTerm.Control
