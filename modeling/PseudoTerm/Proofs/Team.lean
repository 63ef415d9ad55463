import PseudoTerm.Proofs.Threads
import PseudoTerm.Machine.Interface

namespace PseudoTerm.Machine

/-!
# Teams of threads

The threads of one program run at once and share its memory.  A team is a moment of
that: the memory, and the program each thread has left, by thread number in the order
the threads were started.  In one step one thread has its next request answered: a
change of the memory answers the changed memory (an await only once its condition
holds), a thread start goes on in the caller with `false` and starts a new thread, last
in order, that goes on with `true`, and every other request is answered by the system,
with any answer of its type.  A run lists the turns in the order they were taken; it
covers every order in which the threads may be scheduled and every answer the system
may give, so a statement over every run holds whatever the scheduler and the system
do.

From the runs of the team follow the runs of each thread: the turns of one thread are a
run of the program it started with (`Run.reaches`).  The memory is what the changes of all turns made of it (`Run.memory`),
and every turn fits the memory it was taken on.
-/

variable {μ : Type}

/-- Whether a request starts a thread. -/
def Request.startsThread : Request μ → Bool
  | .startThread => true
  | _ => false

/-- The threads of a program and the memory they share, at one moment. -/
structure Team (μ : Type) where
  memory : μ
  threads : List (Prog μ Unit)

namespace Team

/-- One step of a team: thread `t` has its next request answered. -/
inductive Step : Team μ → Turn μ → Team μ → Prop
  | update {team : Team μ} {t : Nat} {f : μ → μ} {next : μ → Prog μ Unit}
      (current : team.threads[t]? = some (.call (.update f) next)) :
      Step team ⟨t, ⟨.update f, f team.memory⟩⟩
        ⟨f team.memory, team.threads.set t (next (f team.memory))⟩
  | await {team : Team μ} {t : Nat} {ready : μ → Bool} {f : μ → μ} {next : μ → Prog μ Unit}
      (current : team.threads[t]? = some (.call (.await ready f) next))
      (holds : ready team.memory = true) :
      Step team ⟨t, ⟨.await ready f, f team.memory⟩⟩
        ⟨f team.memory, team.threads.set t (next (f team.memory))⟩
  | spawn {team : Team μ} {t : Nat} {next : Bool → Prog μ Unit}
      (current : team.threads[t]? = some (.call .startThread next)) :
      Step team ⟨t, ⟨.startThread, false⟩⟩
        ⟨team.memory, team.threads.set t (next false) ++ [next true]⟩
  | system {team : Team μ} {t : Nat} {r : Request μ} {next : r.Answer → Prog μ Unit}
      (current : team.threads[t]? = some (.call r next))
      (x : r.Answer)
      (unchanged : r.change? = none)
      (plain : r.startsThread = false) :
      Step team ⟨t, ⟨r, x⟩⟩ ⟨team.memory, team.threads.set t (next x)⟩

/-- The team `first`, its turns taken as `history` says, stands at `last`. -/
inductive Run : Team μ → List (Turn μ) → Team μ → Prop
  | refl (team : Team μ) : Run team [] team
  | snoc {first mid last : Team μ} {history : List (Turn μ)} {turn : Turn μ} :
      Run first history mid → Step mid turn last → Run first (history ++ [turn]) last

variable {first mid last : Team μ} {turn : Turn μ} {history : List (Turn μ)}

/-! ## One step -/

theorem Step.memory (step : Step mid turn last) :
    last.memory = (turn.exchange.request.change?.getD id) mid.memory := by
  cases step with
  | update => rfl
  | await => rfl
  | spawn => rfl
  | system current x unchanged => simp [unchanged]

theorem fits_of_unchanged {e : Exchange μ} (unchanged : e.request.change? = none) (m : μ) : e.Fits m := by
  obtain ⟨r, x⟩ := e
  cases r with
  | update f => cases unchanged
  | await ready f => cases unchanged
  | _ => trivial

theorem Step.fits (step : Step mid turn last) : turn.exchange.Fits mid.memory := by
  cases step with
  | update => rfl
  | await _ holds => exact ⟨holds, rfl⟩
  | spawn => trivial
  | system current x unchanged => exact fits_of_unchanged unchanged _

theorem Step.thread_lt (step : Step mid turn last) : turn.thread < mid.threads.length := by
  cases step <;> exact (List.getElem?_eq_some_iff.mp ‹_›).1

theorem Step.length_eq (step : Step mid turn last) :
    last.threads.length = mid.threads.length + if turn.exchange.request.startsThread then 1 else 0 := by
  cases step with
  | update => simp [Request.startsThread]
  | await => simp [Request.startsThread]
  | spawn => simp [Request.startsThread]
  | system current x unchanged plain => simp [plain]

theorem Step.length_le (step : Step mid turn last) : mid.threads.length ≤ last.threads.length := by
  rw [step.length_eq]
  omega

theorem Step.get?_other
    (step : Step mid turn last)
    {t : Nat}
    (other : t ≠ turn.thread)
    (existing : t < mid.threads.length) :
    last.threads[t]? = mid.threads[t]? := by
  cases step with
  | update => exact List.getElem?_set_ne (Ne.symm other)
  | await => exact List.getElem?_set_ne (Ne.symm other)
  | spawn =>
      rw [List.getElem?_append_left (by simpa using existing)]
      exact List.getElem?_set_ne (Ne.symm other)
  | system => exact List.getElem?_set_ne (Ne.symm other)

theorem Step.get?_self (step : Step mid turn last) :
    ∃ p q, mid.threads[turn.thread]? = some p ∧ last.threads[turn.thread]? = some q ∧
      Prog.Reaches p [turn.exchange] q := by
  have existing := step.thread_lt
  cases step with
  | update current =>
      exact ⟨_, _, current, List.getElem?_set_self existing, .call _ (.refl _)⟩
  | await current =>
      exact ⟨_, _, current, List.getElem?_set_self existing, .call _ (.refl _)⟩
  | spawn current =>
      refine ⟨_, _, current, ?_, .call _ (.refl _)⟩
      rw [List.getElem?_append_left (by simpa using existing)]
      exact List.getElem?_set_self existing
  | system current x =>
      exact ⟨_, _, current, List.getElem?_set_self existing, .call x (.refl _)⟩

theorem Step.only
    {P : Request μ → Prop}
    (step : Step mid turn last)
    (only : ∀ p ∈ mid.threads, Prog.Only P p) :
    P turn.exchange.request ∧ ∀ p ∈ last.threads, Prog.Only P p := by
  have stepping : ∀ {r : Request μ} {next : r.Answer → Prog μ Unit},
      mid.threads[turn.thread]? = some (.call r next) → P r ∧ ∀ x, Prog.Only P (next x) := by
    intro r next current
    cases only _ (List.mem_of_getElem? current) with
    | call allowed rest => exact ⟨allowed, rest⟩
  have kept : ∀ {n : Nat} {p : Prog μ Unit}, Prog.Only P p → ∀ q ∈ mid.threads.set n p, Prog.Only P q :=
    fun fresh q member => (List.mem_or_eq_of_mem_set member).elim (only q) (fun same => same ▸ fresh)
  cases step with
  | update current =>
      obtain ⟨allowed, rest⟩ := stepping current
      exact ⟨allowed, kept (rest _)⟩
  | await current =>
      obtain ⟨allowed, rest⟩ := stepping current
      exact ⟨allowed, kept (rest _)⟩
  | spawn current =>
      obtain ⟨allowed, rest⟩ := stepping current
      refine ⟨allowed, fun q member => ?_⟩
      rcases List.mem_append.mp member with old | new
      · exact kept (rest false) q old
      · rw [List.mem_singleton] at new
        exact new ▸ rest true
  | system current x =>
      obtain ⟨allowed, rest⟩ := stepping current
      exact ⟨allowed, kept (rest x)⟩

/-! ## Runs -/

theorem Run.memory (run : Run first history last) :
    last.memory = replay first.memory (history.map Turn.exchange) := by
  induction run with
  | refl => rfl
  | snoc _ step inductionHypothesis =>
      rw [step.memory, inductionHypothesis, List.map_append, replay_append]
      rfl

theorem Run.snoc_inv
    {turn : Turn μ}
    (run : Run first (history ++ [turn]) last) :
    ∃ mid, Run first history mid ∧ Step mid turn last := by
  generalize extended : history ++ [turn] = whole at run
  cases run with
  | refl => simp at extended
  | snoc earlier step =>
      obtain ⟨rfl, same⟩ := List.append_inj' extended rfl
      rw [List.singleton_inj] at same
      exact ⟨_, earlier, same ▸ step⟩

theorem Run.trans
    {after : List (Turn μ)}
    (firstPart : Run first history mid)
    (secondPart : Run mid after last) :
    Run first (history ++ after) last := by
  induction secondPart with
  | refl => simpa using firstPart
  | snoc _ step inductionHypothesis =>
      rw [← List.append_assoc]
      exact .snoc inductionHypothesis step

theorem Run.split
    {after : List (Turn μ)}
    (run : Run first (history ++ after) last) :
    ∃ mid, Run first history mid ∧ Run mid after last := by
  induction after generalizing history with
  | nil => exact ⟨last, by simpa using run, .refl last⟩
  | cons turn after inductionHypothesis =>
      rw [← List.singleton_append, ← List.append_assoc] at run
      obtain ⟨mid', upToTurn, rest⟩ := inductionHypothesis run
      obtain ⟨mid, earlier, step⟩ := upToTurn.snoc_inv
      refine ⟨mid, earlier, ?_⟩
      have one : Run mid [turn] mid' := by simpa using Run.snoc (.refl mid) step
      simpa using one.trans rest

theorem Run.fits
    (run : Run first history last)
    {before after : List (Turn μ)}
    {turn : Turn μ}
    (split : history = before ++ turn :: after) :
    turn.exchange.Fits (replay first.memory (before.map Turn.exchange)) := by
  subst split
  rw [← List.singleton_append, ← List.append_assoc] at run
  obtain ⟨mid', upToTurn, -⟩ := run.split
  obtain ⟨mid, earlier, step⟩ := upToTurn.snoc_inv
  rw [← earlier.memory]
  exact step.fits

theorem Run.length_le (run : Run first history last) : first.threads.length ≤ last.threads.length := by
  induction run with
  | refl => exact Nat.le_refl _
  | snoc _ step inductionHypothesis => exact Nat.le_trans inductionHypothesis step.length_le

theorem Run.thread_lt (run : Run first history last) : ∀ turn ∈ history, turn.thread < last.threads.length := by
  induction run with
  | refl => simp
  | snoc _ step inductionHypothesis =>
      intro turn member
      rcases List.mem_append.mp member with earlier | now
      · exact Nat.lt_of_lt_of_le (inductionHypothesis turn earlier) step.length_le
      · rw [List.mem_singleton] at now
        exact now ▸ Nat.lt_of_lt_of_le step.thread_lt step.length_le

theorem ofThread_snoc (t : Nat) (history : List (Turn μ)) (turn : Turn μ) :
    ofThread t (history ++ [turn]) =
      ofThread t history ++ if turn.thread = t then [turn.exchange] else [] := by
  by_cases mine : turn.thread = t <;> simp [ofThread, mine]

theorem ofThread_eq_nil_of_lt
    {t : Nat}
    {history : List (Turn μ)}
    (below : ∀ turn ∈ history, turn.thread < t) :
    ofThread t history = [] := by
  simp only [ofThread, List.filterMap_eq_nil_iff]
  intro turn member
  simp [Nat.ne_of_lt (below turn member)]

theorem Run.reaches
    (run : Run first history last)
    {t : Nat}
    (existing : t < first.threads.length) :
    ∃ p q, first.threads[t]? = some p ∧ last.threads[t]? = some q ∧
      Prog.Reaches p (ofThread t history) q := by
  induction run with
  | refl =>
      obtain ⟨p, found⟩ : ∃ p, first.threads[t]? = some p := ⟨_, List.getElem?_eq_getElem existing⟩
      exact ⟨p, p, found, found, .refl p⟩
  | @snoc mid' _ history' turn' earlier step inductionHypothesis =>
      obtain ⟨p, q, start, atMid, reached⟩ := inductionHypothesis
      by_cases mine : turn'.thread = t
      · obtain ⟨p', q', before, after, stepped⟩ := step.get?_self
        rw [mine, atMid, Option.some.injEq] at before
        subst before
        refine ⟨p, q', start, mine ▸ after, ?_⟩
        rw [ofThread_snoc, if_pos mine]
        exact reached.trans stepped
      · have stillThere := step.get?_other (Ne.symm mine)
          (Nat.lt_of_lt_of_le existing earlier.length_le)
        refine ⟨p, q, start, stillThere ▸ atMid, ?_⟩
        rw [ofThread_snoc, if_neg mine, List.append_nil]
        exact reached

/-- A thread that began with `p >>= k` and has returned ran `p` to an answer with its first
exchanges, and `k` with the rest. -/
theorem Run.bind_reaches
    {α : Type}
    {t : Nat}
    {p : Prog μ α}
    {k : α → Prog μ Unit}
    (run : Run first history last)
    (started : first.threads[t]? = some (p >>= k))
    (returned : last.threads[t]? = some (.pure ())) :
    ∃ es rest x, ofThread t history = es ++ rest ∧ Prog.Reaches p es (.pure x) ∧
      Prog.Reaches (k x) rest (.pure ()) := by
  obtain ⟨p', q, found, found', reached⟩ := run.reaches (List.getElem?_eq_some_iff.mp started).1
  obtain rfl := Option.some.inj (found.symm.trans started)
  obtain rfl := Option.some.inj (found'.symm.trans returned)
  exact Prog.reaches_bind_pure_iff.mp reached

theorem Run.only
    {P : Request μ → Prop}
    (run : Run first history last)
    (only : ∀ p ∈ first.threads, Prog.Only P p) :
    (∀ turn ∈ history, P turn.exchange.request) ∧ ∀ p ∈ last.threads, Prog.Only P p := by
  induction run with
  | refl => exact ⟨by simp, only⟩
  | snoc _ step inductionHypothesis =>
      obtain ⟨earlier, still⟩ := inductionHypothesis
      obtain ⟨now, after⟩ := step.only still
      refine ⟨fun turn member => ?_, after⟩
      rcases List.mem_append.mp member with old | new
      · exact earlier turn old
      · rw [List.mem_singleton] at new
        exact new ▸ now

/-! ## Steps from a known request -/

section Inversion

variable {t : Nat} {next : μ → Prog μ Unit}

theorem Step.of_update
    {f : μ → μ}
    (step : Step mid turn last)
    (current : mid.threads[turn.thread]? = some (.call (.update f) next)) :
    turn.exchange = ⟨.update f, f mid.memory⟩ ∧
      last = ⟨f mid.memory, mid.threads.set turn.thread (next (f mid.memory))⟩ := by
  cases step with
  | update asked =>
      rw [asked] at current
      cases current
      exact ⟨rfl, rfl⟩
  | await asked => rw [asked] at current; cases current
  | spawn asked => rw [asked] at current; cases current
  | system asked x unchanged =>
      rw [asked] at current
      cases current
      cases unchanged

theorem Step.of_await
    {ready : μ → Bool}
    {f : μ → μ}
    (step : Step mid turn last)
    (current : mid.threads[turn.thread]? = some (.call (.await ready f) next)) :
    ready mid.memory = true ∧ turn.exchange = ⟨.await ready f, f mid.memory⟩ ∧
      last = ⟨f mid.memory, mid.threads.set turn.thread (next (f mid.memory))⟩ := by
  cases step with
  | update asked => rw [asked] at current; cases current
  | await asked holds =>
      rw [asked] at current
      cases current
      exact ⟨holds, rfl, rfl⟩
  | spawn asked => rw [asked] at current; cases current
  | system asked x unchanged =>
      rw [asked] at current
      cases current
      cases unchanged

theorem Step.of_startThread
    {next : Bool → Prog μ Unit}
    (step : Step mid turn last)
    (current : mid.threads[turn.thread]? = some (.call .startThread next)) :
    turn.exchange = ⟨.startThread, false⟩ ∧
      last = ⟨mid.memory, mid.threads.set turn.thread (next false) ++ [next true]⟩ := by
  cases step with
  | update asked => rw [asked] at current; cases current
  | await asked => rw [asked] at current; cases current
  | spawn asked =>
      rw [asked] at current
      cases current
      exact ⟨rfl, rfl⟩
  | system asked x unchanged plain =>
      rw [asked] at current
      cases current
      cases plain

theorem Step.of_plain
    {r : Request μ}
    {next : r.Answer → Prog μ Unit}
    (step : Step mid turn last)
    (current : mid.threads[turn.thread]? = some (.call r next))
    (unchanged : r.change? = none)
    (plain : r.startsThread = false) :
    ∃ x, turn.exchange = ⟨r, x⟩ ∧ last = ⟨mid.memory, mid.threads.set turn.thread (next x)⟩ := by
  cases step with
  | update asked => rw [asked] at current; cases current; cases unchanged
  | await asked => rw [asked] at current; cases current; cases unchanged
  | spawn asked => rw [asked] at current; cases current; cases plain
  | system asked x =>
      rw [asked] at current
      cases current
      exact ⟨x, rfl, rfl⟩

theorem Step.of_pure
    (step : Step mid turn last)
    (current : mid.threads[turn.thread]? = some (.pure ())) :
    False := by
  cases step with
  | update asked => rw [asked] at current; cases current
  | await asked => rw [asked] at current; cases current
  | spawn asked => rw [asked] at current; cases current
  | system asked => rw [asked] at current; cases current

/-- Every step answers the next request of the thread that takes it; one that starts no
thread changes the memory as the request says and moves that thread alone. -/
theorem Step.of_call (step : Step mid turn last) :
    ∃ r next x, mid.threads[turn.thread]? = some (.call r next) ∧ turn.exchange = ⟨r, x⟩ ∧
      (r.startsThread = false →
        last = ⟨(r.change?.getD id) mid.memory, mid.threads.set turn.thread (next x)⟩) := by
  cases step with
  | update current => exact ⟨_, _, _, current, rfl, fun _ => rfl⟩
  | await current => exact ⟨_, _, _, current, rfl, fun _ => rfl⟩
  | spawn current => exact ⟨.startThread, _, (false : Bool), current, rfl, fun plain => by cases plain⟩
  | system current x unchanged =>
      exact ⟨_, _, x, current, rfl, fun _ => by rw [unchanged]; rfl⟩

theorem Run.nil_inv (run : Run first [] last) : last = first := by
  generalize none : ([] : List (Turn μ)) = history at run
  cases run with
  | refl => rfl
  | snoc _ _ => simp at none

theorem Run.cons_inv
    {rest : List (Turn μ)}
    (run : Run first (turn :: rest) last) :
    ∃ mid, Step first turn mid ∧ Run mid rest last := by
  rw [← List.singleton_append] at run
  obtain ⟨mid, upToTurn, later⟩ := run.split
  have alone : Run first ([] ++ [turn]) mid := upToTurn
  obtain ⟨start, none, step⟩ := alone.snoc_inv
  rw [none.nil_inv] at step
  exact ⟨mid, step, later⟩

theorem Run.lone_update
    {m : μ}
    {f : μ → μ}
    {next : μ → Prog μ Unit}
    (run : Run ⟨m, [.call (.update f) next]⟩ history last) :
    (history = [] ∧ last = ⟨m, [.call (.update f) next]⟩) ∨
      ∃ rest, history = ⟨0, ⟨.update f, f m⟩⟩ :: rest ∧ Run ⟨f m, [next (f m)]⟩ rest last := by
  cases history with
  | nil => exact .inl ⟨rfl, run.nil_inv⟩
  | cons turn rest =>
      obtain ⟨mid, step, later⟩ := run.cons_inv
      obtain ⟨t, e⟩ := turn
      have only : t = 0 := by
        have := step.thread_lt
        simp only [List.length_singleton] at this
        omega
      subst only
      obtain ⟨exchange, moved⟩ := step.of_update rfl
      subst moved
      simp only at exchange
      subst exchange
      exact .inr ⟨rest, rfl, later⟩

end Inversion

end Team

/-! ## Threads that end where they started

`Sys.spawnThread body` starts a thread that runs `body` and then ends: it never goes on
with what follows the start in the program that made it (`spawnThread_bind`).  A program
whose thread starts are all of that kind `Detaches`; what such a thread does is then
what its body does, however the program that started it goes on. -/

namespace Prog

variable {α β : Type}

@[simp] theorem endThread_bind (f : α → Prog μ β) :
    (Sys.endThread >>= f) = (Sys.endThread : Prog μ β) := by
  show Prog.call _ _ = Prog.call _ _
  congr 1
  funext e
  exact e.elim

theorem Reaches.answered {r : Request μ} {next : r.Answer → Prog μ α} {x : r.Answer} :
    Reaches (.call r next) [⟨r, x⟩] (next x) :=
  .call x (.refl _)

theorem endThread_call
    {r : Request μ}
    {next : r.Answer → Prog μ α}
    (same : (Sys.endThread : Prog μ α) = .call r next)
    (x : r.Answer) :
    False := by
  unfold Sys.endThread at same
  simp only [lift_eq, call_bind] at same
  cases same
  exact x.elim

theorem spawnThread_bind (body : Prog μ Unit) (k : Unit → Prog μ α) :
    (Sys.spawnThread body >>= k) =
      .call .startThread fun (inNew : Bool) =>
        if inNew then body >>= fun _ => Sys.endThread else k () := by
  show Prog.call _ _ = Prog.call _ _
  congr 1
  funext inNew
  cases inNew with
  | false => rfl
  | true =>
      show ((body >>= fun _ => Sys.endThread) >>= k) = _
      simp [bind_assoc]

/-- Every thread a program starts runs a body of its own and then ends. -/
inductive Detaches : {α : Type} → Prog μ α → Prop
  | pure {α : Type} (a : α) : Detaches (.pure a)
  | call {α : Type} {r : Request μ} {next : r.Answer → Prog μ α} :
      r.startsThread = false → (∀ x, Detaches (next x)) → Detaches (.call r next)
  | start {α : Type} {next : Bool → Prog μ α} (body : Prog μ Unit) :
      next true = (body >>= fun _ => Sys.endThread) → Detaches body → Detaches (next false) →
      Detaches (.call .startThread next)

theorem Detaches.endThread : Detaches (Sys.endThread : Prog μ α) :=
  .call (r := .endThread) rfl nofun

theorem Detaches.bind
    {p : Prog μ α}
    {f : α → Prog μ β}
    (first : Detaches p)
    (second : ∀ a, Detaches (f a)) :
    Detaches (p >>= f) := by
  induction first with
  | pure a => exact second a
  | call plain _ inductionHypothesis => exact .call plain fun x => inductionHypothesis x second
  | start body started inNew _ _ inductionHypothesis =>
      refine .start body ?_ inNew (inductionHypothesis second)
      show (_ >>= f) = _
      rw [started, bind_assoc]
      simp

theorem Detaches.reaches
    {p q : Prog μ α}
    {es : List (Exchange μ)}
    (detaches : Detaches p)
    (run : Reaches p es q) :
    Detaches q := by
  induction run with
  | refl => exact detaches
  | @call r next x es q _ inductionHypothesis =>
      apply inductionHypothesis
      cases detaches with
      | call _ later => exact later x
      | start body started inNew inCaller =>
          cases x with
          | false => exact inCaller
          | true => exact started ▸ inNew.bind fun _ => .endThread

theorem Only.of_bind
    {P : Request μ → Prop}
    {p : Prog μ α}
    {f : α → Prog μ β}
    (only : Only P (p >>= f)) :
    Only P p := by
  induction p with
  | pure a => exact .pure a
  | call r next inductionHypothesis =>
      cases only with
      | call allowed rest => exact .call allowed fun x => inductionHypothesis x (rest x)

theorem bind_eq_call
    {p : Prog μ α}
    {f : α → Prog μ β}
    {r : Request μ}
    {next : r.Answer → Prog μ β}
    (same : (p >>= f) = .call r next) :
    (∃ next', p = .call r next' ∧ ∀ x, next x = next' x >>= f) ∨ ∃ a, p = .pure a ∧ f a = .call r next := by
  cases p with
  | pure a => exact .inr ⟨a, rfl, same⟩
  | call r' next' =>
      rw [call_bind] at same
      cases same
      exact .inl ⟨next', rfl, fun _ => rfl⟩

end Prog

namespace Team

variable {first mid last : Team μ} {turn : Turn μ}

/-- A step of a thread that runs a detaching program `.call r next` and then `f`: the
thread goes on with what the program goes on with, and a thread it starts runs a body of
the program's own and then ends. -/
theorem Step.of_detaches
    {P : Request μ → Prop}
    {α : Type}
    {r : Request μ}
    {next : r.Answer → Prog μ α}
    {f : α → Prog μ Unit}
    (step : Step mid turn last)
    (current : mid.threads[turn.thread]? = some (.call r next >>= f))
    (only : Prog.Only P (.call r next))
    (detaches : Prog.Detaches (.call r next)) :
    ∃ x, turn.exchange = ⟨r, x⟩ ∧ P r ∧ Prog.Only P (next x) ∧ Prog.Detaches (next x) ∧
      last.memory = (r.change?.getD id) mid.memory ∧
      last.threads[turn.thread]? = some (next x >>= f) ∧
      ∀ t, mid.threads.length ≤ t → t < last.threads.length →
        ∃ body : Prog μ Unit, last.threads[t]? = some (body >>= fun _ => Sys.endThread) ∧
          Prog.Only P body ∧ Prog.Detaches body := by
  have existing := step.thread_lt
  rw [Prog.call_bind] at current
  cases only with
  | call allowed later =>
      cases detaches with
      | call plain continues =>
          obtain ⟨r', next', x, asked, answered, moved⟩ := step.of_call
          rw [current] at asked
          cases asked
          have kept := moved plain
          subst kept
          refine ⟨x, answered, allowed, later x, continues x, rfl, List.getElem?_set_self existing, ?_⟩
          intro t late inLast
          simp only [List.length_set] at inLast
          omega
      | start body started inNew inCaller =>
          obtain ⟨answered, moved⟩ := step.of_startThread current
          subst moved
          refine ⟨false, answered, allowed, later false, inCaller, rfl, ?_, ?_⟩
          · rw [List.getElem?_append_left (by simpa using existing)]
            exact List.getElem?_set_self existing
          · intro t late inLast
            simp only [List.length_append, List.length_set, List.length_singleton] at inLast
            have newest : t = mid.threads.length := by omega
            subst newest
            have onlyBody : Prog.Only P (body >>= fun _ => Sys.endThread) := started ▸ later true
            refine ⟨body, ?_, onlyBody.of_bind, inNew⟩
            rw [List.getElem?_append_right (by simp)]
            simp [started, Prog.bind_assoc]

/-! ## Runs a schedule plays

A run for given threads and answers is found by playing a schedule: the list of the
threads that take turns, each taking the turn its next request allows.  `play` computes the
run, and `Run.of_play` makes a run of the team from it, so a run of a concrete team is
checked by evaluation. -/

/-- The turn thread `t`, standing at `p`, takes next in `team`, and the team after it: a change
of the memory, an await whose condition holds, a thread start, or a request of the system
answered as `reply` says. -/
def turnOf (reply : (r : Request μ) → Option r.Answer) (team : Team μ) (t : Nat) :
    Prog μ Unit → Option (Turn μ × Team μ)
  | .pure _ => none
  | .call (.update f) next =>
    some (⟨t, ⟨.update f, f team.memory⟩⟩, ⟨f team.memory, team.threads.set t (next (f team.memory))⟩)
  | .call (.await ready f) next =>
    if ready team.memory then
      some (⟨t, ⟨.await ready f, f team.memory⟩⟩, ⟨f team.memory, team.threads.set t (next (f team.memory))⟩)
    else none
  | .call .startThread next =>
    some (⟨t, ⟨.startThread, false⟩⟩, ⟨team.memory, team.threads.set t (next false) ++ [next true]⟩)
  | .call r next =>
    if r.change?.isNone && !r.startsThread then
      (reply r).map fun x => (⟨t, ⟨r, x⟩⟩, ⟨team.memory, team.threads.set t (next x)⟩)
    else none

/-- The turns the threads of `ts` take in order from `team`, and the team after them, when
each can take its turn. -/
def play (reply : (r : Request μ) → Option r.Answer) (team : Team μ) : List Nat → Option (List (Turn μ) × Team μ)
  | [] => some ([], team)
  | t :: ts =>
    ((team.threads[t]?).bind (turnOf reply team t)).bind fun taken =>
      (play reply taken.2 ts).map fun rest => (taken.1 :: rest.1, rest.2)

/-- Whether thread `t` has returned. -/
def returned (team : Team μ) (t : Nat) : Bool :=
  match team.threads[t]? with
  | some (.pure _) => true
  | _ => false

variable {reply : (r : Request μ) → Option r.Answer}

theorem Step.of_turnOf {t : Nat} {p : Prog μ Unit} (current : first.threads[t]? = some p)
    (taken : turnOf reply first t p = some (turn, last)) : Step first turn last := by
  unfold turnOf at taken
  split at taken
  · cases taken
  · cases taken
    exact .update current
  · split at taken
    · cases taken
      exact .await current ‹_›
    · cases taken
  · cases taken
    exact .spawn current
  · split at taken
    · next plain =>
      obtain ⟨x, -, same⟩ := Option.map_eq_some_iff.1 taken
      cases same
      simp only [Bool.and_eq_true, Option.isNone_iff_eq_none, Bool.not_eq_eq_eq_not, Bool.not_true] at plain
      exact .system current x plain.1 plain.2
    · cases taken

theorem Run.of_play {ts : List Nat} {history : List (Turn μ)}
    (played : play reply first ts = some (history, last)) : Run first history last := by
  induction ts generalizing first history with
  | nil =>
      cases played
      exact .refl _
  | cons t ts inductionHypothesis =>
      obtain ⟨⟨turn, mid⟩, taking, rest⟩ := Option.bind_eq_some_iff.1 played
      obtain ⟨p, current, taken⟩ := Option.bind_eq_some_iff.1 taking
      obtain ⟨⟨later, last'⟩, playedRest, same⟩ := Option.map_eq_some_iff.1 rest
      cases same
      have first_step : Run first [turn] mid := by
        simpa using Run.snoc (.refl first) (Step.of_turnOf current taken)
      simpa using first_step.trans (inductionHypothesis playedRest)

theorem returned_iff {team : Team μ} {t : Nat} : team.returned t = true ↔ team.threads[t]? = some (.pure ()) := by
  unfold returned
  split <;> simp_all

/-- A schedule whose play ends as `ok` asks is a run of the team that ends so. -/
theorem Run.of_play_any (reply : (r : Request μ) → Option r.Answer) (first : Team μ) (ts : List Nat)
    (ok : List (Turn μ) × Team μ → Bool) (played : (play reply first ts).any ok = true) :
    ∃ history last, Run first history last ∧ ok (history, last) = true := by
  obtain ⟨⟨history, last⟩, found, ended⟩ := (Option.any_eq_true _ _).1 played
  exact ⟨history, last, Run.of_play found, ended⟩

end Team

end PseudoTerm.Machine
