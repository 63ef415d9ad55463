import Mathlib
import PseudoTerm.Proofs.DeadlineRestore

/-!
# Operations under a context

An operation under a context (`Handle.underContext`, hence `Handle.readContext` and
`Handle.writeContext`) answers the context's cause at once when the context has already
ended.  Otherwise it registers a watch whose callback moves the descriptor's deadline into the
past, runs, and stops the watch; when the stop comes too late it waits for the callback and
puts the recorded deadline back.

What it answers is read off its own thread's exchanges (`ContextAnswer`): the operation's
answer, with the context's cause in place of a timeout exactly when the watch's thread took
the callback on before the watch was stopped.  A stop wins over an ended context as long as
the callback was not taken on.  In a team where every other thread sets deadlines, ends contexts or
leaves the deadline alone (`ContextStart`), the descriptor's deadline is the recorded one
once the operation has returned (`ContextStart.deadline_restored`), and the operation never
sets the deadline of the other direction (`Handle.underContext_leaves_other`).
-/

namespace PseudoTerm.Machine

variable {μ : Type}

namespace Team

variable {first mid last : Team μ} {turn : Turn μ}

theorem Run.around
    {before after : List (Turn μ)}
    (run : Run first (before ++ turn :: after) last) :
    ∃ mid mid', Run first before mid ∧ Step mid turn mid' ∧ Run mid' after last := by
  obtain ⟨mid, upTo, rest⟩ := run.split
  obtain ⟨mid', step, later⟩ := rest.cons_inv
  exact ⟨mid, mid', upTo, step, later⟩

/-- A turn that changed the memory was the next request of its thread, and answered what
the change made of the memory. -/
theorem Step.of_updateTurn
    {t : Nat}
    {f : μ → μ}
    {a : μ}
    (step : Step mid ⟨t, ⟨.update f, a⟩⟩ last) :
    (∃ next, mid.threads[t]? = some (.call (.update f) next)) ∧ a = f mid.memory ∧
      last.memory = f mid.memory := by
  obtain ⟨r, next, x, current, answered, -⟩ := step.of_call
  have asked : r = .update f := (congrArg Exchange.request answered).symm
  subst asked
  exact ⟨⟨next, current⟩, step.fits, step.memory⟩

end Team

end PseudoTerm.Machine

namespace PseudoTerm.Control

open PseudoTerm.Machine Prog

@[simp] theorem Memory.causeOf_stopWatch (w j : Nat) (m : Memory) :
    (Memory.stopWatch w m).causeOf j = m.causeOf j := by
  unfold Memory.stopWatch
  split <;> rfl

/-- The exchanges of an operation under a context that found it going on: it looks at the
memory (`m`), makes a watch (`m₁`) and starts the watch's thread, runs (`es₁`), stops the
watch (`m₂`), and goes on (`post`). -/
def watchedExchanges (m m₁ : Memory) (es₁ : List (Exchange Memory)) (m₂ : Memory)
    (post : List (Exchange Memory)) : List (Exchange Memory) :=
  ⟨.update id, m⟩ :: ⟨.update Memory.armWatch, m₁⟩ :: ⟨.startThread, false⟩ ::
    (es₁ ++ ⟨.update (Memory.stopWatch (m₁.next - 1)), m₂⟩ :: post)

/-- How an operation `op` under a context answers `y` after the exchanges `es` of its
thread.  `failed` makes an answer of a context's cause, `timedOut` says which answers of
`op` are timeouts, and `replace` puts a cause in the place of a timeout. -/
inductive ContextAnswer {α : Type} (op : Prog Memory α) (failed : Fault → α) (timedOut : α → Prop)
    (replace : α → Fault → α) : Context → List (Exchange Memory) → α → Prop
  /-- under the background context the operation runs alone -/
  | background {es : List (Exchange Memory)} {x : α} :
      Reaches op es (.pure x) → ContextAnswer op failed timedOut replace .background es x
  /-- a context that had ended when the operation began is answered at once, with its cause -/
  | ended {c : Nat} {m : Memory} {f : Fault} :
      m.causeOf c = some f → ContextAnswer op failed timedOut replace (.shared c) [⟨.update id, m⟩] (failed f)
  /-- the callback was taken on before the watch was stopped, the context having ended with
  `cause`, and the operation timed out: the cause takes the place of the timeout -/
  | replaced {c : Nat} {m m₁ m₂ : Memory} {es₁ post : List (Exchange Memory)} {x : α} {cause : Fault} :
      m.causeOf c = none → Reaches op es₁ (.pure x) → m₂.phaseOf (m₁.next - 1) ≠ .stopped →
      m₂.causeOf c = some cause → timedOut x →
      ContextAnswer op failed timedOut replace (.shared c) (watchedExchanges m m₁ es₁ m₂ post)
        (replace x cause)
  /-- the watch was stopped before its callback was taken on, or the operation did not time
  out: the operation's own answer stands -/
  | kept {c : Nat} {m m₁ m₂ : Memory} {es₁ post : List (Exchange Memory)} {x : α} :
      m.causeOf c = none → Reaches op es₁ (.pure x) → (m₂.phaseOf (m₁.next - 1) = .stopped ∨ ¬ timedOut x) →
      ContextAnswer op failed timedOut replace (.shared c) (watchedExchanges m m₁ es₁ m₂ post) x

/-- The context an operation's watch waits on; the background context makes no watch, and
any key serves for it. -/
def Context.watchKey : Context → Nat
  | .background => 0
  | .shared k => k

theorem Context.keyed_watchKey (ctx : Context) (j : Nat) (shared : ctx = .shared j) : j = ctx.watchKey := by
  rw [shared]
  rfl

namespace Handle

variable {h : Handle} {reading : Bool} {α : Type} {fault : α → Option Fault} {replace : α → Fault → α}
  {op : Prog Memory α} {failed : Fault → α}

/-- A finished run of an operation under context `c`, thread by thread: either the context
had ended and its cause is answered, or the operation ran between the making and the stop of
the watch.  A stopped watch leaves the operation's answer; otherwise a timeout is answered
with the cause the operation finds when it looks at the context again, at the end. -/
theorem underContext_finished
    {c : Nat}
    {es : List (Exchange Memory)}
    {y : α}
    (run : Reaches (h.underContext (.shared c) reading fault replace op failed) es (.pure y)) :
    (∃ m f, es = [⟨.update id, m⟩] ∧ m.causeOf c = some f ∧ y = failed f) ∨
    ∃ m m₁ es₁ x m₂ post, es = watchedExchanges m m₁ es₁ m₂ post ∧ m.causeOf c = none ∧
      Reaches op es₁ (.pure x) ∧
      ((m₂.phaseOf (m₁.next - 1) = .stopped ∨ ∀ f, fault x = some f → f.isTimeout = false) → y = x) ∧
      (m₂.phaseOf (m₁.next - 1) ≠ .stopped → ∀ f, fault x = some f → f.isTimeout = true →
        ∃ pre m', post = pre ++ [⟨.update id, m'⟩] ∧ y = ((m'.causeOf c).map (replace x)).getD x) := by
  dsimp only [Handle.underContext, Context.cause?, inspect, change, Sys.update, Context.afterEnd, create,
    Prog.lift, Bind.bind, Prog.bind, Pure.pure, Sys.spawnThread, Watch.stop, Watch.awaitFired, Handle.withDeadlines,
    Sys.await, Sys.setDeadline] at run
  have bindPure : ∀ {β γ : Type} (b : β) (f : β → Prog Memory γ), (Prog.pure b).bind f = f b :=
    fun _ _ => rfl
  obtain ⟨m, rest, rfl, looked⟩ := reaches_call_pure_iff.mp run
  clear run
  cases ended : m.causeOf c with
  | some f =>
      simp only [ended, reaches_pure_iff, Prog.pure.injEq] at looked
      obtain ⟨rfl, rfl⟩ := looked
      exact .inl ⟨m, f, rfl, ended, rfl⟩
  | none =>
      simp only [ended] at looked
      obtain ⟨m₁, rest, rfl, armed⟩ := reaches_call_pure_iff.mp looked
      clear looked
      obtain ⟨inNew, rest, rfl, started⟩ := reaches_call_pure_iff.mp armed
      clear armed
      cases inNew with
      | true =>
          exfalso
          simp only [if_true] at started
          obtain ⟨es₁, es₂, a, -, watched, -⟩ := reaches_bind_pure_iff.mp started
          obtain ⟨es₃, es₄, b, -, watched', -⟩ := reaches_bind_pure_iff.mp watched
          obtain ⟨es₅, es₆, d, -, -, ending⟩ := reaches_bind_pure_iff.mp watched'
          exact not_reaches_endThread ending
      | false =>
          simp only [Bool.false_eq_true, if_false, bindPure] at started
          obtain ⟨es₁, es₂, x, rfl, opRun, after⟩ := reaches_bind_pure_iff.mp started
          clear started
          obtain ⟨m₂, post, rfl, stopping⟩ := reaches_call_pure_iff.mp after
          clear after
          refine .inr ⟨m, m₁, es₁, x, m₂, post, rfl, ended, opRun, ?_⟩
          by_cases stopped : m₂.phaseOf (m₁.next - 1) = .stopped
          · simp only [stopped, beq_self_eq_true, if_true, bindPure, reaches_pure_iff, Prog.pure.injEq] at stopping
            exact ⟨fun _ => stopping.2, fun live => absurd stopped live⟩
          · -- wait for the callback, put the deadline back, and look at the context again after
            simp only [stopped, beq_iff_eq, if_false, Prog.bind] at stopping
            obtain ⟨m₃, post, rfl, waited⟩ := reaches_call_pure_iff.mp stopping
            clear stopping
            obtain ⟨m₄, post, rfl, locked⟩ := reaches_call_pure_iff.mp waited
            clear waited
            obtain ⟨m₅, post, rfl, read⟩ := reaches_call_pure_iff.mp locked
            clear locked
            obtain ⟨e, post, rfl, applied⟩ := reaches_call_pure_iff.mp read
            clear read
            obtain ⟨m₆, post, rfl, released⟩ := reaches_call_pure_iff.mp applied
            clear applied
            refine ⟨fun kept => ?_, fun _ f failing timeout => ?_⟩
            · rcases kept with stoppedNow | noTimeout
              · exact absurd stoppedNow stopped
              · cases failing : fault x with
                | none =>
                    simp only [failing, reaches_pure_iff, Prog.pure.injEq] at released
                    exact released.2
                | some f =>
                    simp only [failing, noTimeout f failing, Bool.false_eq_true, if_false, reaches_pure_iff,
                      Prog.pure.injEq] at released
                    exact released.2
            · simp only [failing, timeout, if_true] at released
              obtain ⟨m', post, rfl, looked⟩ := reaches_call_pure_iff.mp released
              clear released
              have finished : post = [] ∧ y = ((m'.causeOf c).map (replace x)).getD x := by
                cases looked' : m'.causeOf c <;>
                  simpa only [looked', reaches_pure_iff, Prog.pure.injEq, Option.map_some, Option.map_none,
                    Option.getD_some, Option.getD_none] using looked
              obtain ⟨rfl, answered⟩ := finished
              exact ⟨[_, _, _, _, _], m', rfl, answered⟩

/-- An operation under a context, its callback included, sets the deadline of no direction
but its own, when the operation itself sets none of the other. -/
theorem underContext_leaves_other
    {ctx : Context}
    (apart : Only (fun r => ∀ at?, r ≠ .setDeadline h.fd (!reading) at?) op) :
    Only (fun r => ∀ at?, r ≠ .setDeadline h.fd (!reading) at?)
      (h.underContext ctx reading fault replace op failed) := by
  cases ctx with
  | background =>
      show Only _ (op >>= Prog.pure)
      exact apart.bind fun _ => .pure _
  | shared c =>
      have own : ∀ v at?, (Request.setDeadline h.fd reading v : Request Memory) ≠ .setDeadline h.fd (!reading) at? := by
        intro v at? same
        injection same with _ sameDirection
        cases reading <;> cases sameDirection
      dsimp only [Handle.underContext, Context.cause?, inspect, change, Sys.update, Context.afterEnd, create,
        Prog.lift, Bind.bind, Prog.bind, Pure.pure, Sys.spawnThread, Watch.stop, Watch.awaitFired,
        Handle.withDeadlines, Sys.await, Sys.setDeadline]
      refine .call (fun _ same => (by cases same)) fun m => ?_
      split
      · exact .pure _
      · refine .call (fun _ same => (by cases same)) fun _ => .call (fun _ same => (by cases same)) fun inNew => ?_
        cases inNew with
        | true =>
            have ends : ∀ {β : Type} (g : Unit → Prog Memory β), Only (fun r => ∀ at?, r ≠ .setDeadline h.fd (!reading) at?)
                ((Sys.endThread : Prog Memory Unit).bind g) := by
              intro β g
              unfold Sys.endThread
              exact .call (fun _ same => (by cases same)) fun x => x.elim
            simp only [if_true, Prog.bind_bind]
            dsimp only [Context.watchThread, change, Sys.update, Sys.await, Prog.lift, Prog.bind, Pure.pure]
            refine .call (fun _ same => (by cases same)) fun m' => ?_
            dsimp only [Prog.bind]
            split
            · exact .call (own _) fun _ => .call (fun _ same => (by cases same)) fun _ => ends _
            · exact ends _
        | false =>
            simp only [Bool.false_eq_true, if_false]
            refine apart.bind fun x => .call (fun _ same => (by cases same)) fun m₂ => ?_
            dsimp only [Prog.bind]
            split
            · exact .pure _
            · -- wait for the callback, then put the deadline of this direction back
              refine .call (fun _ same => (by cases same)) fun _ => .call (fun _ same => (by cases same)) fun _ =>
                .call (fun _ same => (by cases same)) fun _ => .call (own _) fun _ => .call (fun _ same => (by cases same)) fun _ => ?_
              split
              · split
                · exact .call (fun _ same => (by cases same)) fun _ => by split <;> exact .pure _
                · exact .pure _
              · exact .pure _

/-- A team about to run an operation under a context in direction `reading` of handle `h`:
thread `o` runs `p` and then ends, every other thread stands idle with the deadline (it sets
deadlines, ends contexts, or makes requests apart from the deadline), the handle is registered
with no close begun and the lock of its deadlines free, and every watch is under a key handed
out. -/
structure ContextStart (h : Handle) (reading : Bool) (o : Nat) (p : Prog Memory α) (first : Team Memory) :
    Prop where
  registered : ∃ st, first.memory.handles.get? h.key = some st ∧ st.closes = 0 ∧ st.deadlinesLocked = false
  keys : ∀ w, (first.memory.watches.get? w).isSome = true → w < first.memory.next
  operation : first.threads[o]? = some (p >>= fun _ => .pure ())
  others : ∀ t q, t ≠ o → first.threads[t]? = some q → ∀ c, h.Keeper reading c .idle q

namespace ContextStart

variable {o : Nat} {ctx : Context} {first last : Team Memory} {history : List (Turn Memory)}

theorem lt {p : Prog Memory α} (start : h.ContextStart reading o p first) : o < first.threads.length :=
  (List.getElem?_eq_some_iff.1 start.operation).1

theorem fits
    (start : h.ContextStart reading o (h.underContext ctx reading fault replace op failed) first)
    (apart : Only (h.DeadlineApart reading) op) :
    ∀ t q, first.threads[t]? = some q → h.Keeper reading ctx.watchKey (if t = o then .ready else .idle) q := by
  intro t q found
  by_cases mine : t = o
  · subst mine
    obtain rfl := Option.some.inj (start.operation.symm.trans found)
    rw [if_pos rfl]
    exact Keeper.underContext_bind ctx.keyed_watchKey apart fun _ => .pure _
  · rw [if_neg mine]
    exact start.others t q mine found _

theorem kept
    (start : h.ContextStart reading o (h.underContext ctx reading fault replace op failed) first)
    (apart : Only (h.DeadlineApart reading) op) :
    h.DeadlinesKept reading ctx.watchKey o (h.recorded reading first.memory) first [] fun t =>
      if t = o then .ready else .idle := by
  obtain ⟨st, registered, unclosed, free⟩ := start.registered
  exact DeadlinesKept.start registered unclosed free start.keys start.lt (start.fits apart)

/-- Once the operation has returned and no setter holds the lock of the deadlines, the
descriptor's deadline is the recorded one. -/
theorem deadline_restored
    (start : h.ContextStart reading o (h.underContext ctx reading fault replace op failed) first)
    (apart : Only (h.DeadlineApart reading) op)
    (run : Team.Run first history last)
    (accepted : ∀ turn ∈ history, turn.exchange.DeadlineAccepted h.fd)
    (returned : last.threads[o]? = some (.pure ()))
    (unlocked : (last.memory.handle h.key).deadlinesLocked = false) :
    deadlineAfter h.fd reading (h.recorded reading first.memory) (history.map Turn.exchange) =
      h.recorded reading last.memory := by
  obtain ⟨st, registered, unclosed, free⟩ := start.registered
  exact DeadlinesKept.deadline_restored registered unclosed free start.keys start.lt (start.fits apart) run accepted
    returned unlocked

/-- The answer of an operation under context `c` that ran to its end in a team: a stop that
came too late found the callback taken on and the context ended, and the context keeps its
cause until the operation looks at it again. -/
theorem answers_shared
    {c : Nat}
    {timedOut : α → Prop}
    (timeout_iff : ∀ x, timedOut x ↔ ∃ f, fault x = some f ∧ f.isTimeout = true)
    (start : h.ContextStart reading o (h.underContext (.shared c) reading fault replace op failed) first)
    (apart : Only (h.DeadlineApart reading) op)
    (run : Team.Run first history last)
    (accepted : ∀ turn ∈ history, turn.exchange.DeadlineAccepted h.fd)
    {y : α}
    (finished : Reaches (h.underContext (.shared c) reading fault replace op failed) (ofThread o history) (.pure y)) :
    ContextAnswer op failed timedOut replace (.shared c) (ofThread o history) y := by
  rcases underContext_finished finished with ⟨m, f, shape, ended, rfl⟩ |
    ⟨m, m₁, es₁, x, m₂, post, shape, going, opRun, kept, replaced⟩
  · rw [shape]
    exact .ended ended
  rw [shape]
  have split : ofThread o history =
      ([_, _, _] ++ es₁) ++ ⟨.update (Memory.stopWatch (m₁.next - 1)), m₂⟩ :: post := shape
  obtain ⟨before, after, rfl, -, own⟩ := ofThread_eq_append_cons split
  obtain ⟨mid, mid', upTo, step, later⟩ := run.around
  obtain ⟨stage, inv⟩ := (start.kept apart).run upTo fun turn member => accepted turn (by simp [member])
  obtain ⟨⟨next, current⟩, answered, moved⟩ := step.of_updateTurn
  by_cases stopped : m₂.phaseOf (m₁.next - 1) = .stopped
  · rw [kept (.inl stopped)]
    exact .kept going opRun (.inl stopped)
  have live : (Memory.stopWatch (m₁.next - 1) mid.memory).phaseOf (m₁.next - 1) ≠ .stopped := by
    rw [← answered]
    exact stopped
  obtain ⟨cause, endedThen⟩ : ∃ cause, mid.memory.causeOf c = some cause :=
    Option.isSome_iff_exists.mp (inv.ended_of_live_stop current live)
  have ended : m₂.causeOf c = some cause := by
    rw [answered, Memory.causeOf_stopWatch, endedThen]
  by_cases timeout : timedOut x
  · obtain ⟨f, failing, isTimeout⟩ := (timeout_iff x).1 timeout
    obtain ⟨pre, m', rfl, answer⟩ := replaced stopped f failing isTimeout
    obtain ⟨between, rest, rfl, -, -⟩ := ofThread_eq_append_cons own
    obtain ⟨seeing, seen, toLook, look, -⟩ := later.around
    obtain ⟨-, found, -⟩ := look.of_updateTurn
    obtain ⟨stage', inv'⟩ := (start.kept apart).run (upTo.snoc step) fun turn member => by
      rcases List.mem_append.1 member with earlier | same
      · exact accepted turn (by simp [earlier])
      · exact accepted turn (by simp [List.mem_singleton.1 same])
    have still : seeing.memory.causeOf c = some cause :=
      inv'.keeps_causes toLook (fun turn member => accepted turn (by simp [member]))
        (by rw [moved, Memory.causeOf_stopWatch, endedThen])
    rw [answer, found, id, still, Option.map_some, Option.getD_some]
    exact .replaced going opRun stopped ended timeout
  · have noTimeout : ∀ f, fault x = some f → f.isTimeout = false := by
      intro f failing
      cases isTimeout : f.isTimeout with
      | false => rfl
      | true => exact absurd ((timeout_iff x).2 ⟨f, failing, isTimeout⟩) timeout
    rw [kept (.inr noTimeout)]
    exact .kept going opRun (.inr timeout)

/-- The thread of an operation under a context that has returned answered what
`ContextAnswer` says, after its own exchanges. -/
theorem answers
    {timedOut : α → Prop}
    (timeout_iff : ∀ x, timedOut x ↔ ∃ f, fault x = some f ∧ f.isTimeout = true)
    (start : h.ContextStart reading o (h.underContext ctx reading fault replace op failed) first)
    (apart : Only (h.DeadlineApart reading) op)
    (run : Team.Run first history last)
    (accepted : ∀ turn ∈ history, turn.exchange.DeadlineAccepted h.fd)
    (returned : last.threads[o]? = some (.pure ())) :
    ∃ y, Reaches (h.underContext ctx reading fault replace op failed) (ofThread o history) (.pure y) ∧
      ContextAnswer op failed timedOut replace ctx (ofThread o history) y := by
  obtain ⟨p, q, begun, ended, ran⟩ := run.reaches start.lt
  obtain rfl := Option.some.inj (begun.symm.trans start.operation)
  obtain rfl := Option.some.inj (ended.symm.trans returned)
  obtain ⟨es, rest, y, split, finished, nothing⟩ := reaches_bind_pure_iff.1 ran
  obtain ⟨rfl, -⟩ := reaches_pure_iff.1 nothing
  rw [List.append_nil] at split
  rw [← split] at finished
  refine ⟨y, finished, ?_⟩
  cases ctx with
  | background =>
      have alone : Reaches (op >>= Prog.pure) (ofThread o history) (.pure y) := finished
      rw [bind_pure] at alone
      exact .background alone
  | shared c => exact answers_shared timeout_iff start apart run accepted finished

end ContextStart

/-- A read or a write under any context, in a team whose other threads set deadlines, end
contexts or leave the deadline alone: once it has returned and no setter holds the lock of the
deadlines, the descriptor's deadline of its direction is the recorded one.  It answered the
context's cause without running when the context had ended; otherwise it answered what the
read or the write answered, with the cause in place of a timeout exactly when the callback
was taken on before the watch was stopped, the bytes a write took kept.  It never sets the
deadline of the other direction. -/
theorem context_operations_restore_deadline :
    (∀ (h : Handle) (ctx : Context) (max o : Nat) (first last : Team Memory) (history : List (Turn Memory)),
      h.ContextStart true o (h.readContext ctx max) first → Team.Run first history last →
      (∀ turn ∈ history, turn.exchange.DeadlineAccepted h.fd) → last.threads[o]? = some (.pure ()) →
      (last.memory.handle h.key).deadlinesLocked = false →
      deadlineAfter h.fd true (h.recorded true first.memory) (history.map Turn.exchange) =
          h.recorded true last.memory ∧
        ∃ y, Reaches (h.readContext ctx max) (ofThread o history) (.pure y) ∧
          ContextAnswer (h.read max) .error (fun x => ∃ f, x = .error f ∧ f.isTimeout = true)
            (fun _ cause => .error cause) ctx (ofThread o history) y) ∧
    (∀ (h : Handle) (ctx : Context) (max : Nat),
      Only (fun r => ∀ at?, r ≠ .setDeadline h.fd false at?) (h.readContext ctx max)) ∧
    (∀ (h : Handle) (ctx : Context) (data : ByteArray) (o : Nat) (first last : Team Memory)
        (history : List (Turn Memory)),
      h.ContextStart false o (h.writeContext ctx data) first → Team.Run first history last →
      (∀ turn ∈ history, turn.exchange.DeadlineAccepted h.fd) → last.threads[o]? = some (.pure ()) →
      (last.memory.handle h.key).deadlinesLocked = false →
      deadlineAfter h.fd false (h.recorded false first.memory) (history.map Turn.exchange) =
          h.recorded false last.memory ∧
        ∃ y, Reaches (h.writeContext ctx data) (ofThread o history) (.pure y) ∧
          ContextAnswer (h.write data) (fun f => (0, some f)) (fun x => ∃ f, x.2 = some f ∧ f.isTimeout = true)
            (fun x cause => (x.1, some cause)) ctx (ofThread o history) y) ∧
    (∀ (h : Handle) (ctx : Context) (data : ByteArray),
      Only (fun r => ∀ at?, r ≠ .setDeadline h.fd true at?) (h.writeContext ctx data)) := by
  refine ⟨fun h ctx max o first last history start run accepted returned unlocked => ?_, fun h ctx max => ?_,
    fun h ctx data o first last history start run accepted returned unlocked => ?_, fun h ctx data => ?_⟩
  · have apart := Keeper.read_apart h true max
    refine ⟨start.deadline_restored apart run accepted returned unlocked,
      start.answers (fun x => ?_) apart run accepted returned⟩
    cases x <;> simp
  · show Only (fun r => ∀ at?, r ≠ .setDeadline h.fd (!true) at?) (h.underContext ctx true _ _ (h.read max) _)
    exact underContext_leaves_other ((Keeper.read_apart h false max).mono fun _ apart => apart.2.1)
  · have apart := Keeper.write_apart h false data
    exact ⟨start.deadline_restored apart run accepted returned unlocked,
      start.answers (fun _ => Iff.rfl) apart run accepted returned⟩
  · show Only (fun r => ∀ at?, r ≠ .setDeadline h.fd (!false) at?) (h.underContext ctx false _ _ (h.write data) _)
    exact underContext_leaves_other ((Keeper.write_apart h true data).mono fun _ apart => apart.2.1)

/-- The handle of descriptor 5, registered under key 2. -/
def watchedHandle : Handle := ⟨5, 2, "/dev/pts/0"⟩

/-- Thread 0 runs `op` under context 1 on `watchedHandle`, thread 1 cancels the context, and
thread 2 sets the deadline of `reading` to `at?`. -/
def contextTeam {α : Type} (op : Prog Memory α) (reading : Bool) (at? : Option Int) : Team Memory :=
  ⟨{ next := 2, contexts := [(1, {})], handles := [(2, {})] },
    [op >>= fun _ => .pure (), Context.cancel (.shared 1) >>= fun _ => .pure (),
      watchedHandle.setDeadline reading at? >>= fun _ => .pure ()]⟩

/-- A kernel whose descriptors never pass a deadline before a try, would block every read
until the deadline, take every byte written, and accept every deadline. -/
def slowReads : (r : Request Memory) → Option r.Answer
  | .deadlinePassed _ _ => some (.ok false)
  | .read _ _ => some (.error Errno.eagain)
  | .awaitReady _ _ => some .timedOut
  | .write _ data => some (.ok data.size)
  | .setDeadline _ _ _ => some (.ok ())
  | _ => none

theorem contextTeam_start {α : Type} {op : Prog Memory α} (reading : Bool) (at? : Option Int) :
    watchedHandle.ContextStart reading 0 op (contextTeam op reading at?) where
  registered := ⟨_, rfl, rfl, rfl⟩
  keys _ present := by cases present
  operation := rfl
  others t q other found c := by
    rcases t with _ | _ | _ | t
    · exact absurd rfl other
    · obtain rfl := Option.some.inj found.symm
      exact Keeper.finish_bind fun _ => .pure _
    · obtain rfl := Option.some.inj found.symm
      exact Keeper.setDeadline_bind fun _ => .pure _
    · simp [contextTeam] at found

/-- A read under context 1 that would block until its deadline, while thread 1 cancels the
context: the watch's callback moves the read deadline into the past, the stop comes too late,
and once the read has returned the descriptor holds again the deadline 7 the setter recorded.
A one-byte write under context 1 that finishes before the cancel stops its watch in time, and
the write deadline stays the setter's 9. -/
theorem context_read_puts_deadline_back :
    (∃ history last, Team.Run (contextTeam (watchedHandle.readContext (.shared 1) 16) true (some 7)) history last ∧
      last.returned 0 ∧ last.returned 1 ∧ last.returned 2 ∧
      (∃ e ∈ ofThread 3 history, e.deadlineSet? 5 true = some (some 0)) ∧
      deadlineAfter 5 true none (history.map Turn.exchange) = some 7 ∧
      ∃ y, Reaches (watchedHandle.readContext (.shared 1) 16) (ofThread 0 history) (.pure y) ∧
        ContextAnswer (watchedHandle.read 16) .error (fun x => ∃ f, x = .error f ∧ f.isTimeout = true)
          (fun _ cause => .error cause) (.shared 1) (ofThread 0 history) y) ∧
    (∃ history last, Team.Run (contextTeam (watchedHandle.writeContext (.shared 1) ⟨#[1]⟩) false (some 9)) history last ∧
      last.returned 0 ∧ last.returned 1 ∧ last.returned 2 ∧
      deadlineAfter 5 false none (history.map Turn.exchange) = some 9 ∧
      ∃ y, Reaches (watchedHandle.writeContext (.shared 1) ⟨#[1]⟩) (ofThread 0 history) (.pure y) ∧
        ContextAnswer (watchedHandle.write ⟨#[1]⟩) (fun f => (0, some f)) (fun x => ∃ f, x.2 = some f ∧ f.isTimeout = true)
          (fun x cause => (x.1, some cause)) (.shared 1) (ofThread 0 history) y) := by
  refine ⟨?_, ?_⟩
  · obtain ⟨history, last, run, ok⟩ := Team.Run.of_play_any slowReads
      (contextTeam (watchedHandle.readContext (.shared 1) 16) true (some 7))
      [2, 2, 2, 2, 2, 0, 0, 0, 0, 0, 0, 0, 0, 0, 1, 3, 3, 3, 0, 0, 0, 0, 0, 0, 0]
      (fun r => r.2.returned 0 && r.2.returned 1 && r.2.returned 2 && !(r.2.memory.handle 2).deadlinesLocked &&
        decide (∀ u ∈ r.1, u.exchange.DeadlineAccepted 5) &&
        (ofThread 3 r.1).any (·.deadlineSet? 5 true == some (some 0)) &&
        watchedHandle.recorded true r.2.memory == some 7) (by decide +kernel)
    simp only [Bool.and_eq_true, Bool.not_eq_true', decide_eq_true_eq, List.any_eq_true, beq_iff_eq] at ok
    obtain ⟨⟨⟨⟨⟨⟨returned, ended⟩, set⟩, unlocked⟩, accepted⟩, called⟩, recorded⟩ := ok
    obtain ⟨restored, answered⟩ := context_operations_restore_deadline.1 _ _ _ _ _ _ _
      (contextTeam_start true (some 7)) run accepted (Team.returned_iff.1 returned) unlocked
    exact ⟨history, last, run, returned, ended, set, called, restored.trans recorded, answered⟩
  · obtain ⟨history, last, run, ok⟩ := Team.Run.of_play_any slowReads
      (contextTeam (watchedHandle.writeContext (.shared 1) ⟨#[1]⟩) false (some 9))
      [2, 2, 2, 2, 2, 0, 0, 0, 0, 0, 0, 0, 0, 1, 3]
      (fun r => r.2.returned 0 && r.2.returned 1 && r.2.returned 2 && !(r.2.memory.handle 2).deadlinesLocked &&
        decide (∀ u ∈ r.1, u.exchange.DeadlineAccepted 5) &&
        watchedHandle.recorded false r.2.memory == some 9) (by decide +kernel)
    simp only [Bool.and_eq_true, Bool.not_eq_true', decide_eq_true_eq, beq_iff_eq] at ok
    obtain ⟨⟨⟨⟨⟨returned, ended⟩, set⟩, unlocked⟩, accepted⟩, recorded⟩ := ok
    obtain ⟨restored, answered⟩ := context_operations_restore_deadline.2.2.1 _ _ _ _ _ _ _
      (contextTeam_start false (some 9)) run accepted (Team.returned_iff.1 returned) unlocked
    exact ⟨history, last, run, returned, ended, set, restored.trans recorded, answered⟩

end Handle

end PseudoTerm.Control
