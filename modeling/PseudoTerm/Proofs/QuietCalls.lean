import Mathlib
import PseudoTerm.Proofs.Team
import PseudoTerm.Proofs.PairSteps
import PseudoTerm.Session.Batch

/-!
# Requests that keep to themselves

Most requests of the controlling program move the memory forward and leave every watch
alone: the next key never falls, a context that ended stays ended, and a session that is
done stays done (`Memory.Steady`).  Such a request that also starts no thread is `Quiet`.
The clock, the channels and counters, the descriptors, the terminal pair, the handles and
the children make only quiet requests; the lemmas below say so call by call.
-/

namespace PseudoTerm.Control

open PseudoTerm.Machine PseudoTerm.Pty PseudoTerm.Config Prog

namespace Memory

/-- A change that only moves forward: no key is handed out twice, no context that ended
goes on again, and no session that is done runs again. -/
structure Steady (m m' : Memory) : Prop where
  next : m.next ≤ m'.next
  ended : ∀ k c, m.causeOf k = some c → m'.causeOf k = some c
  done : ∀ k, (m.session k).done = true → (m'.session k).done = true

/-- A change that leaves contexts, sessions and watches alone and never lowers the next
key: what most requests of a batch do. -/
def Frames (f : Memory → Memory) : Prop :=
  ∀ m, m.next ≤ (f m).next ∧ (f m).contexts = m.contexts ∧ (f m).sessions = m.sessions ∧
    (f m).watches = m.watches

theorem Frames.steady {f : Memory → Memory} (frames : Frames f) (m : Memory) : Steady m (f m) := by
  obtain ⟨next, contexts, sessions, -⟩ := frames m
  refine ⟨next, fun k c ended => ?_, fun k done => ?_⟩
  · simpa [causeOf, contexts] using ended
  · simpa [session, sessions] using done

end Memory

/-- A request whose change moves the memory forward and alters the record of no watch but
those under `S` or `W` and those it hands out itself. -/
def Within (S W : Set Nat) (r : Request Memory) : Prop :=
  ∀ f, r.change? = some f → ∀ m, Memory.Steady m (f m) ∧
    ∀ k, (f m).watches.get? k ≠ m.watches.get? k → k ∈ S ∨ k ∈ W ∨ (m.next ≤ k ∧ k < (f m).next)

namespace Within

variable {S W : Set Nat} {r : Request Memory}

theorem of_unchanged (unchanged : r.change? = none) : Within S W r := by
  intro f changed
  rw [unchanged] at changed
  cases changed

theorem update {f : Memory → Memory} (frames : Memory.Frames f) : Within S W (.update f) := by
  intro g changed m
  cases changed
  refine ⟨frames.steady m, fun k differs => absurd ?_ differs⟩
  rw [(frames m).2.2.2]

theorem await {ready : Memory → Bool} {f : Memory → Memory} (frames : Memory.Frames f) :
    Within S W (.await ready f) := by
  intro g changed m
  cases changed
  refine ⟨frames.steady m, fun k differs => absurd ?_ differs⟩
  rw [(frames m).2.2.2]

end Within

/-- A request that starts no thread and touches no watch. -/
def Quiet (r : Request Memory) : Prop := Within ∅ ∅ r ∧ r.startsThread = false

namespace Memory

theorem endContext_go (cause : Fault) (fuel : Nat) (ks : List Nat) (m : Memory) :
    endContext.go cause fuel ks m = { m with contexts := (endContext.go cause fuel ks m).contexts } ∧
      ∀ j f, m.causeOf j = some f → (endContext.go cause fuel ks m).causeOf j = some f := by
  induction fuel generalizing ks m with
  | zero => exact ⟨rfl, fun _ _ ended => ended⟩
  | succ fuel inductionHypothesis =>
      cases ks with
      | nil => exact ⟨rfl, fun _ _ ended => ended⟩
      | cons k rest =>
          unfold endContext.go
          split
          · split
            · exact inductionHypothesis rest m
            · next c found going =>
              obtain ⟨same, kept⟩ := inductionHypothesis _ _
              refine ⟨same, fun j f ended => kept j f ?_⟩
              by_cases here : j = k
              · subst here
                have cause : c.cause = some f := by simpa [causeOf, found] using ended
                simp [cause] at going
              · simpa [causeOf, Table.get?_modify_other _ here] using ended
          · exact inductionHypothesis rest m

theorem endContext_frame (m : Memory) (k : Nat) (cause : Fault) :
    m.endContext k cause = { m with contexts := (m.endContext k cause).contexts } :=
  (endContext_go cause _ [k] m).1

end Memory

namespace Quiet

theorem of_unchanged {r : Request Memory} (unchanged : r.change? = none) (plain : r.startsThread = false) :
    Quiet r :=
  ⟨.of_unchanged unchanged, plain⟩

theorem update {f : Memory → Memory} (frames : Memory.Frames f) : Quiet (.update f) :=
  ⟨.update frames, rfl⟩

theorem await {ready : Memory → Bool} {f : Memory → Memory} (frames : Memory.Frames f) :
    Quiet (.await ready f) :=
  ⟨.await frames, rfl⟩

theorem endContext (k : Nat) (cause : Fault) : Quiet (.update (·.endContext k cause)) := by
  refine ⟨fun f changed m => ?_, rfl⟩
  obtain rfl := Option.some.inj changed
  have frame := Memory.endContext_frame m k cause
  refine ⟨⟨?_, (Memory.endContext_go cause _ [k] m).2, fun j done => ?_⟩, fun j moved => ?_⟩
  · dsimp only
    rw [frame]
  · dsimp only
    rw [frame]
    exact done
  · dsimp only at moved
    rw [frame] at moved
    exact absurd rfl moved

theorem of_childRequest {r : Request Memory} (child : ChildRequest r) : Quiet r := by
  refine ⟨fun f changed m => ?_, child.1⟩
  obtain ⟨frame, forward⟩ := child.2 f changed m
  rw [frame]
  exact ⟨⟨forward, fun _ _ ended => ended, fun _ done => done⟩, fun _ moved => absurd rfl moved⟩

end Quiet

/-! ## Quiet calls -/

theorem child_wait_quiet (c : Child) : Only Quiet c.wait :=
  (wait_requests c).mono fun _ request => Quiet.of_childRequest request.1

theorem child_kill_quiet (c : Child) : Only Quiet c.kill :=
  (kill_requests c).mono fun _ request => Quiet.of_childRequest request.1

theorem closeQuietly_quiet (fd : Nat) : Only Quiet (closeQuietly fd) :=
  .call (.of_unchanged rfl rfl) fun _ => .pure _

theorem closeEach_quiet (fds : List Nat) :
    Only Quiet (forIn fds PUnit.unit fun d (_ : PUnit) => do
      closeQuietly d
      return ForInStep.yield PUnit.unit) :=
  Only.forIn fun d _ => Only.bind (closeQuietly_quiet d) fun _ => .pure _

theorem duplicateStandard_go_quiet (fd n : Nat) (made : List Nat) :
    Only Quiet (duplicateStandard.go fd n made) := by
  induction n generalizing made with
  | zero => exact .pure _
  | succ n inductionHypothesis =>
      dsimp only [duplicateStandard.go, Sys.duplicate, Prog.lift, Bind.bind, Prog.bind, Pure.pure]
      refine .call (.of_unchanged rfl rfl) fun answer => ?_
      split
      · exact inductionHypothesis _
      · exact Only.bind (closeEach_quiet made) fun _ => .pure _

theorem readExactly_go_quiet (fd n fuel : Nat) (acc : ByteArray) :
    Only Quiet (readExactly.go fd n fuel acc) := by
  induction fuel generalizing acc with
  | zero => exact .pure _
  | succ fuel inductionHypothesis =>
      dsimp only [readExactly.go, Sys.read, Prog.lift, Bind.bind, Prog.bind, Pure.pure]
      split
      · exact .pure _
      · refine .call (.of_unchanged rfl rfl) fun _ => ?_
        split
        · split
          · exact .pure _
          · exact inductionHypothesis _
        · exact .pure _

theorem awaitStatus_quiet (child : Child) (r : Nat) : Only Quiet (awaitStatus child r) := by
  unfold awaitStatus readExactly
  refine Only.bind (readExactly_go_quiet _ _ _ _) ?_
  rintro ⟨record, problem⟩
  refine Only.bind (closeQuietly_quiet r) fun _ => ?_
  split
  · exact .pure _
  · exact Only.bind (child_kill_quiet child) fun _ => Only.bind (child_wait_quiet child) fun _ => .pure _
  · exact Only.bind (child_wait_quiet child) fun _ => by split <;> exact .pure _

theorem command_start_quiet (c : Command) (inherited : List String) : Only Quiet (c.start inherited) :=
  (start_requests c inherited).mono fun _ request => Quiet.of_childRequest request.1

theorem startWithHelper_quiet (cmd : Command) (helper : String) (inherited : List String) :
    Only Quiet (startWithHelper cmd helper inherited) := by
  unfold startWithHelper
  split
  · exact .pure _
  · dsimp only [Sys.makePipe, Sys.workingDirectory, Prog.lift, Bind.bind, Prog.bind, Pure.pure]
    refine .call (.of_unchanged rfl rfl) fun _ => ?_
    split
    · exact .pure _
    · refine .call (.of_unchanged rfl rfl) fun _ => ?_
      refine Only.bind (command_start_quiet _ _) fun started => ?_
      refine Only.bind (closeQuietly_quiet _) fun _ => ?_
      split
      · exact Only.bind (closeQuietly_quiet _) fun _ => .pure _
      · exact awaitStatus_quiet _ _

theorem startInPlace_quiet (cmd : Command) (inherited : List String) :
    Only Quiet (startInPlace cmd inherited) :=
  Only.bind (command_start_quiet _ _) fun _ => by split <;> exact .pure _

theorem adopt_quiet (fd : Nat) (childPath : String) : Only Quiet (Handle.adopt fd childPath) := by
  dsimp only [Handle.adopt, Sys.setDeadline, Sys.close, create, change, Sys.update, Prog.lift,
    Bind.bind, Prog.bind, Pure.pure]
  refine .call (.of_unchanged rfl rfl) fun reading => ?_
  split
  · refine .call (.of_unchanged rfl rfl) fun writing => ?_
    split
    · exact .call (.of_unchanged rfl rfl) fun _ => .pure _
    · exact .call (.update fun _ => ⟨Nat.le_succ _, rfl, rfl, rfl⟩) fun _ => .pure _
  · exact .call (.of_unchanged rfl rfl) fun _ => .pure _

theorem handle_close_quiet (h : Handle) : Only Quiet h.close := by
  dsimp only [Handle.close, Sys.update, Sys.await, Sys.close, Prog.lift, Bind.bind, Prog.bind,
    Pure.pure]
  refine .call (.update fun _ => ⟨le_refl _, rfl, rfl, rfl⟩) fun m => ?_
  split
  · refine .call (.of_unchanged rfl rfl) fun released => ?_
    split <;> exact .call (.update fun _ => ⟨le_refl _, rfl, rfl, rfl⟩) fun _ => .pure _
  · exact .call (.await fun _ => ⟨le_refl _, rfl, rfl, rfl⟩) fun _ => .pure _

theorem take_quiet (p : Pair) : Only Quiet p.take :=
  .call (.await fun _ => ⟨le_refl _, rfl, rfl, rfl⟩) fun _ => .pure _

theorem pair_resize_quiet (p : Pair) (cols rows : Nat) : Only Quiet (p.resize cols rows) := by
  refine (resize_requests p cols rows).mono fun r asked => ?_
  rcases asked with rfl | rfl | ⟨fd, w, rfl⟩
  · exact .update fun _ => ⟨le_refl _, rfl, rfl, rfl⟩
  · exact .update fun _ => ⟨le_refl _, rfl, rfl, rfl⟩
  · exact .of_unchanged rfl rfl

theorem pair_close_quiet (p : Pair) : Only Quiet p.close := by
  unfold Pair.close
  refine Only.bind (take_quiet p) fun taken => ?_
  dsimp only [Sys.close, Prog.lift, Bind.bind, Prog.bind, Pure.pure]
  split
  · exact .pure _
  · refine .call (.of_unchanged rfl rfl) fun first => .call (.of_unchanged rfl rfl) fun second => ?_
    cases first <;> cases second <;> exact .pure _

theorem startCommand_quiet (cmd : Command) (helper : Option String) (inherited : List String) :
    Only Quiet (startCommand cmd helper inherited) := by
  unfold startCommand
  split
  · split
    · exact startInPlace_quiet _ _
    · exact startWithHelper_quiet _ _ _
  · exact startInPlace_quiet _ _

theorem pair_spawn_quiet (p : Pair) (cmd : Command) (helper : Option String) (inherited : List String) :
    Only Quiet (p.spawn cmd helper inherited) := by
  unfold Pair.spawn
  refine Only.bind (take_quiet p) fun taken => ?_
  have tail (child : Nat) (stdio : List Nat) (result : Except Fault (Handle × Child)) :
      Only Quiet (do
        for d in stdio do closeQuietly d
        closeQuietly child
        return result) :=
    Only.bind (closeEach_quiet stdio) fun _ => Only.bind (closeQuietly_quiet child) fun _ => .pure _
  split
  · exact .pure _
  · refine Only.bind (duplicateStandard_go_quiet _ _ _) fun made => ?_
    split
    · exact Only.bind (closeQuietly_quiet _) fun _ => Only.bind (closeQuietly_quiet _) fun _ => .pure _
    · refine Only.bind (adopt_quiet _ _) fun adopted => ?_
      dsimp only
      split
      · exact Only.bind (.pure _) fun result => tail _ _ result
      · refine Only.bind (startCommand_quiet _ _ _) fun started => ?_
        split
        · exact Only.bind (handle_close_quiet _) fun _ => Only.bind (.pure _) fun result =>
            tail _ _ result
        · exact Only.bind (.pure _) fun result => tail _ _ result

namespace Memory

theorem setPhase_get?_other (m : Memory) {w k : Nat} (p : WatchPhase) (other : k ≠ w) :
    (m.setPhase w p).watches.get? k = m.watches.get? k :=
  Table.get?_modify_other m.watches other fun _ => p

end Memory

end PseudoTerm.Control
