import PseudoTerm.Proofs.PairRuns
import PseudoTerm.Proofs.TerminalWrites

namespace PseudoTerm.Control

/-- Store a new pair holding the descriptors `parent` and `child` under the next key. -/
def Memory.recordPair (parent child : Nat) (m : Memory) : Memory :=
  { m.take with pairs := m.take.pairs.insert m.next { parent, child } }

/-- What a take of pair `k` answered with memory `m` hands over: both descriptors when the
take was the first ask for them, and nothing otherwise. -/
def Memory.handedOver (k : Nat) (m : Memory) : Option (Nat × Nat) :=
  (m.pairs.get? k).bind fun s => if s.takes == 1 then some (s.parent, s.child) else none

/-- Make a terminal handle under the next key, as taking over a parent side does. -/
def Memory.recordHandle (m : Memory) : Memory :=
  { m.take with handles := m.take.handles.insert m.next {} }

end PseudoTerm.Control

namespace PseudoTerm.Pty

/-!
# The descriptors a finished call on a pair accounts for

A `Ledger` balances the descriptors of one finished call: every descriptor it took over
(`taken`) or was handed by an answer for its own use (`Exchange.made`) is closed as often as
it was taken or made, except those it hands on to its caller (`kept`); beyond these it
closes only handles of children it waited for (`waited`).  The balance is one equation of
counts per descriptor, so ledgers of the parts of a call add up to the ledger of the call
(`Ledger.append`), and a descriptor one part hands on and a later part takes over drops out
of the sum.

Each part of allocating and starting is balanced here: the duplicates of the child device,
the handle of the parent side, a start in place or through the setup helper, the first
close of a handle.  A close or start on a pair then balances the two descriptors it took,
keeping only the parent side that a started program's terminal owns
(`Pair.close_balanced`, `Pair.spawn_balanced`), and allocating balances what it opened,
keeping both descriptors of the pair it makes (`allocate_balanced`).
-/

open PseudoTerm.Machine Prog PseudoTerm.Control

/-- A finished run closed every descriptor of `taken` and every one its answers handed out
as often as it was taken or handed out, except those of `kept`, and otherwise only the
descriptors of `waited`. -/
def Ledger (taken kept waited : List Nat) (es : List (Exchange Memory)) : Prop :=
  ∀ d, closeCount d es + kept.count d = taken.count d + (es.flatMap Exchange.made).count d + waited.count d

/-- In the exchanges of a thread, a close begun on a handle the thread made, with only
bystanders since, is the handle's first close. -/
def FirstCloseOfMade (es : List (Exchange Memory)) : Prop :=
  ∀ before made between m after,
    es = before ++ ⟨.update Memory.recordHandle, made⟩ ::
      (between ++ ⟨.update (Memory.beginClose (made.next - 1)), m⟩ :: after) →
    (∀ e ∈ between, Bystander e.request) → (m.handle (made.next - 1)).closes = 1

namespace Ledger

variable {taken kept waited taken' kept' waited' : List Nat} {es es' : List (Exchange Memory)}

theorem nil : Ledger [] [] [] [] := fun _ => rfl

theorem append (first : Ledger taken kept waited es) (second : Ledger taken' kept' waited' es') :
    Ledger (taken ++ taken') (kept ++ kept') (waited ++ waited') (es ++ es') := by
  intro d
  have := first d
  have := second d
  simp only [closeCount_append, List.flatMap_append, List.count_append]
  omega

theorem recount
    (ledger : Ledger taken kept waited es)
    (same : ∀ d, taken.count d + kept'.count d + waited.count d = taken'.count d + kept.count d + waited'.count d) :
    Ledger taken' kept' waited' es := by
  intro d
  have := ledger d
  have := same d
  omega

theorem of_closesWithin
    {α : Type}
    {p q : Prog Memory α}
    (only : Only (ClosesWithin []) p)
    (run : Reaches p es q) :
    Ledger [] [] [] es := by
  obtain ⟨none, empty⟩ := ClosesWithin.run only run
  intro d
  simp [none d List.not_mem_nil, empty]

/-- An exchange that closes nothing balances the descriptors its answer hands out by handing
them on. -/
theorem quiet {e : Exchange Memory} (unclosed : ∀ d, e.closes d = false) : Ledger [] e.made [] [e] := by
  intro d
  simp [closeCount, unclosed]

theorem closeQuietly {fd : Nat} {u : Unit} (run : Reaches (Pty.closeQuietly fd) es (.pure u)) :
    Ledger [fd] [] [] es := by
  obtain ⟨answer, rfl⟩ := closeQuietly_finished run
  intro d
  by_cases same : fd = d <;> simp [same, closeCount, Exchange.closes, Exchange.made]

theorem closeEach
    {fds : List Nat}
    {u : PUnit}
    (run : Reaches (forIn fds PUnit.unit fun d (_ : PUnit) => do
      Pty.closeQuietly d
      return ForInStep.yield PUnit.unit) es (.pure u)) :
    Ledger fds [] [] es := by
  obtain ⟨counted, empty⟩ := closeEach_finished run
  intro d
  simp [counted d, empty]

end Ledger

/-- Duplicating a descriptor balances the duplicates made before: once all are made they
are handed on, and on a failure every one is closed again. -/
theorem duplicateStandard_go_balanced
    {fd n : Nat}
    {made : List Nat}
    {es : List (Exchange Memory)}
    {r : Except Fault (List Nat)}
    (run : Reaches (duplicateStandard.go fd n made) es (.pure r)) :
    Ledger made (r.toOption.getD []) [] es := by
  induction n generalizing made es with
  | zero =>
      obtain ⟨rfl, same⟩ := reaches_pure_iff.mp run
      cases same
      exact Ledger.nil.recount fun d => by simp [Except.toOption]
  | succ n inductionHypothesis =>
      dsimp only [duplicateStandard.go, Sys.duplicate] at run
      obtain ⟨answer, rest, rfl, later⟩ := reaches_lift_bind_pure_iff.mp run
      have asked := Ledger.quiet (e := ⟨.duplicate fd 0 true, answer⟩) fun _ => rfl
      rw [← List.singleton_append]
      cases answer with
      | ok dup =>
          have remaining := inductionHypothesis later
          exact (asked.append remaining).recount fun d => by
            simp only [Exchange.made, List.count_append, List.nil_append]
            omega
      | error e =>
          obtain ⟨closing, final, u, rfl, closed, finished⟩ := reaches_bind_pure_iff.mp later
          obtain ⟨rfl, same⟩ := reaches_pure_iff.mp finished
          cases same
          exact (asked.append ((Ledger.closeEach closed).append Ledger.nil)).recount fun d => by
            simp [Exchange.made, Except.toOption]

theorem adopt_refused_balanced
    {fd : Nat}
    {es : List (Exchange Memory)}
    {r : Except Fault Handle}
    (run : Reaches (do
      let _ ← Prog.lift (μ := Memory) (.close fd)
      (Pure.pure (Except.error Handle.noDeadline) : Prog Memory (Except Fault Handle))) es (.pure r)) :
    Ledger [fd] [] [] es ∧ r = .error Handle.noDeadline := by
  obtain ⟨answer, rest, rfl, finished⟩ := reaches_lift_bind_pure_iff.mp run
  obtain ⟨rfl, same⟩ := reaches_pure_iff.mp finished
  refine ⟨fun d => ?_, Prog.pure.inj same⟩
  by_cases here : fd = d <;> simp [here, closeCount, Exchange.closes, Exchange.made]

/-- Taking over the parent side balances it: the handle made keeps it, and a descriptor
that cannot be registered is closed. -/
theorem adopt_balanced
    {fd : Nat}
    {path : String}
    {es : List (Exchange Memory)}
    {r : Except Fault Handle}
    (run : Reaches (Handle.adopt fd path) es (.pure r)) :
    Ledger [fd] (if r.isOk then [fd] else []) [] es ∧ ∀ h, r = .ok h → h.fd = fd ∧
      ∃ before made, es = before ++ [⟨.update Memory.recordHandle, made⟩] ∧ h.key = made.next - 1 := by
  dsimp only [Handle.adopt, Sys.setDeadline, Sys.close] at run
  obtain ⟨first, rest, rfl, later⟩ := reaches_lift_bind_pure_iff.mp run
  have asked := Ledger.quiet (e := ⟨.setDeadline fd true none, first⟩) fun _ => rfl
  have refused : ∀ {es : List (Exchange Memory)}, Ledger [fd] [] [] es → r = .error Handle.noDeadline →
      Ledger [fd] (if r.isOk then [fd] else []) [] es ∧ ∀ h, r = .ok h → h.fd = fd ∧
        ∃ before made, es = before ++ [⟨.update Memory.recordHandle, made⟩] ∧ h.key = made.next - 1 := by
    rintro es closed rfl
    exact ⟨closed, by simp⟩
  split at later
  · obtain ⟨second, more, rfl, final⟩ := reaches_lift_bind_pure_iff.mp later
    have askedAgain := Ledger.quiet (e := ⟨.setDeadline fd false none, second⟩) fun _ => rfl
    cases second with
    | error e =>
        obtain ⟨closed, rfl⟩ := adopt_refused_balanced final
        have whole := asked.append (askedAgain.append closed)
        exact refused (whole.recount fun d => by simp [Exchange.made]) rfl
    | ok u =>
        dsimp only [create, change, Sys.update] at final
        obtain ⟨m, finish, rfl, finished⟩ := reaches_lift_bind_pure_iff.mp final
        obtain ⟨rfl, same⟩ := reaches_pure_iff.mp finished
        cases same
        have made := Ledger.quiet (e := ⟨.update fun m => _, m⟩) fun _ => rfl
        have whole := asked.append (askedAgain.append made)
        exact ⟨whole.recount fun d => by simp [Exchange.made, Except.isOk, Except.toBool],
          fun h same => by cases same; exact ⟨rfl, [_, _], m, rfl, rfl⟩⟩
  · dsimp only [Pure.pure, Bind.bind, Prog.bind] at later
    obtain ⟨closed, rfl⟩ := adopt_refused_balanced later
    exact refused ((asked.append closed).recount fun d => by simp [Exchange.made]) rfl

theorem wait_balanced
    {c : Child}
    {es : List (Exchange Memory)}
    {x : Except Fault ExitStatus}
    (run : Reaches c.wait es (.pure x)) :
    ∃ waited, waited.Subperm [c.handle] ∧ Ledger [] [] waited es := by
  dsimp only [Child.wait, Child.collected, inspect, change, Sys.update, Sys.wait, Sys.close] at run
  obtain ⟨looking, rest, collected, rfl, look, later⟩ := reaches_bind_pure_iff.mp run
  obtain ⟨m, none, rfl, finished⟩ := reaches_lift_bind_pure_iff.mp look
  obtain ⟨rfl, -⟩ := reaches_pure_iff.mp finished
  have looked := Ledger.quiet (e := ⟨.update id, m⟩) fun _ => rfl
  split at later
  · obtain ⟨rfl, -⟩ := reaches_pure_iff.mp later
    exact ⟨[], List.nil_subperm, looked.append Ledger.nil⟩
  · obtain ⟨answer, more, rfl, final⟩ := reaches_lift_bind_pure_iff.mp later
    have asked := Ledger.quiet (e := ⟨.wait (.child c.pid) false, answer⟩) fun _ => rfl
    split at final
    · -- the child ended: its handle is closed once
      obtain ⟨closing, recording, u, rfl, closed, recorded⟩ := reaches_bind_pure_iff.mp final
      obtain ⟨closeAnswer, none, rfl, finished⟩ := reaches_lift_bind_pure_iff.mp closed
      obtain ⟨rfl, -⟩ := reaches_pure_iff.mp finished
      obtain ⟨marking, last, v, rfl, marked, done⟩ := reaches_bind_pure_iff.mp recorded
      obtain ⟨m', none, rfl, finished⟩ := reaches_lift_bind_pure_iff.mp marked
      obtain ⟨rfl, -⟩ := reaches_pure_iff.mp finished
      obtain ⟨rfl, -⟩ := reaches_pure_iff.mp done
      refine ⟨[c.handle], List.Subperm.refl _, fun d => ?_⟩
      by_cases same : c.handle = d <;> simp [same, closeCount, Exchange.closes, Exchange.made]
    all_goals
      obtain ⟨rfl, -⟩ := reaches_pure_iff.mp final
      exact ⟨[], List.nil_subperm, (looked.append (asked.append Ledger.nil)).recount fun d => by
        simp [Exchange.made]⟩

theorem launchIn_launched
    {c : Command}
    {env : List String}
    {es : List (Exchange Memory)}
    {child : Child}
    (run : Reaches (c.launchIn env) es (.pure (.ok child))) :
    es.flatMap Exchange.launched = [child.handle] := by
  dsimp only [Command.launchIn, Sys.launch, create, change, Sys.update] at run
  split at run
  · cases (reaches_pure_iff.mp run).2
  · obtain ⟨answer, rest, rfl, later⟩ := reaches_lift_bind_pure_iff.mp run
    split at later
    · cases (reaches_pure_iff.mp later).2
    · obtain ⟨making, final, key, rfl, made, finished⟩ := reaches_bind_pure_iff.mp later
      obtain ⟨m, none, rfl, stored⟩ := reaches_lift_bind_pure_iff.mp made
      obtain ⟨rfl, -⟩ := reaches_pure_iff.mp stored
      obtain ⟨rfl, same⟩ := reaches_pure_iff.mp finished
      cases same
      simp [Exchange.launched]

theorem start_launched
    {c : Command}
    {inherited : List String}
    {es : List (Exchange Memory)}
    {child : Child}
    (run : Reaches (c.start inherited) es (.pure (.ok child))) :
    es.flatMap Exchange.launched = [child.handle] := by
  dsimp only [Command.start, Sys.workingDirectory, Sys.status] at run
  split at run
  · cases (reaches_pure_iff.mp run).2
  split at run
  · cases (reaches_pure_iff.mp run).2
  obtain ⟨cwd, rest, rfl, later⟩ := reaches_lift_bind_pure_iff.mp run
  split at later
  · cases (reaches_pure_iff.mp later).2
  split at later
  · obtain ⟨st, more, rfl, final⟩ := reaches_lift_bind_pure_iff.mp later
    split at final
    · cases (reaches_pure_iff.mp final).2
    · simpa [Exchange.launched] using launchIn_launched final
  · simpa [Exchange.launched] using launchIn_launched later

/-- Waiting for the helper's report balances the reading end of the status pipe, and closes
otherwise at most the helper's handle, when the helper is collected. -/
theorem awaitStatus_balanced
    {child : Child}
    {r : Nat}
    {es : List (Exchange Memory)}
    {x : Except Fault Child}
    (run : Reaches (awaitStatus child r) es (.pure x)) :
    ∃ waited, waited.Subperm [child.handle] ∧ Ledger [r] [] waited es := by
  unfold awaitStatus readExactly at run
  obtain ⟨reading, rest, report, rfl, read, later⟩ := reaches_bind_pure_iff.mp run
  have quietRead := Ledger.of_closesWithin (readExactly_go_closesWithin _ _ _ _) read
  obtain ⟨closing, final, u, rfl, closed, decided⟩ := reaches_bind_pure_iff.mp later
  have closedRead := Ledger.closeQuietly closed
  have remaining : ∃ waited, waited.Subperm [child.handle] ∧ Ledger [] [] waited final := by
    split at decided
    · obtain ⟨rfl, -⟩ := reaches_pure_iff.mp decided
      exact ⟨[], List.nil_subperm, Ledger.nil⟩
    · obtain ⟨killing, waitingAll, k, rfl, killed, afterKill⟩ := reaches_bind_pure_iff.mp decided
      obtain ⟨waiting, none, w, rfl, waited, finished⟩ := reaches_bind_pure_iff.mp afterKill
      obtain ⟨rfl, -⟩ := reaches_pure_iff.mp finished
      obtain ⟨handles, within, ledger⟩ := wait_balanced waited
      exact ⟨handles, within, ((Ledger.of_closesWithin (kill_closesWithin child) killed).append
        (ledger.append Ledger.nil)).recount fun d => by simp⟩
    · obtain ⟨waiting, none, w, rfl, waited, finished⟩ := reaches_bind_pure_iff.mp decided
      have ended : none = [] := by
        split at finished <;> exact (reaches_pure_iff.mp finished).1
      subst ended
      obtain ⟨handles, within, ledger⟩ := wait_balanced waited
      exact ⟨handles, within, ledger.append Ledger.nil |>.recount fun d => by simp⟩
  obtain ⟨waited, within, ledger⟩ := remaining
  exact ⟨waited, within, (quietRead.append (closedRead.append ledger)).recount fun d => by simp⟩

/-- A start through the setup helper balances both ends of its status pipe, and closes
otherwise at most the handle of the helper it started. -/
theorem startWithHelper_balanced
    {cmd : Command}
    {helper : String}
    {inherited : List String}
    {es : List (Exchange Memory)}
    {x : Except Fault Child}
    (run : Reaches (startWithHelper cmd helper inherited) es (.pure x)) :
    ∃ waited, waited.Subperm (es.flatMap Exchange.launched) ∧ Ledger [] [] waited es := by
  dsimp only [startWithHelper, Sys.makePipe, Sys.workingDirectory] at run
  split at run
  · obtain ⟨rfl, -⟩ := reaches_pure_iff.mp run
    exact ⟨[], List.nil_subperm, Ledger.nil⟩
  obtain ⟨pipe, rest, rfl, later⟩ := reaches_lift_bind_pure_iff.mp run
  have piped := Ledger.quiet (e := ⟨.makePipe true, pipe⟩) fun _ => rfl
  rcases pipe with e | ⟨r, w⟩
  · obtain ⟨rfl, -⟩ := reaches_pure_iff.mp later
    exact ⟨[], List.nil_subperm, (piped.append Ledger.nil).recount fun d => by simp [Exchange.made]⟩
  dsimp only at later
  obtain ⟨cwd, afterCwd, rfl, started⟩ := reaches_lift_bind_pure_iff.mp later
  have asked := Ledger.quiet (e := ⟨.workingDirectory, cwd⟩) fun _ => rfl
  obtain ⟨starting, afterStart, result, rfl, start, closing⟩ := reaches_bind_pure_iff.mp started
  have quietStart := Ledger.of_closesWithin (start_closesWithin _ _) start
  obtain ⟨closingW, final, u, rfl, closedW, decided⟩ := reaches_bind_pure_iff.mp closing
  have closedWrite := Ledger.closeQuietly closedW
  have balance : ∀ {waited : List Nat} {es : List (Exchange Memory)}, Ledger [r] [] waited es →
      Ledger [] [] waited (⟨.makePipe true, .ok (r, w)⟩ :: ⟨.workingDirectory, cwd⟩ ::
        (starting ++ closingW ++ es)) := by
    intro waited es closedRead
    have whole := piped.append (asked.append (quietStart.append (closedWrite.append closedRead)))
    simp only [List.singleton_append, ← List.append_assoc] at whole
    exact whole.recount fun d => by simp [Exchange.made, List.count_cons]; omega
  split at decided
  · obtain ⟨closingR, none, v, rfl, closedR, finished⟩ := reaches_bind_pure_iff.mp decided
    obtain ⟨rfl, -⟩ := reaches_pure_iff.mp finished
    exact ⟨[], List.nil_subperm, by simpa using balance ((Ledger.closeQuietly closedR).append Ledger.nil)⟩
  · rename_i child
    obtain ⟨waited, within, ledger⟩ := awaitStatus_balanced decided
    refine ⟨waited, within.trans ?_, by simpa using balance ledger⟩
    have launched := start_launched start
    simp [Exchange.launched, launched]

theorem startInPlace_balanced
    {cmd : Command}
    {inherited : List String}
    {es : List (Exchange Memory)}
    {x : Except Fault Child}
    (run : Reaches (startInPlace cmd inherited) es (.pure x)) :
    Ledger [] [] [] es :=
  Ledger.of_closesWithin (Only.bind (start_closesWithin _ _) fun _ => by split <;> exact .pure _) run

end PseudoTerm.Pty

namespace PseudoTerm.Control.Handle

open PseudoTerm.Machine Prog

/-- A close of a handle begins with one more close counted: the first close releases the
descriptor and records what that answered, and every other waits until that is recorded and
answers it. -/
theorem close_finished
    {h : Handle}
    {es : List (Exchange Memory)}
    {x : Except Fault Unit}
    (run : Reaches h.close es (.pure x)) :
    ∃ m rest, es = ⟨.update (Memory.beginClose h.key), m⟩ :: rest ∧
      ((m.handle h.key).closes = 1 → ∃ answer m', rest = [⟨.close h.fd, answer⟩,
        ⟨.update (Memory.finishClose h.key x), m'⟩]) ∧
      ((m.handle h.key).closes ≠ 1 → ∃ m', rest = [⟨.await (fun m => (m.handle h.key).closeResult.isSome) id, m'⟩] ∧
        x = (m'.handle h.key).closeResult.getD (.ok ())) := by
  dsimp only [Handle.close, Sys.update, Sys.close, Sys.await] at run
  obtain ⟨m, rest, rfl, later⟩ := reaches_lift_bind_pure_iff.mp run
  refine ⟨m, rest, rfl, fun first => ?_, fun other => ?_⟩
  · rw [if_pos (by simpa using first)] at later
    obtain ⟨answer, more, rfl, final⟩ := reaches_lift_bind_pure_iff.mp later
    refine ⟨answer, ?_⟩
    have recorded : ∀ {result : Except Fault Unit} {es : List (Exchange Memory)},
        Reaches (do
          let _ ← Prog.lift (μ := Memory) (.update (Memory.finishClose h.key result))
          (Pure.pure result : Prog Memory (Except Fault Unit))) es (.pure x) →
          ∃ m', es = [⟨.update (Memory.finishClose h.key x), m'⟩] := by
      intro result es finishing
      obtain ⟨m', none, rfl, finished⟩ := reaches_lift_bind_pure_iff.mp finishing
      obtain ⟨rfl, same⟩ := reaches_pure_iff.mp finished
      cases same
      exact ⟨m', rfl⟩
    cases answer with
    | ok u =>
        obtain ⟨m', rfl⟩ := recorded final
        exact ⟨m', rfl⟩
    | error e =>
        obtain ⟨m', rfl⟩ := recorded final
        exact ⟨m', rfl⟩
  · rw [if_neg (by simpa using other)] at later
    obtain ⟨m', none, rfl, finished⟩ := reaches_lift_bind_pure_iff.mp later
    obtain ⟨rfl, same⟩ := reaches_pure_iff.mp finished
    exact ⟨m', rfl, Prog.pure.inj same⟩

theorem close_balanced
    {h : Handle}
    {es : List (Exchange Memory)}
    {x : Except Fault Unit}
    (run : Reaches h.close es (.pure x))
    (first : ∀ m rest, es = ⟨.update (Memory.beginClose h.key), m⟩ :: rest → (m.handle h.key).closes = 1) :
    Pty.Ledger [h.fd] [] [] es := by
  obtain ⟨m, rest, rfl, released, -⟩ := close_finished run
  obtain ⟨answer, m', rfl⟩ := released (first m rest rfl)
  intro d
  by_cases same : h.fd = d <;> simp [same, closeCount, Exchange.closes, Exchange.made]

end PseudoTerm.Control.Handle

namespace PseudoTerm.Pty

open PseudoTerm.Machine Prog PseudoTerm.Control

namespace Pair

theorem take_finished
    {p : Pair}
    {es : List (Exchange Memory)}
    {taken : Option (Nat × Nat)}
    (run : Reaches p.take es (.pure taken)) :
    ∃ m, es = [⟨.await (Memory.pairFree p.key) (Memory.claimPair p.key), m⟩] ∧
      taken = Memory.handedOver p.key m := by
  obtain ⟨m, rest, rfl, finished⟩ := reaches_lift_bind_pure_iff.mp run
  obtain ⟨rfl, same⟩ := reaches_pure_iff.mp finished
  exact ⟨m, rfl, Prog.pure.inj same⟩

/-- Closing a pair asks for its descriptors: when they are handed over it closes each once,
and otherwise it answers at once without closing anything. -/
theorem close_balanced
    {p : Pair}
    {es : List (Exchange Memory)}
    {x : Except Fault Unit}
    (run : Reaches p.close es (.pure x)) :
    ∃ m rest, es = ⟨.await (Memory.pairFree p.key) (Memory.claimPair p.key), m⟩ :: rest ∧
      (Memory.handedOver p.key m = none → rest = [] ∧ x = .ok ()) ∧
      ∀ parent child, Memory.handedOver p.key m = some (parent, child) → Ledger [parent, child] [] [] es := by
  unfold Pair.close at run
  obtain ⟨taking, rest, taken, rfl, take, later⟩ := reaches_bind_pure_iff.mp run
  obtain ⟨m, rfl, rfl⟩ := take_finished take
  refine ⟨m, rest, rfl, fun none => ?_, fun parent child handed => ?_⟩
  · rw [none] at later
    obtain ⟨rfl, same⟩ := reaches_pure_iff.mp later
    exact ⟨rfl, Prog.pure.inj same⟩
  · rw [handed] at later
    dsimp only [Sys.close] at later
    obtain ⟨first, more, rfl, closedChild⟩ := reaches_lift_bind_pure_iff.mp later
    obtain ⟨second, none, rfl, finished⟩ := reaches_lift_bind_pure_iff.mp closedChild
    have ended : none = [] := by
      cases first <;> cases second <;> exact (reaches_pure_iff.mp finished).1
    subst ended
    intro d
    by_cases parentHere : parent = d <;> by_cases childHere : child = d <;>
      simp [parentHere, childHere, closeCount, Exchange.closes, Exchange.made]

theorem resize_closesWithin (p : Pair) (cols rows : Nat) : Only (ClosesWithin []) (p.resize cols rows) :=
  (resize_requests p cols rows).mono fun _ asked => by
    rcases asked with rfl | rfl | ⟨fd, w, rfl⟩ <;> exact closesWithin_of_quiet (fun _ _ => rfl) fun _ => rfl

/-- Resizing a pair closes nothing, and one that begins once the descriptors were asked for
fails with the consumed-pair fault. -/
theorem resize_balanced
    {p : Pair}
    {cols rows : Nat}
    {es : List (Exchange Memory)}
    {x : Except Fault Unit}
    (run : Reaches (p.resize cols rows) es (.pure x)) :
    Ledger [] [] [] es ∧ ∃ m rest, es = ⟨.update (Memory.beginResize p.key), m⟩ :: rest ∧
      (Memory.asks p.key m ≠ some 0 → x = .error (.resize .pairConsumed)) := by
  refine ⟨Ledger.of_closesWithin (resize_closesWithin p cols rows) run, ?_⟩
  dsimp only [Pair.resize, Sys.update] at run
  obtain ⟨m, rest, rfl, later⟩ := reaches_lift_bind_pure_iff.mp run
  refine ⟨m, rest, rfl, fun asked => ?_⟩
  have consumed : (m.pairs.get? p.key).filter (·.takes == 0) = none := by
    cases found : m.pairs.get? p.key with
    | none => rfl
    | some s =>
        have : s.takes ≠ 0 := fun zero => asked (by simp [Memory.asks, found, zero])
        simp [Option.filter, this]
  rw [consumed] at later
  exact Prog.pure.inj (reaches_pure_iff.mp later).2

theorem spawn_tail_balanced
    {α : Type}
    {stdio : List Nat}
    {child : Nat}
    {result x : α}
    {es : List (Exchange Memory)}
    (run : Reaches (do
      forIn stdio PUnit.unit fun d (_ : PUnit) => do
        closeQuietly d
        return ForInStep.yield PUnit.unit
      closeQuietly child
      (Pure.pure result : Prog Memory α)) es (.pure x)) :
    x = result ∧ Ledger (stdio ++ [child]) [] [] es := by
  obtain ⟨closingAll, rest, u, rfl, closedAll, later⟩ := reaches_bind_pure_iff.mp run
  obtain ⟨closingChild, none, v, rfl, closedChild, finished⟩ := reaches_bind_pure_iff.mp later
  obtain ⟨rfl, same⟩ := reaches_pure_iff.mp finished
  exact ⟨Prog.pure.inj same, (Ledger.closeEach closedAll).append ((Ledger.closeQuietly closedChild).append Ledger.nil)⟩

theorem spawn_failed_balanced
    {stdio : List Nat}
    {child : Nat}
    {term : Handle}
    {f : Fault}
    {x : Except Fault (Handle × Child)}
    {es : List (Exchange Memory)}
    (run : Reaches (do
      let _ ← term.close
      forIn stdio PUnit.unit fun d (_ : PUnit) => do
        closeQuietly d
        return ForInStep.yield PUnit.unit
      closeQuietly child
      (Pure.pure (Except.error f) : Prog Memory (Except Fault (Handle × Child)))) es (.pure x))
    (first : ∀ m rest, es = ⟨.update (Memory.beginClose term.key), m⟩ :: rest → (m.handle term.key).closes = 1) :
    x = .error f ∧ Ledger ([term.fd] ++ stdio ++ [child]) [] [] es := by
  obtain ⟨closing, rest, u, rfl, closed, later⟩ := reaches_bind_pure_iff.mp run
  obtain ⟨rfl, tail⟩ := spawn_tail_balanced later
  have closedTerm := Handle.close_balanced closed fun m more same => first m (more ++ rest) (by simp [same])
  exact ⟨rfl, by simpa [List.append_assoc] using closedTerm.append tail⟩

/-- A start, through the setup helper or in place, balances what it makes and closes at
most the handles of children it started. -/
theorem startCommand_balanced
    {cmd : Command}
    {helper : Option String}
    {inherited : List String}
    {es : List (Exchange Memory)}
    {x : Except Fault Child}
    (run : Reaches (startCommand cmd helper inherited) es (.pure x)) :
    ∃ waited, waited.Subperm (es.flatMap Exchange.launched) ∧ Ledger [] [] waited es := by
  unfold startCommand at run
  split at run
  · split at run
    · exact ⟨[], List.nil_subperm, startInPlace_balanced run⟩
    · exact startWithHelper_balanced run
  · exact ⟨[], List.nil_subperm, startInPlace_balanced run⟩

/-- A start balances what it makes, closes at most the handles of children it started, and
leaves pairs and handles alone; then the program goes on with what it answered. -/
theorem start_then_balanced
    {β : Type}
    {cmd : Command}
    {helper : Option String}
    {inherited : List String}
    {k : Except Fault Child → Prog Memory β}
    {es : List (Exchange Memory)}
    {x : β}
    (run : Reaches (startCommand cmd helper inherited >>= k) es (.pure x)) :
    ∃ startEs afterStart started, es = startEs ++ afterStart ∧
      (∃ waited, waited.Subperm (startEs.flatMap Exchange.launched) ∧ Ledger [] [] waited startEs) ∧
      (∀ e ∈ startEs, Bystander e.request) ∧ Reaches (k started) afterStart (.pure x) := by
  obtain ⟨startEs, afterStart, started, rfl, startRun, later⟩ := reaches_bind_pure_iff.mp run
  exact ⟨startEs, afterStart, started, rfl, startCommand_balanced startRun,
    ((startCommand_bystander _ _ _).reaches startRun).1, later⟩

/-- A start on a pair asks for its descriptors.  When they are not handed over it fails at
once with the consumed-pair fault.  When they are, it balances both and every descriptor it
makes on the way (the duplicates of the child device, the ends of the helper's status pipe),
keeping only the parent side when the program started, as the descriptor of the terminal it
answers, whose handle it made; so long as the close of that terminal after a failed start is
the terminal's first close. -/
theorem spawn_balanced
    {p : Pair}
    {cmd : Command}
    {helper : Option String}
    {inherited : List String}
    {es : List (Exchange Memory)}
    {x : Except Fault (Handle × Child)}
    (run : Reaches (p.spawn cmd helper inherited) es (.pure x))
    (first : FirstCloseOfMade es) :
    ∃ m rest, es = ⟨.await (Memory.pairFree p.key) (Memory.claimPair p.key), m⟩ :: rest ∧
      (Memory.handedOver p.key m = none → rest = [] ∧ x = .error .pairConsumed) ∧
      ∀ parent child, Memory.handedOver p.key m = some (parent, child) →
        (∀ term c, x = .ok (term, c) → term.fd = parent ∧ ∃ before made after,
          es = before ++ ⟨.update Memory.recordHandle, made⟩ :: after ∧ term.key = made.next - 1) ∧
        ∃ waited, waited.Subperm (es.flatMap Exchange.launched) ∧
          Ledger [parent, child] (if x.isOk then [parent] else []) waited es := by
  unfold Pair.spawn at run
  obtain ⟨taking, rest, taken, rfl, take, later⟩ := reaches_bind_pure_iff.mp run
  obtain ⟨m, rfl, rfl⟩ := take_finished take
  refine ⟨m, rest, rfl, fun none => ?_, fun parent child handed => ?_⟩
  · rw [none] at later
    obtain ⟨rfl, same⟩ := reaches_pure_iff.mp later
    exact ⟨rfl, Prog.pure.inj same⟩
  rw [handed] at later
  dsimp only at later
  have asked := Ledger.quiet (e := ⟨.await (Memory.pairFree p.key) (Memory.claimPair p.key), m⟩) fun _ => rfl
  obtain ⟨dupEs, afterDup, duplicated, rfl, dup, continued⟩ := reaches_bind_pure_iff.mp later
  have dupLedger := duplicateStandard_go_balanced dup
  cases duplicated with
  | error f =>
      obtain ⟨closingParent, more, u, rfl, closedParent, closing⟩ := reaches_bind_pure_iff.mp continued
      obtain ⟨closingChild, none, v, rfl, closedChild, finished⟩ := reaches_bind_pure_iff.mp closing
      obtain ⟨rfl, same⟩ := reaches_pure_iff.mp finished
      cases same
      refine ⟨by simp, [], List.nil_subperm, ?_⟩
      have whole := asked.append (dupLedger.append ((Ledger.closeQuietly closedParent).append
        ((Ledger.closeQuietly closedChild).append Ledger.nil)))
      simp only [List.singleton_append] at whole
      exact whole.recount fun d => by simp [Exchange.made, Except.toOption, Except.isOk, Except.toBool, List.count_cons]
  | ok stdio =>
      obtain ⟨adoptEs, afterAdopt, adopted, rfl, adoptRun, afterAdoptRun⟩ := reaches_bind_pure_iff.mp continued
      obtain ⟨adoptLedger, adoptMade⟩ := adopt_balanced adoptRun
      cases adopted with
      | error f =>
          obtain ⟨rfl, tail⟩ := spawn_tail_balanced afterAdoptRun
          refine ⟨by simp, [], List.nil_subperm, ?_⟩
          have whole := asked.append (dupLedger.append (adoptLedger.append tail))
          simp only [List.singleton_append] at whole
          exact whole.recount fun d => by simp [Exchange.made, Except.toOption, Except.isOk, Except.toBool, List.count_cons]; omega
      | ok term =>
          obtain ⟨termFd, before, made, rfl, termKey⟩ := adoptMade term rfl
          obtain ⟨startEs, afterStart, started, rfl, ⟨waited, within, startLedger⟩, bystanders, decided⟩ :=
            start_then_balanced afterAdoptRun
          have launched : waited.Subperm (((⟨.await (Memory.pairFree p.key) (Memory.claimPair p.key), m⟩ :
              Exchange Memory) :: dupEs ++ (before ++ [(⟨.update Memory.recordHandle, made⟩ : Exchange Memory)] ++
                (startEs ++ afterStart))).flatMap Exchange.launched) := by
            refine within.trans (List.Sublist.subperm ?_)
            simp only [List.flatMap_cons, List.flatMap_append]
            exact (List.sublist_append_left _ _).trans ((List.sublist_append_right _ _).trans
              (List.sublist_append_right _ _))
          cases started with
          | error f =>
              have firstClose : ∀ mb more, afterStart = ⟨.update (Memory.beginClose term.key), mb⟩ :: more →
                  (mb.handle term.key).closes = 1 := by
                intro mb more same
                rw [termKey] at same ⊢
                exact first (⟨.await (Memory.pairFree p.key) (Memory.claimPair p.key), m⟩ :: dupEs ++ before)
                  made startEs mb more (by simp [same]) bystanders
              obtain ⟨rfl, tail⟩ := spawn_failed_balanced decided firstClose
              refine ⟨by simp, waited, launched, ?_⟩
              have whole := asked.append (dupLedger.append (adoptLedger.append (startLedger.append tail)))
              simp only [List.singleton_append] at whole
              exact whole.recount fun d => by
                simp [termFd, Exchange.made, Except.toOption, Except.isOk, Except.toBool, List.count_cons]; omega
          | ok c =>
              obtain ⟨rfl, tail⟩ := spawn_tail_balanced decided
              refine ⟨fun t c' same => ?_, waited, launched, ?_⟩
              · cases same
                exact ⟨termFd, ⟨.await (Memory.pairFree p.key) (Memory.claimPair p.key), m⟩ :: dupEs ++ before,
                  made, startEs ++ afterStart, by simp, termKey⟩
              have whole := asked.append (dupLedger.append (adoptLedger.append (startLedger.append tail)))
              simp only [List.singleton_append] at whole
              exact whole.recount fun d => by
                simp [Exchange.made, Except.toOption, Except.isOk, Except.toBool, List.count_cons]; omega

end Pair

/-- What a finished allocation answering `x` balances: after a failure, every descriptor it
opened is closed once; a pair it makes keeps both descriptors it opened, recorded by its last
exchange under the pair's key. -/
def AllocationBalanced (es : List (Exchange Memory)) : Except Fault Pair → Prop
  | .error _ => Ledger [] [] [] es
  | .ok pair => ∃ parent child m, Ledger [] [parent, child] [] es ∧
      es.getLast? = some ⟨.update (Memory.recordPair parent child), m⟩ ∧ pair.key = m.next - 1

theorem allocate_balanced
    {es : List (Exchange Memory)}
    {x : Except Fault Pair}
    (run : Reaches (allocate childPathOf) es (.pure x)) :
    AllocationBalanced es x := by
  dsimp only [allocate, openParent, grant, unlock, childPathOf, openChild, Sys.openPath, Sys.terminalNumber,
    Sys.setLock] at run
  obtain ⟨opened, rest, rfl, afterOpen⟩ := reaches_call_pure_iff.mp run
  cases opened with
  | error e =>
      obtain ⟨rfl, same⟩ := reaches_pure_iff.mp afterOpen
      cases same
      exact Ledger.quiet fun _ => rfl
  | ok parent =>
  let opening : Exchange Memory := ⟨.openPath makerPath parentFlags 0, .ok parent⟩
  have openedParent : Ledger [] [parent] [] [opening] := Ledger.quiet fun _ => rfl
  have failing : ∀ {step : AllocStep} {f : Fault} {quiet more : List (Exchange Memory)},
      Ledger [] [] [] quiet →
      Reaches (do closeQuietly parent; (Pure.pure (.error (.allocate step f)) : Prog Memory (Except Fault Pair)))
        more (.pure x) →
      AllocationBalanced (opening :: (quiet ++ more)) x := by
    intro step f quiet more quietLedger closing
    obtain ⟨closingEs, none, u, rfl, closed, finished⟩ := reaches_bind_pure_iff.mp closing
    obtain ⟨rfl, same⟩ := reaches_pure_iff.mp finished
    cases same
    have whole := openedParent.append (quietLedger.append ((Ledger.closeQuietly closed).append Ledger.nil))
    exact whole.recount fun d => by simp
  obtain ⟨granted, rest, rfl, afterGrant⟩ := reaches_call_pure_iff.mp afterOpen
  cases granted with
  | error e =>
      have grantFailed : Ledger [] [] [] [⟨.terminalNumber parent, .error e⟩] := Ledger.quiet fun _ => rfl
      exact failing grantFailed afterGrant
  | ok n =>
  obtain ⟨unlocked, rest, rfl, afterUnlock⟩ := reaches_call_pure_iff.mp afterGrant
  cases unlocked with
  | error e =>
      have unlockFailed : Ledger [] [] [] [⟨.terminalNumber parent, .ok n⟩, ⟨.setLock parent false, .error e⟩] :=
        Ledger.quiet (e := ⟨.terminalNumber parent, .ok n⟩) (fun _ => rfl) |>.append (Ledger.quiet fun _ => rfl)
      exact failing unlockFailed afterUnlock
  | ok u =>
  let asked : List (Exchange Memory) := [⟨.terminalNumber parent, .ok n⟩, ⟨.setLock parent false, .ok u⟩]
  have askedLedger : Ledger [] [] [] asked :=
    Ledger.quiet (e := ⟨.terminalNumber parent, .ok n⟩) (fun _ => rfl) |>.append (Ledger.quiet fun _ => rfl)
  obtain ⟨named, rest, rfl, afterName⟩ := reaches_call_pure_iff.mp afterUnlock
  cases named with
  | error e =>
      have nameFailed : Ledger [] [] [] [⟨.terminalNumber parent, .error e⟩] := Ledger.quiet fun _ => rfl
      exact failing (askedLedger.append nameFailed) afterName
  | ok m =>
  obtain ⟨childOpened, rest, rfl, afterChild⟩ := reaches_call_pure_iff.mp afterName
  cases childOpened with
  | error e =>
      have named : Ledger [] [] [] [⟨.terminalNumber parent, .ok m⟩] := Ledger.quiet fun _ => rfl
      have openFailed : Ledger [] [] [] [⟨.openPath (childDirectory ++ toString m) childFlags 0, .error e⟩] :=
        Ledger.quiet fun _ => rfl
      exact failing (askedLedger.append (named.append openFailed)) afterChild
  | ok child =>
  obtain ⟨recorded, rest, rfl, finished⟩ := reaches_call_pure_iff.mp afterChild
  obtain ⟨rfl, same⟩ := reaches_pure_iff.mp finished
  cases same
  refine ⟨parent, child, recorded, ?_, rfl, rfl⟩
  have whole := openedParent.append (askedLedger.append
    ((Ledger.quiet (e := ⟨.terminalNumber parent, .ok m⟩) fun _ => rfl).append
      ((Ledger.quiet (e := ⟨.openPath (childDirectory ++ toString m) childFlags 0, .ok child⟩) fun _ => rfl).append
        (Ledger.quiet (e := ⟨.update (Memory.recordPair parent child), recorded⟩) fun _ => rfl))))
  exact whole.recount fun d => by simp [Exchange.made, List.count_cons]

end PseudoTerm.Pty
