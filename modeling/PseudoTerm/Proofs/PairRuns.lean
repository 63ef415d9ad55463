import PseudoTerm.Proofs.PairSteps

namespace PseudoTerm.Pty

/-!
# What the calls on a pair close

A ledger of descriptors for each finished call: which descriptors its answers handed out
for its own use (`Exchange.made`: opened paths, duplicates, both ends of a pipe), which
it was handed as handles of started children (`Exchange.launched`), and how many times it
closed each (`closeCount`).

The parts of a start are counted one by one: the duplicates of the child device are
closed again when making one fails, the handle of the parent side closes its descriptor
when it cannot be registered, a start through the helper closes both ends of its status
pipe, and closing the handle releases its descriptor when it is the first close.  A start
on a taken pair then closes every descriptor it took over or made exactly as often as it
holds it, except the parent side that a started program's terminal keeps
(`TakenSpawnRun`).
-/

open PseudoTerm.Machine Prog PseudoTerm.Control

/-- A request that closes no descriptor outside `fds` and hands out none for the caller's
own use. -/
def ClosesWithin (fds : List Nat) (r : Request Memory) : Prop :=
  (∀ x d, Exchange.closes d ⟨r, x⟩ = true → d ∈ fds) ∧ ∀ x, Exchange.made ⟨r, x⟩ = []

theorem closesWithin_of_quiet
    {r : Request Memory}
    {fds : List Nat}
    (quiet : ∀ x d, Exchange.closes d ⟨r, x⟩ = false)
    (empty : ∀ x, Exchange.made ⟨r, x⟩ = []) :
    ClosesWithin fds r :=
  ⟨fun x d closed => absurd closed (by simp [quiet x d]), empty⟩

/-- Along a run of a program closing nothing outside `fds`, every other descriptor stays
open and nothing is handed out for the caller's use. -/
theorem ClosesWithin.run
    {α : Type}
    {fds : List Nat}
    {p q : Prog Memory α}
    {es : List (Exchange Memory)}
    (only : Only (ClosesWithin fds) p)
    (run : Reaches p es q) :
    (∀ d, d ∉ fds → closeCount d es = 0) ∧ es.flatMap Exchange.made = [] := by
  have each := (only.reaches run).1
  constructor
  · intro d outside
    simp only [closeCount, List.countP_eq_zero]
    intro e member closed
    obtain ⟨request, answer⟩ := e
    exact outside ((each _ member).1 answer d closed)
  · simp only [List.flatMap_eq_nil_iff]
    intro e member
    obtain ⟨request, answer⟩ := e
    exact (each _ member).2 answer

theorem readExactly_go_closesWithin (fd n fuel : Nat) (acc : ByteArray) :
    Only (ClosesWithin []) (readExactly.go fd n fuel acc) := by
  induction fuel generalizing acc with
  | zero => exact .pure _
  | succ fuel inductionHypothesis =>
      dsimp only [readExactly.go, Sys.read, Prog.lift, Bind.bind, Prog.bind, Pure.pure]
      split
      · exact .pure _
      · refine .call (closesWithin_of_quiet (fun _ _ => rfl) fun _ => rfl) fun _ => ?_
        split
        · split
          · exact .pure _
          · exact inductionHypothesis _
        · exact .pure _

theorem kill_closesWithin (c : Child) : Only (ClosesWithin []) c.kill :=
  (kill_requests c).mono fun _ request => closesWithin_of_quiet (fun x d => (request.2.2 x).1 d) fun x => (request.2.2 x).2

theorem start_closesWithin (c : Command) (inherited : List String) :
    Only (ClosesWithin []) (c.start inherited) :=
  (start_requests c inherited).mono fun _ request => closesWithin_of_quiet (fun x d => (request.2 x).1 d) fun x => (request.2 x).2

theorem closeQuietly_finished
    {fd : Nat}
    {es : List (Exchange Memory)}
    {u : Unit}
    (run : Reaches (closeQuietly fd) es (.pure u)) :
    ∃ answer, es = [⟨.close fd, answer⟩] := by
  dsimp only [closeQuietly, Sys.close, Prog.lift, Bind.bind, Prog.bind, Pure.pure] at run
  obtain ⟨answer, rest, rfl, finished⟩ := reaches_call_pure_iff.mp run
  obtain ⟨rfl, -⟩ := reaches_pure_iff.mp finished
  exact ⟨answer, rfl⟩

theorem closeEach_finished
    {fds : List Nat}
    {es : List (Exchange Memory)}
    {u : PUnit}
    (run : Reaches (forIn fds PUnit.unit fun d (_ : PUnit) => do
      closeQuietly d
      return ForInStep.yield PUnit.unit) es (.pure u)) :
    (∀ d, closeCount d es = fds.count d) ∧ es.flatMap Exchange.made = [] := by
  induction fds generalizing es with
  | nil =>
      rw [List.forIn_nil] at run
      obtain ⟨rfl, -⟩ := reaches_pure_iff.mp run
      exact ⟨fun _ => rfl, rfl⟩
  | cons fd rest inductionHypothesis =>
      rw [List.forIn_cons] at run
      obtain ⟨bodyRun, restRun, step, rfl, body, afterBody⟩ := reaches_bind_pure_iff.mp run
      obtain ⟨closeRun, yieldRun, u', rfl, closing, yielded⟩ := reaches_bind_pure_iff.mp body
      obtain ⟨answer, rfl⟩ := closeQuietly_finished closing
      obtain ⟨rfl, stepped⟩ := reaches_pure_iff.mp yielded
      cases stepped
      obtain ⟨counted, empty⟩ := inductionHypothesis afterBody
      refine ⟨fun d => ?_, by simpa [Exchange.made] using empty⟩
      have closedHere : closeCount d [(⟨.close fd, answer⟩ : Exchange Memory)] =
          if fd = d then 1 else 0 := by
        by_cases same : fd = d <;> simp [closeCount, Exchange.closes, same]
      rw [List.append_nil, closeCount_append, closedHere, counted d, List.count_cons]
      by_cases same : fd = d <;> simp [same, Nat.add_comm]

end PseudoTerm.Pty
