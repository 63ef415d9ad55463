import Mathlib
import PseudoTerm.Proofs.Threads
import PseudoTerm.Proofs.HelperStatus

namespace PseudoTerm.Control

/-!
# What the calls on a pair do to the shared memory

The calls on a terminal pair share its record with every other thread.  Each change a
call makes to the memory is one of a few kinds: asking for the pair's descriptors
(`claimPair`), beginning or ending a resize, making or closing the handle of the parent
side, or a change that leaves pairs and handles alone, as starting and collecting a
program does (`Bystander`).

From this one description follow the facts the threads rely on: no change alters the
descriptors a pair holds (`Memory.pairDescriptors`), only an ask raises the number of
times they were asked for (`Memory.asks`), and every record stays under a key below the
next one handed out (`Memory.KeysBelowNext`), so that a new record is found under its
key.
-/

open PseudoTerm.Machine

namespace Table

variable {α : Type}

@[simp] theorem get?_modify_self (t : Table α) (k : Nat) (f : α → α) :
    (t.modify k f).get? k = (t.get? k).map f := by
  induction t with
  | nil => rfl
  | cons e rest inductionHypothesis =>
      obtain ⟨k', a⟩ := e
      by_cases same : k' = k
      · subst same
        simp [Table.modify, Table.get?, List.lookup]
      · have differ : (k == k') = false := by simpa using Ne.symm same
        simpa [Table.modify, Table.get?, List.lookup, same, differ] using inductionHypothesis

theorem get?_modify_other
    (t : Table α)
    {k k' : Nat}
    (other : k' ≠ k)
    (f : α → α) :
    (t.modify k f).get? k' = t.get? k' := by
  induction t with
  | nil => rfl
  | cons e rest inductionHypothesis =>
      obtain ⟨k'', a⟩ := e
      by_cases same : k'' = k
      · subst same
        have differ : (k' == k'') = false := by simpa using other
        simpa [Table.modify, Table.get?, List.lookup, differ] using inductionHypothesis
      · simp only [Table.get?, Table.modify] at inductionHypothesis ⊢
        by_cases found : k' = k''
        · subst found
          simp [List.lookup, same]
        · have differ : (k' == k'') = false := by simpa using found
          simpa [List.lookup, same, differ] using inductionHypothesis

theorem get?_insert_self
    (t : Table α)
    {k : Nat}
    (absent : t.get? k = none)
    (a : α) :
    (t.insert k a).get? k = some a := by
  simp only [Table.get?, Table.insert] at absent ⊢
  simp [List.lookup_append, absent]

theorem get?_insert_other
    (t : Table α)
    {k k' : Nat}
    (other : k' ≠ k)
    (a : α) :
    (t.insert k a).get? k' = t.get? k' := by
  have differ : (k' == k) = false := by simpa using other
  simp [Table.get?, Table.insert, List.lookup_append, List.lookup, differ]

@[simp] theorem keys_modify (t : Table α) (k : Nat) (f : α → α) :
    (t.modify k f).map Prod.fst = t.map Prod.fst := by
  induction t with
  | nil => rfl
  | cons e rest inductionHypothesis =>
      simp only [Table.modify, List.map_cons] at inductionHypothesis ⊢
      rw [inductionHypothesis]
      split <;> rfl

@[simp] theorem keys_insert (t : Table α) (k : Nat) (a : α) :
    (t.insert k a).map Prod.fst = t.map Prod.fst ++ [k] := by
  simp [Table.insert]

end Table

namespace Memory

/-- Every pair and every terminal handle is kept under a key below the next key to be
handed out, as all keys come from that one counter. -/
def KeysBelowNext (m : Memory) : Prop :=
  ∀ k ∈ m.pairs.map Prod.fst ++ m.handles.map Prod.fst, k < m.next

/-- The parent and child descriptors pair `k` holds. -/
def pairDescriptors (k : Nat) (m : Memory) : Option (Nat × Nat) :=
  (m.pairs.get? k).map fun s => (s.parent, s.child)

/-- How many times the descriptors of pair `k` were asked for. -/
def asks (k : Nat) (m : Memory) : Option Nat :=
  (m.pairs.get? k).map (·.takes)

theorem KeysBelowNext.handle_absent {m : Memory} (below : m.KeysBelowNext) :
    m.handles.get? m.next = none := by
  simp only [Table.get?, List.lookup_eq_none_iff, bne_iff_ne, ne_eq]
  intro entry member same
  have := below entry.1 (by simp [List.mem_map]; exact .inr ⟨entry.2, by simpa using member⟩)
  omega

/-- A change that keeps the tables of pairs and handles and hands out no fewer keys keeps
every key below the next one. -/
theorem KeysBelowNext.of_tables
    {m m' : Memory}
    (below : m.KeysBelowNext)
    (pairs : m'.pairs.map Prod.fst = m.pairs.map Prod.fst)
    (handles : m'.handles.map Prod.fst = m.handles.map Prod.fst)
    (grown : m.next ≤ m'.next) :
    m'.KeysBelowNext := by
  intro k member
  rw [pairs, handles] at member
  have := below k member
  omega

theorem KeysBelowNext.insertHandle
    {m : Memory}
    (below : m.KeysBelowNext)
    (s : HandleState) :
    ({ m.take with handles := m.take.handles.insert m.next s } : Memory).KeysBelowNext := by
  intro k member
  simp only [Memory.take, Table.keys_insert] at member
  rw [← List.append_assoc, List.mem_append, List.mem_singleton] at member
  rcases member with old | rfl
  · exact Nat.lt_succ_of_lt (below k old)
  · exact Nat.lt_succ_self _

theorem asks_claimPair (k : Nat) (m : Memory) (n : Nat) (counted : asks k m = some n) :
    asks k (claimPair k m) = some (n + 1) := by
  unfold asks at counted ⊢
  simp only [claimPair, modifyPair, Table.get?_modify_self]
  cases found : m.pairs.get? k with
  | none => simp [found] at counted
  | some s =>
      simp only [found, Option.map_some, Option.some.injEq] at counted ⊢
      rw [counted]

end Memory

end PseudoTerm.Control

namespace PseudoTerm.Control

open PseudoTerm.Machine

/-- A request whose change keeps the pairs and the handles as they are and hands out no
fewer keys: what starting, signalling and collecting a program do to the memory. -/
def Bystander (r : Request Memory) : Prop :=
  ∀ f, r.change? = some f → ∀ m, (f m).pairs = m.pairs ∧ (f m).handles = m.handles ∧
    m.next ≤ (f m).next

/-- A request whose change keeps every pair as it is and every key below the next one. -/
def KeepsPairs (r : Request Memory) : Prop :=
  Keeps Memory.pairs r ∧ ∀ f, r.change? = some f → ∀ m, m.KeysBelowNext → (f m).KeysBelowNext

/-- A request of a call on pair `k`: its change keeps the pair's descriptors and every key
below the next one, and either asks for the descriptors once more or keeps the number of
times they were asked for. -/
def PairStep (k : Nat) (r : Request Memory) : Prop :=
  Keeps (Memory.pairDescriptors k) r ∧ BumpsOrKeeps (Memory.asks k) (Memory.claimPair k) r ∧
    ∀ f, r.change? = some f → ∀ m, m.KeysBelowNext → (f m).KeysBelowNext

theorem Bystander.of_unchanged {r : Request Memory} (unchanged : r.change? = none) :
    Bystander r := by
  intro f changed
  rw [unchanged] at changed
  cases changed

theorem ChildRequest.bystander {r : Request Memory} (child : ChildRequest r) : Bystander r := by
  intro f changed m
  obtain ⟨frame, forward⟩ := child.2 f changed m
  rw [frame]
  exact ⟨rfl, rfl, forward⟩

theorem Bystander.keepsPairs {r : Request Memory} (bystander : Bystander r) : KeepsPairs r := by
  refine ⟨fun f changed m => (bystander f changed m).1, fun f changed m below => ?_⟩
  obtain ⟨pairs, handles, grown⟩ := bystander f changed m
  exact below.of_tables (by rw [pairs]) (by rw [handles]) grown

theorem KeepsPairs.pairStep {r : Request Memory} (k : Nat) (keeps : KeepsPairs r) :
    PairStep k r := by
  obtain ⟨pairs, keys⟩ := keeps
  refine ⟨fun f changed m => ?_, .inr fun f changed m => ?_, keys⟩
  · simp only [Memory.pairDescriptors, pairs f changed m]
  · simp only [Memory.asks, pairs f changed m]

theorem pairStep_claim (k : Nat) : PairStep k (.await (Memory.pairFree k) (Memory.claimPair k)) := by
  refine ⟨?_, .inl rfl, ?_⟩
  · rintro f ⟨⟩ m
    simp [Memory.pairDescriptors, Memory.claimPair, Memory.modifyPair, Function.comp_def]
  · rintro f ⟨⟩ m below
    exact below.of_tables (by simp [Memory.claimPair, Memory.modifyPair]) rfl (Nat.le_refl _)

theorem pairStep_beginResize (k : Nat) : PairStep k (.update (Memory.beginResize k)) := by
  refine ⟨?_, .inr ?_, ?_⟩
  · rintro f ⟨⟩ m
    simp only [Memory.pairDescriptors, Memory.beginResize, Memory.modifyPair,
      Table.get?_modify_self, Option.map_map]
    congr 1
    funext s
    dsimp only [Function.comp_apply]
    split <;> rfl
  · rintro f ⟨⟩ m
    simp only [Memory.asks, Memory.beginResize, Memory.modifyPair, Table.get?_modify_self,
      Option.map_map]
    congr 1
    funext s
    dsimp only [Function.comp_apply]
    split <;> rfl
  · rintro f ⟨⟩ m below
    exact below.of_tables (by simp [Memory.beginResize, Memory.modifyPair]) rfl (Nat.le_refl _)

theorem pairStep_endResize (k : Nat) : PairStep k (.update (Memory.endResize k)) := by
  refine ⟨?_, .inr ?_, ?_⟩
  · rintro f ⟨⟩ m
    simp [Memory.pairDescriptors, Memory.endResize, Memory.modifyPair, Function.comp_def]
  · rintro f ⟨⟩ m
    simp [Memory.asks, Memory.endResize, Memory.modifyPair, Function.comp_def]
  · rintro f ⟨⟩ m below
    exact below.of_tables (by simp [Memory.endResize, Memory.modifyPair]) rfl (Nat.le_refl _)

theorem keepsPairs_modifyHandle (k : Nat) (g : HandleState → HandleState) :
    KeepsPairs (.update fun m => m.modifyHandle k g) := by
  refine ⟨?_, ?_⟩
  · rintro f ⟨⟩ m
    rfl
  · rintro f ⟨⟩ m below
    exact below.of_tables rfl (by simp [Memory.modifyHandle]) (Nat.le_refl _)

end PseudoTerm.Control

namespace PseudoTerm.Pty

open PseudoTerm.Machine Prog PseudoTerm.Control

theorem closeQuietly_bystander (fd : Nat) : Only Bystander (closeQuietly fd) := by
  dsimp only [closeQuietly, Sys.close, Prog.lift, Bind.bind, Prog.bind, Pure.pure]
  exact .call (.of_unchanged rfl) fun _ => .pure _

theorem duplicateStandard_go_bystander (fd n : Nat) (made : List Nat) :
    Only Bystander (duplicateStandard.go fd n made) := by
  induction n generalizing made with
  | zero => exact .pure _
  | succ n inductionHypothesis =>
      dsimp only [duplicateStandard.go, Sys.duplicate, Prog.lift, Bind.bind, Prog.bind, Pure.pure]
      refine .call (.of_unchanged rfl) fun answer => ?_
      split
      · exact inductionHypothesis _
      · exact Only.bind (Only.forIn fun d _ => Only.bind (closeQuietly_bystander d) fun _ => .pure _)
          fun _ => .pure _

theorem wait_bystander (c : Child) : Only Bystander c.wait :=
  (wait_requests c).mono fun _ request => request.1.bystander

theorem kill_bystander (c : Child) : Only Bystander c.kill :=
  (kill_requests c).mono fun _ request => request.1.bystander

theorem readExactly_go_bystander (fd n fuel : Nat) (acc : ByteArray) :
    Only Bystander (readExactly.go fd n fuel acc) := by
  induction fuel generalizing acc with
  | zero => exact .pure _
  | succ fuel inductionHypothesis =>
      dsimp only [readExactly.go, Sys.read, Prog.lift, Bind.bind, Prog.bind, Pure.pure]
      split
      · exact .pure _
      · refine .call (.of_unchanged rfl) fun _ => ?_
        split
        · split
          · exact .pure _
          · exact inductionHypothesis _
        · exact .pure _

theorem awaitStatus_bystander (child : Child) (r : Nat) : Only Bystander (awaitStatus child r) := by
  unfold awaitStatus readExactly
  refine Only.bind (readExactly_go_bystander _ _ _ _) ?_
  rintro ⟨record, problem⟩
  refine Only.bind (closeQuietly_bystander r) fun _ => ?_
  split
  · exact .pure _
  · exact Only.bind (kill_bystander child) fun _ => Only.bind (wait_bystander child) fun _ => .pure _
  · exact Only.bind (wait_bystander child) fun _ => by split <;> exact .pure _

theorem start_bystander (c : Command) (inherited : List String) :
    Only Bystander (c.start inherited) :=
  (start_requests c inherited).mono fun _ request => request.1.bystander

theorem startWithHelper_bystander (cmd : Command) (helper : String) (inherited : List String) :
    Only Bystander (startWithHelper cmd helper inherited) := by
  unfold startWithHelper
  split
  · exact .pure _
  · dsimp only [Sys.makePipe, Sys.workingDirectory, Prog.lift, Bind.bind, Prog.bind, Pure.pure]
    refine .call (.of_unchanged rfl) fun _ => ?_
    split
    · exact .pure _
    · refine .call (.of_unchanged rfl) fun _ => ?_
      refine Only.bind (start_bystander _ _) fun started => ?_
      refine Only.bind (closeQuietly_bystander _) fun _ => ?_
      split
      · exact Only.bind (closeQuietly_bystander _) fun _ => .pure _
      · exact awaitStatus_bystander _ _

theorem startInPlace_bystander (cmd : Command) (inherited : List String) :
    Only Bystander (startInPlace cmd inherited) :=
  Only.bind (start_bystander _ _) fun _ => by split <;> exact .pure _

theorem startCommand_bystander (cmd : Command) (helper : Option String) (inherited : List String) :
    Only Bystander (startCommand cmd helper inherited) := by
  unfold startCommand
  split
  · split
    · exact startInPlace_bystander _ _
    · exact startWithHelper_bystander _ _ _
  · exact startInPlace_bystander _ _

theorem adopt_keepsPairs (fd : Nat) (childPath : String) :
    Only KeepsPairs (Handle.adopt fd childPath) := by
  dsimp only [Handle.adopt, Sys.setDeadline, Sys.close, create, change, Sys.update, Prog.lift,
    Bind.bind, Prog.bind, Pure.pure]
  refine .call (Bystander.keepsPairs (.of_unchanged rfl)) fun first => ?_
  split
  · refine .call (Bystander.keepsPairs (.of_unchanged rfl)) fun second => ?_
    split
    · exact .call (Bystander.keepsPairs (.of_unchanged rfl)) fun _ => .pure _
    · refine .call ⟨?_, ?_⟩ fun _ => .pure _
      · rintro f ⟨⟩ m
        rfl
      · rintro f ⟨⟩ m below
        exact below.insertHandle {}
  · exact .call (Bystander.keepsPairs (.of_unchanged rfl)) fun _ => .pure _

theorem close_keepsPairs (h : Handle) : Only KeepsPairs h.close := by
  dsimp only [Handle.close, Sys.update, Sys.await, Sys.close, Prog.lift, Bind.bind, Prog.bind,
    Pure.pure]
  refine .call (keepsPairs_modifyHandle _ _) fun _ => ?_
  split
  · refine .call (Bystander.keepsPairs (.of_unchanged rfl)) fun closed => ?_
    split
    · exact .call (keepsPairs_modifyHandle _ _) fun _ => .pure _
    · exact .call (keepsPairs_modifyHandle _ _) fun _ => .pure _
  · refine .call (Bystander.keepsPairs ?_) fun _ => .pure _
    rintro f ⟨⟩ m
    exact ⟨rfl, rfl, Nat.le_refl _⟩

theorem take_asks (p : Pair) :
    Only (· = .await (Memory.pairFree p.key) (Memory.claimPair p.key)) p.take :=
  .call rfl fun _ => .pure _

theorem close_pairStep (p : Pair) : Only (PairStep p.key) p.close := by
  unfold Pair.close
  refine Only.bind ((take_asks p).mono fun r asked => asked ▸ pairStep_claim p.key) fun taken => ?_
  dsimp only [Sys.close, Prog.lift, Bind.bind, Prog.bind, Pure.pure]
  split
  · exact .pure _
  · have closing : ∀ fd, PairStep p.key (.close fd) := fun _ =>
      (Bystander.keepsPairs (.of_unchanged rfl)).pairStep _
    refine .call (closing _) fun first => .call (closing _) fun second => ?_
    cases first <;> cases second <;> exact .pure _

theorem resize_requests (p : Pair) (cols rows : Nat) :
    Only (fun r => r = .update (Memory.beginResize p.key) ∨ r = .update (Memory.endResize p.key) ∨
      ∃ fd w, r = .setWindow fd w) (p.resize cols rows) := by
  dsimp only [Pair.resize, resizeDescriptor, Sys.update, Sys.setWindow, Prog.lift, Bind.bind,
    Prog.bind, Pure.pure]
  refine .call (.inl rfl) fun _ => ?_
  split
  · exact .pure _
  · refine .call (.inr (.inr ⟨_, _, rfl⟩)) fun answer => ?_
    split <;> exact .call (.inr (.inl rfl)) fun _ => by split <;> exact .pure _

theorem resize_pairStep (p : Pair) (cols rows : Nat) :
    Only (fun r => PairStep p.key r ∧ Keeps Memory.handles r) (p.resize cols rows) := by
  refine (resize_requests p cols rows).mono fun r asked => ?_
  rcases asked with rfl | rfl | ⟨fd, w, rfl⟩
  · exact ⟨pairStep_beginResize _, by rintro f ⟨⟩ m; rfl⟩
  · exact ⟨pairStep_endResize _, by rintro f ⟨⟩ m; rfl⟩
  · exact ⟨(Bystander.keepsPairs (.of_unchanged rfl)).pairStep _, .of_unchanged rfl⟩

theorem spawn_pairStep (p : Pair) (cmd : Command) (helper : Option String)
    (inherited : List String) : Only (PairStep p.key) (p.spawn cmd helper inherited) := by
  unfold Pair.spawn
  refine Only.bind ((take_asks p).mono fun r asked => asked ▸ pairStep_claim p.key) fun taken => ?_
  refine Only.mono ?_ fun r keeps => KeepsPairs.pairStep p.key keeps
  have closing (fd : Nat) : Only KeepsPairs (closeQuietly fd) :=
    (closeQuietly_bystander fd).mono fun _ => Bystander.keepsPairs
  have tail (child : Nat) (stdio : List Nat) (result : Except Fault (Handle × Child)) :
      Only KeepsPairs (do
        for d in stdio do closeQuietly d
        closeQuietly child
        return result) :=
    Only.bind (Only.forIn fun d _ => Only.bind (closing d) fun _ => .pure _) fun _ =>
      Only.bind (closing child) fun _ => .pure _
  split
  · exact .pure _
  · refine Only.bind ((duplicateStandard_go_bystander _ _ _).mono fun _ => Bystander.keepsPairs)
      fun made => ?_
    split
    · exact Only.bind (closing _) fun _ => Only.bind (closing _) fun _ => .pure _
    · refine Only.bind (adopt_keepsPairs _ _) fun adopted => ?_
      dsimp only
      split
      · exact Only.bind (.pure _) fun result => tail _ _ result
      · refine Only.bind ((startCommand_bystander _ _ _).mono fun _ => Bystander.keepsPairs)
          fun started => ?_
        split
        · exact Only.bind (close_keepsPairs _) fun _ => Only.bind (.pure _) fun result =>
            tail _ _ result
        · exact Only.bind (.pure _) fun result => tail _ _ result

end PseudoTerm.Pty
