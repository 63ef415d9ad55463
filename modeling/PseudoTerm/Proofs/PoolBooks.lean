import PseudoTerm.Proofs.PoolSteps
import Mathlib.Algebra.BigOperators.Intervals
import Mathlib.Algebra.BigOperators.Ring.Finset
import Mathlib.Algebra.Order.BigOperators.Group.Finset
import Mathlib.Data.Multiset.Range

/-!
# The books of a pool

A pool's records against the ghost stages of its threads: the queuer's (`Pool.Queuer`),
and each worker's (`Pool.Stage`) with the jobs it finished.  `Pool.Books` says what the
records hold at every moment: the queue holds the last jobs put on it, in order; a job
counts as running while its worker is inside it and as pending until it is released;
and the jobs taken off the queue are the first ones put on it, each held or finished by
one worker.  Each move of a thread keeps the books, as the lemma for that move says
(`Pool.Books.hand`, `Pool.Books.release`, `Pool.Books.push`, ...).
-/

namespace PseudoTerm.Control

open PseudoTerm.Machine

namespace Pool

/-! ## What the stages count -/

/-- Whether a worker at a stage counts as running a job: from counting it up to counting
it down. -/
def Stage.busy : Stage → Nat
  | .running .. => 1
  | _ => 0

/-- The job a worker at a stage holds, from the hand that gave it to the release. -/
def Stage.held : Stage → List Int
  | .picking _ _ got => got.toList
  | .starting _ i => [i]
  | .running _ i _ => [i]
  | .releasing _ i => [i]
  | _ => []

theorem Stage.busy_le_one (st : Stage) : st.busy ≤ 1 := by
  cases st <;> simp [Stage.busy]

theorem Stage.busy_eq_zero_of_held {st : Stage} (free : st.held = []) : st.busy = 0 := by
  cases st <;> simp_all [Stage.busy, Stage.held]

/-- A stage a worker of a queue that is never closed can be at. -/
def Stage.Live : Stage → Prop
  | .picking _ _ none => False
  | .stopped => False
  | _ => True

/-- The workers the queuer has started, of `c`. -/
def Queuer.started (c : Nat) : Queuer → Nat
  | .spawning left => c - left
  | _ => c

/-- The jobs the queuer has counted as pending, of `k`. -/
def Queuer.counted (k : Nat) : Queuer → Nat
  | .spawning _ => 0
  | .queueing i _ => i
  | .sending i _ => i + 1
  | .waiting => k
  | .finished => k

/-- The jobs the queuer has put on the queue, of `k`. -/
def Queuer.sent (k : Nat) : Queuer → Nat
  | .spawning _ => 0
  | .queueing i _ => i
  | .sending i _ => i
  | .waiting => k
  | .finished => k

/-- The stages the queuer of `k` jobs on `c` workers can be at. -/
def Queuer.Valid (c k : Nat) : Queuer → Prop
  | .spawning left => 0 < left ∧ left ≤ c
  | .queueing i left => 0 < left ∧ i + left = k
  | .sending i left => i + 1 + left = k
  | .waiting => True
  | .finished => True

theorem Queuer.sent_le_counted {k : Nat} (queuer : Queuer) : queuer.sent k ≤ queuer.counted k := by
  cases queuer <;> simp [Queuer.sent, Queuer.counted]

section QueuerCounts

variable {c k : Nat}

@[simp] theorem Queuer.started_queueFrom (i left : Nat) : (Queuer.queueFrom i left).started c = c := by
  cases left <;> rfl

theorem Queuer.counted_queueFrom {i left : Nat} (valid : i + left = k) :
    (Queuer.queueFrom i left).counted k = i := by
  cases left with
  | zero => simpa [Queuer.queueFrom, Queuer.counted] using valid.symm
  | succ left => rfl

theorem Queuer.sent_queueFrom {i left : Nat} (valid : i + left = k) :
    (Queuer.queueFrom i left).sent k = i := by
  cases left with
  | zero => simpa [Queuer.queueFrom, Queuer.sent] using valid.symm
  | succ left => rfl

theorem Queuer.valid_queueFrom {i left : Nat} (valid : i + left = k) : (Queuer.queueFrom i left).Valid c k := by
  cases left with
  | zero => trivial
  | succ left => exact ⟨Nat.succ_pos left, valid⟩

theorem Queuer.queueFrom_ne_finished (i left : Nat) : Queuer.queueFrom i left ≠ .finished := by
  cases left <;> nofun

/-- With `left` workers still to start, `c - left` are started and no job is counted or
sent. -/
theorem Queuer.started_spawnFrom {left : Nat} (fits : left ≤ c) : (Queuer.spawnFrom k left).started c = c - left := by
  cases left with
  | zero => simp [Queuer.spawnFrom]
  | succ left => rfl

@[simp] theorem Queuer.counted_spawnFrom (left : Nat) : (Queuer.spawnFrom k left).counted k = 0 := by
  cases left with
  | zero => exact Queuer.counted_queueFrom (Nat.zero_add k)
  | succ left => rfl

@[simp] theorem Queuer.sent_spawnFrom (left : Nat) : (Queuer.spawnFrom k left).sent k = 0 := by
  cases left with
  | zero => exact Queuer.sent_queueFrom (Nat.zero_add k)
  | succ left => rfl

theorem Queuer.valid_spawnFrom {left : Nat} (fits : left ≤ c) : (Queuer.spawnFrom k left).Valid c k := by
  cases left with
  | zero => exact Queuer.valid_queueFrom (Nat.zero_add k)
  | succ left => exact ⟨Nat.succ_pos left, fits⟩

theorem Queuer.spawnFrom_ne_finished (left : Nat) : Queuer.spawnFrom k left ≠ .finished := by
  cases left with
  | zero => exact Queuer.queueFrom_ne_finished 0 k
  | succ left => nofun

theorem Queuer.started_le (queuer : Queuer) : queuer.started c ≤ c := by
  cases queuer <;> simp [Queuer.started]

theorem Queuer.sent_le {queuer : Queuer} (valid : queuer.Valid c k) : queuer.sent k ≤ k := by
  cases queuer with
  | spawning => exact Nat.zero_le k
  | queueing i left => simp only [Queuer.sent]; have := valid.2; omega
  | sending i left => simp only [Queuer.sent]; have : i + 1 + left = k := valid; omega
  | waiting => exact le_refl k
  | finished => exact le_refl k

end QueuerCounts

theorem sum_add_of_agree
    {M : Type}
    [AddCommMonoid M]
    {S : Finset Nat}
    {a : Nat}
    (member : a ∈ S)
    (f g : Nat → M)
    (agree : ∀ x ∈ S, x ≠ a → g x = f x) :
    (∑ x ∈ S, g x) + f a = (∑ x ∈ S, f x) + g a := by
  rw [← Finset.add_sum_erase S g member, ← Finset.add_sum_erase S f member,
    Finset.sum_congr rfl fun x inRest =>
      agree x (Finset.mem_of_mem_erase inRest) (Finset.ne_of_mem_erase inRest)]
  ac_rfl

theorem sum_eq_of_agree
    {M : Type}
    [AddCommMonoid M]
    {S : Finset Nat}
    {a : Nat}
    (f g : Nat → M)
    (agree : ∀ x ∈ S, x ≠ a → g x = f x)
    (same : g a = f a) :
    ∑ x ∈ S, g x = ∑ x ∈ S, f x := by
  refine Finset.sum_congr rfl fun x member => ?_
  by_cases here : x = a
  · rw [here, same]
  · exact agree x member here

theorem sum_Icc_succ_of_agree
    {M : Type}
    [AddCommMonoid M]
    (n : Nat)
    (f g : Nat → M)
    (agree : ∀ x ≤ n, g x = f x) :
    ∑ x ∈ Finset.Icc 1 (n + 1), g x = (∑ x ∈ Finset.Icc 1 n, f x) + g (n + 1) := by
  rw [Finset.sum_Icc_succ_top (Nat.le_add_left 1 n)]
  congr 1
  exact Finset.sum_congr rfl fun x member => agree x (Finset.mem_Icc.mp member).2

/-! ## The books of a pool -/

variable (pool : Pool) (c k : Nat)

/-- What the pool's records say, against the stages of its threads: the queue is open,
holds no more than its room of `c`, and holds the last jobs put on it, in order; a job
counts as running while its worker is inside it, and as pending until its worker
releases it; and the jobs taken off the queue are the first ones put on it, each held or
finished by one worker. -/
structure Books (m : Memory) (queuer : Queuer) (stages : Nat → Stage) (done : Nat → List Int)
    (s : Shared) : Prop where
  found : pool.shared? m = some s
  room : s.room = c
  isOpen : s.closed = false
  fits : s.queued.length ≤ c
  behind : s.queued.length ≤ queuer.sent k
  queued : s.queued = (List.range' (queuer.sent k - s.queued.length) s.queued.length).map Int.ofNat
  running : s.running = ∑ w ∈ Finset.Icc 1 (queuer.started c), ((stages w).busy : Int)
  pending : s.pending + ∑ w ∈ Finset.Icc 1 (queuer.started c), ((done w).length : Int) = queuer.counted k
  taken : ∑ w ∈ Finset.Icc 1 (queuer.started c), ((done w ++ (stages w).held : List Int) : Multiset Int) =
    (Multiset.range (queuer.sent k - s.queued.length)).map Int.ofNat
  quiet : queuer = .finished → s.pending = 0

variable {pool c k}
variable {m : Memory} {queuer : Queuer} {stages : Nat → Stage} {done : Nat → List Int} {s : Shared}

theorem Books.taken_card (books : Books pool c k m queuer stages done s) :
    ∑ w ∈ Finset.Icc 1 (queuer.started c), ((done w).length + (stages w).held.length) =
      queuer.sent k - s.queued.length := by
  simpa using congrArg Multiset.card books.taken

theorem Books.pending_eq (books : Books pool c k m queuer stages done s) :
    s.pending = (queuer.counted k - queuer.sent k : Nat) + s.queued.length +
      ∑ w ∈ Finset.Icc 1 (queuer.started c), ((stages w).held.length : Int) := by
  have cast : ∑ w ∈ Finset.Icc 1 (queuer.started c), ((done w).length : Int) +
      ∑ w ∈ Finset.Icc 1 (queuer.started c), ((stages w).held.length : Int) =
      ((queuer.sent k - s.queued.length : Nat) : Int) := by
    rw [← Finset.sum_add_distrib, ← books.taken_card, Nat.cast_sum]
    simp only [Nat.cast_add]
  have split := books.pending
  have behind := books.behind
  have ordered := queuer.sent_le_counted (k := k)
  omega

theorem Books.started_of_held
    {w : Nat}
    (books : Books pool c k m queuer stages done s)
    (member : w ∈ Finset.Icc 1 (queuer.started c))
    (holding : (stages w).held ≠ []) :
    queuer.started c = c := by
  have one : (stages w).held.length ≤ queuer.sent k - s.queued.length := by
    rw [← books.taken_card]
    exact le_trans (Nat.le_add_left _ _)
      (Finset.single_le_sum (f := fun x => (done x).length + (stages x).held.length)
        (fun _ _ => Nat.zero_le _) member)
  have some : 0 < (stages w).held.length := List.length_pos_iff.mpr holding
  cases queuer with
  | spawning left =>
      have nothingSent : (Queuer.spawning left).sent k = 0 := rfl
      rw [nothingSent, Nat.zero_sub] at one
      omega
  | _ => rfl

theorem Books.of_found
    {m' : Memory}
    (books : Books pool c k m queuer stages done s)
    (found : pool.shared? m' = some s) :
    Books pool c k m' queuer stages done s :=
  { books with found := found }

theorem Books.held_le_pending
    {w : Nat}
    (books : Books pool c k m queuer stages done s)
    (member : w ∈ Finset.Icc 1 (queuer.started c)) :
    ((stages w).held.length : Int) ≤ s.pending := by
  have some := Finset.single_le_sum (f := fun x => ((stages x).held.length : Int))
    (fun x _ => Int.natCast_nonneg _) member
  have pending := books.pending_eq
  omega

/-! ## What each move does to the books -/

section Moves

variable {w : Nat} {m' : Memory}

/-- A move that keeps what the pool shares, and what the moving worker counts as running
and holds, keeps the books. -/
theorem Books.keep
    {st' : Stage}
    (books : Books pool c k m queuer stages done s)
    (found : pool.shared? m' = some s)
    (busy : st'.busy = (stages w).busy)
    (held : st'.held = (stages w).held) :
    Books pool c k m' queuer (Function.update stages w st') done s := by
  have running := sum_eq_of_agree (S := Finset.Icc 1 (queuer.started c)) (a := w)
    (fun x => ((stages x).busy : Int)) (fun x => ((Function.update stages w st' x).busy : Int))
    (fun x _ other => by rw [Function.update_of_ne other]) (by rw [Function.update_self, busy])
  have taken := sum_eq_of_agree (S := Finset.Icc 1 (queuer.started c)) (a := w)
    (fun x => ((done x ++ (stages x).held : List Int) : Multiset Int))
    (fun x => ((done x ++ (Function.update stages w st' x).held : List Int) : Multiset Int))
    (fun x _ other => by rw [Function.update_of_ne other]) (by rw [Function.update_self, held])
  exact
    { books with
      found := found
      running := books.running.trans running.symm
      taken := taken.trans books.taken }

/-- A worker handed a job takes the first one on the queue: the job after those taken
before. -/
theorem Books.hand
    {left t : Nat}
    (books : Books pool c k m queuer stages done s)
    (member : w ∈ Finset.Icc 1 (queuer.started c))
    (was : stages w = .ticketed left t)
    (ready : Channel.canTake pool.queue m = true) :
    ∃ i, Channel.handedTo pool.queue t (Channel.handIn pool.queue t m) = some i ∧
      Books pool c k (Channel.handIn pool.queue t m) queuer
        (Function.update stages w (.picking left t (some i))) done { s with queued := s.queued.tail } := by
  rw [canTake_eq books.found, books.isOpen, Bool.or_false] at ready
  obtain ⟨a, rest, queued⟩ : ∃ a rest, s.queued = a :: rest := by
    cases listed : s.queued with
    | nil => simp [listed] at ready
    | cons a rest => exact ⟨a, rest, rfl⟩
  have behind := books.behind
  have fits := books.fits
  have inOrder := books.queued
  rw [queued, List.length_cons] at behind fits inOrder
  rw [List.range'_succ, List.map_cons, List.cons.injEq] at inOrder
  obtain ⟨first, later⟩ := inOrder
  have taking : queuer.sent k - rest.length = queuer.sent k - (rest.length + 1) + 1 := by omega
  have taken := sum_add_of_agree member
    (fun x => ((done x ++ (stages x).held : List Int) : Multiset Int))
    (fun x => ((done x ++ (Function.update stages w (.picking left t (some a)) x).held : List Int) :
      Multiset Int))
    (fun x _ other => by rw [Function.update_of_ne other])
  have heldThen : (done w ++ (stages w).held : List Int) = done w := by
    rw [was]
    exact List.append_nil _
  have heldNow : (done w ++ (Function.update stages w (.picking left t (some a)) w).held : List Int) =
      done w ++ [a] := by
    rw [Function.update_self]
    rfl
  rw [heldThen, heldNow, books.taken, ← Multiset.coe_add, queued, List.length_cons] at taken
  have running := sum_eq_of_agree (S := Finset.Icc 1 (queuer.started c)) (a := w)
    (fun x => ((stages x).busy : Int))
    (fun x => ((Function.update stages w (.picking left t (some a)) x).busy : Int))
    (fun x _ other => by rw [Function.update_of_ne other]) (by rw [Function.update_self, was]; rfl)
  refine ⟨a, by rw [handedTo_handIn books.found, queued]; rfl, ?_⟩
  refine
    { found := shared?_handIn books.found t
      room := books.room
      isOpen := books.isOpen
      fits := ?_
      behind := ?_
      queued := ?_
      running := books.running.trans running.symm
      pending := books.pending
      taken := ?_
      quiet := books.quiet } <;> simp only [queued, List.tail_cons]
  · omega
  · omega
  · rw [taking]
    exact later
  · rw [taking, Multiset.range_succ, Multiset.map_cons, ← first]
    apply add_right_cancel (b := ((done w : List Int) : Multiset Int))
    rw [taken, Multiset.coe_singleton, ← Multiset.singleton_add]
    ac_rfl

theorem Books.count
    {left : Nat}
    {i : Int}
    (rest : Prog Memory Unit)
    (books : Books pool c k m queuer stages done s)
    (member : w ∈ Finset.Icc 1 (queuer.started c))
    (was : stages w = .starting left i)
    (apart : pool.pending ≠ pool.running) :
    Books pool c k (m.addCounter pool.running 1) queuer (Function.update stages w (.running left i rest)) done
      { s with running := s.running + 1 } := by
  have running := sum_add_of_agree member (fun x => ((stages x).busy : Int))
    (fun x => ((Function.update stages w (.running left i rest) x).busy : Int))
    (fun x _ other => by rw [Function.update_of_ne other])
  have idleThen : (stages w).busy = 0 := by rw [was]; rfl
  have busyNow : (Function.update stages w (.running left i rest) w).busy = 1 := by
    rw [Function.update_self]
    rfl
  rw [idleThen, busyNow, Nat.cast_zero, Nat.cast_one, add_zero, ← books.running] at running
  have taken := sum_eq_of_agree (S := Finset.Icc 1 (queuer.started c)) (a := w)
    (fun x => ((done x ++ (stages x).held : List Int) : Multiset Int))
    (fun x => ((done x ++ (Function.update stages w (.running left i rest) x).held : List Int) : Multiset Int))
    (fun x _ other => by rw [Function.update_of_ne other]) (by rw [Function.update_self, was]; rfl)
  refine
    { books with
      found := shared?_addRunning books.found apart 1
      running := running.symm
      taken := taken.trans books.taken }

theorem Books.uncount
    {left : Nat}
    {i : Int}
    (books : Books pool c k m queuer stages done s)
    (member : w ∈ Finset.Icc 1 (queuer.started c))
    (was : stages w = .running left i (.pure ()))
    (apart : pool.pending ≠ pool.running) :
    Books pool c k (m.addCounter pool.running (-1)) queuer (Function.update stages w (.releasing left i)) done
      { s with running := s.running + -1 } := by
  have running := sum_add_of_agree member (fun x => ((stages x).busy : Int))
    (fun x => ((Function.update stages w (.releasing left i) x).busy : Int))
    (fun x _ other => by rw [Function.update_of_ne other])
  have busyThen : (stages w).busy = 1 := by rw [was]; rfl
  have idleNow : (Function.update stages w (.releasing left i) w).busy = 0 := by
    rw [Function.update_self]
    rfl
  rw [busyThen, idleNow, Nat.cast_zero, Nat.cast_one, add_zero, ← books.running] at running
  have taken := sum_eq_of_agree (S := Finset.Icc 1 (queuer.started c)) (a := w)
    (fun x => ((done x ++ (stages x).held : List Int) : Multiset Int))
    (fun x => ((done x ++ (Function.update stages w (.releasing left i) x).held : List Int) : Multiset Int))
    (fun x _ other => by rw [Function.update_of_ne other]) (by rw [Function.update_self, was]; rfl)
  refine
    { books with
      found := shared?_addRunning books.found apart (-1)
      running := by simp only; omega
      taken := taken.trans books.taken }

/-- Releasing a returned job finishes the worker's round: the job moves from held to
done, and is no longer pending. -/
theorem Books.release
    {left : Nat}
    {i : Int}
    (books : Books pool c k m queuer stages done s)
    (member : w ∈ Finset.Icc 1 (queuer.started c))
    (was : stages w = .releasing left i)
    (apart : pool.pending ≠ pool.running) :
    Books pool c k (m.addCounter pool.pending (-1)) queuer (Function.update stages w (.idle left))
      (Function.update done w (done w ++ [i])) { s with pending := s.pending + -1 } := by
  have finished := sum_add_of_agree member (fun x => ((done x).length : Int))
    (fun x => ((Function.update done w (done w ++ [i]) x).length : Int))
    (fun x _ other => by rw [Function.update_of_ne other])
  rw [Function.update_self, List.length_append, List.length_singleton, Nat.cast_add, Nat.cast_one] at finished
  have running := sum_eq_of_agree (S := Finset.Icc 1 (queuer.started c)) (a := w)
    (fun x => ((stages x).busy : Int)) (fun x => ((Function.update stages w (.idle left) x).busy : Int))
    (fun x _ other => by rw [Function.update_of_ne other]) (by rw [Function.update_self, was]; rfl)
  have taken := sum_eq_of_agree (S := Finset.Icc 1 (queuer.started c)) (a := w)
    (fun x => ((done x ++ (stages x).held : List Int) : Multiset Int))
    (fun x => ((Function.update done w (done w ++ [i]) x ++
      (Function.update stages w (.idle left) x).held : List Int) : Multiset Int))
    (fun x _ other => by rw [Function.update_of_ne other, Function.update_of_ne other])
    (by rw [Function.update_self, Function.update_self, was]; simp [Stage.held])
  have pending := books.held_le_pending member
  have holding : (stages w).held.length = 1 := by rw [was]; rfl
  rw [holding, Nat.cast_one] at pending
  have before := books.pending
  refine
    { books with
      found := shared?_addPending books.found apart (-1)
      running := books.running.trans running.symm
      pending := by simp only; omega
      taken := taken.trans books.taken
      quiet := fun finishedWaiting => ?_ }
  have zero := books.quiet finishedWaiting
  omega

/-- A worker's move on a request that starts no thread keeps the books, and leads to a
stage it can be at. -/
theorem Books.move
    {job : Nat → Prog Memory Unit}
    {r : Request Memory}
    {x : r.Answer}
    {st' : Stage}
    (apart : pool.pending ≠ pool.running)
    (books : Books pool c k m queuer stages done s)
    (member : w ∈ Finset.Icc 1 (queuer.started c))
    (live : (stages w).Live)
    (restLeaves : ∀ left i rest, stages w = .running left i rest → Prog.Only (Leaves pool) rest)
    (moves : Moves pool job (stages w) ⟨r, x⟩ st')
    (fits : (⟨r, x⟩ : Exchange Memory).Fits m) :
    st'.Live ∧ ∃ s', Books pool c k ((r.change?.getD id) m) queuer (Function.update stages w st')
      (Function.update done w (done w ++ (stages w).finishing)) s' := by
  generalize was : stages w = st at moves live restLeaves
  cases moves with
  | ticket left answer =>
      simp only [Stage.finishing, List.append_nil, Function.update_eq_self]
      exact ⟨trivial, s, books.keep books.found (by rw [was]; rfl) (by rw [was]; rfl)⟩
  | hand left t answer =>
      obtain ⟨ready, handedIn⟩ := fits
      subst handedIn
      obtain ⟨i, handed, handedBooks⟩ := books.hand member was ready
      simp only [Stage.finishing, List.append_nil, Function.update_eq_self, handed]
      exact ⟨trivial, _, handedBooks⟩
  | pickUp left t i answer =>
      simp only [Stage.finishing, List.append_nil, Function.update_eq_self]
      exact ⟨trivial, s, books.keep (shared?_clearIn books.found t) (by rw [was]; rfl) (by rw [was]; rfl)⟩
  | pickUpEnd left t answer => exact live.elim
  | count left i answer =>
      simp only [Stage.finishing, List.append_nil, Function.update_eq_self]
      exact ⟨trivial, _, books.count _ member was apart⟩
  | progress left i x =>
      have leaves : pool.Leaves r := by
        cases restLeaves left i _ rfl with
        | call allowed _ => exact allowed
      simp only [Stage.finishing, List.append_nil, Function.update_eq_self]
      exact ⟨trivial, s, books.keep (leaves.shared?_change books.found) (by rw [was]; rfl) (by rw [was]; rfl)⟩
  | uncount left i answer =>
      simp only [Stage.finishing, List.append_nil, Function.update_eq_self]
      exact ⟨trivial, _, books.uncount member was apart⟩
  | release left i answer =>
      simp only [Stage.finishing]
      exact ⟨trivial, _, books.release member was apart⟩

end Moves

/-! ## What the queuer's moves do to the books -/

section QueuerMoves

theorem Books.spawn
    {left : Nat}
    (rounds : Nat)
    (books : Books pool c k m (.spawning (left + 1)) stages done s)
    (valid : (Queuer.spawning (left + 1)).Valid c k) :
    Books pool c k m (Queuer.spawnFrom k left) (Function.update stages (c - left) (.idle rounds))
      (Function.update done (c - left) []) s := by
  obtain ⟨-, fits⟩ := valid
  obtain ⟨n, startedThen, newest⟩ : ∃ n, (Queuer.spawning (left + 1)).started c = n ∧ c - left = n + 1 :=
    ⟨_, rfl, by simp only [Queuer.started]; omega⟩
  have startedNow : (Queuer.spawnFrom k left).started c = n + 1 := by
    rw [Queuer.started_spawnFrom (by omega)]
    exact newest
  rw [newest]
  have agree : ∀ x ≤ n, x ≠ n + 1 := fun x below => Nat.ne_of_lt (Nat.lt_succ_of_le below)
  have running := sum_Icc_succ_of_agree n (fun x => ((stages x).busy : Int))
    (fun x => ((Function.update stages (n + 1) (.idle rounds) x).busy : Int))
    (fun x below => by rw [Function.update_of_ne (agree x below)])
  have finished := sum_Icc_succ_of_agree n (fun x => ((done x).length : Int))
    (fun x => ((Function.update done (n + 1) [] x).length : Int))
    (fun x below => by rw [Function.update_of_ne (agree x below)])
  have taken := sum_Icc_succ_of_agree n
    (fun x => ((done x ++ (stages x).held : List Int) : Multiset Int))
    (fun x => ((Function.update done (n + 1) [] x ++
      (Function.update stages (n + 1) (.idle rounds) x).held : List Int) : Multiset Int))
    (fun x below => by rw [Function.update_of_ne (agree x below), Function.update_of_ne (agree x below)])
  rw [Function.update_self, show ((Stage.idle rounds).busy : Int) = 0 from rfl, add_zero] at running
  rw [Function.update_self, List.length_nil, Nat.cast_zero, add_zero] at finished
  rw [Function.update_self, Function.update_self,
    show (([] ++ (Stage.idle rounds).held : List Int) : Multiset Int) = 0 from rfl, add_zero] at taken
  have runningThen := books.running
  have pendingThen := books.pending
  have takenThen := books.taken
  rw [startedThen] at runningThen pendingThen takenThen
  refine
    { books with
      behind := by rw [Queuer.sent_spawnFrom]; exact books.behind
      queued := by rw [Queuer.sent_spawnFrom]; exact books.queued
      running := by rw [startedNow, running]; exact runningThen
      pending := by rw [startedNow, finished, Queuer.counted_spawnFrom]; exact pendingThen
      taken := by rw [startedNow, taken, Queuer.sent_spawnFrom]; exact takenThen
      quiet := fun finishedWaiting => absurd finishedWaiting (Queuer.spawnFrom_ne_finished left) }

theorem Books.countPending
    {i left : Nat}
    (books : Books pool c k m (.queueing i (left + 1)) stages done s)
    (apart : pool.pending ≠ pool.running) :
    Books pool c k (m.addCounter pool.pending 1) (.sending i left) stages done { s with pending := s.pending + 1 } := by
  have pending := books.pending
  refine
    { books with
      found := shared?_addPending books.found apart 1
      pending := ?_
      quiet := nofun }
  simp only [Queuer.counted, Queuer.started] at pending ⊢
  push_cast
  omega

theorem Books.push
    {i left : Nat}
    (books : Books pool c k m (.sending i left) stages done s)
    (valid : (Queuer.sending i left).Valid c k)
    (ready : Channel.canPut pool.queue m = true) :
    Books pool c k (Channel.pushIn pool.queue i m) (Queuer.queueFrom (i + 1) left) stages done
      { s with queued := s.queued ++ [(i : Int)] } := by
  rw [canPut_eq books.found, books.isOpen, books.room, Bool.or_false, decide_eq_true_eq] at ready
  have valid : i + 1 + left = k := valid
  have behind := books.behind
  have inOrder := books.queued
  have pending := books.pending
  have taken := books.taken
  simp only [Queuer.sent, Queuer.counted, Queuer.started] at behind inOrder pending taken
  have stillTaken : i + 1 - (s.queued.length + 1) = i - s.queued.length := by omega
  refine
    { found := shared?_pushIn books.found i books.isOpen
      room := books.room
      isOpen := books.isOpen
      fits := ?_
      behind := ?_
      queued := ?_
      running := ?_
      pending := ?_
      taken := ?_
      quiet := fun finishedWaiting => absurd finishedWaiting (Queuer.queueFrom_ne_finished _ _) } <;>
    simp only [List.length_append, List.length_singleton, Queuer.sent_queueFrom valid,
      Queuer.counted_queueFrom valid, Queuer.started_queueFrom]
  · omega
  · omega
  · rw [stillTaken, List.range'_concat, List.map_append, ← inOrder]
    simp only [List.map_cons, List.map_nil, List.append_cancel_left_eq]
    congr 2
    omega
  · exact books.running
  · push_cast at pending ⊢
    omega
  · rw [stillTaken]
    exact taken

theorem Books.finish
    (books : Books pool c k m .waiting stages done s)
    (ready : (m.counter pool.pending == 0) = true) :
    Books pool c k m .finished stages done s := by
  rw [beq_iff_eq, Pool.pending_eq books.found] at ready
  exact { books with quiet := fun _ => ready }

end QueuerMoves

end Pool

end PseudoTerm.Control
