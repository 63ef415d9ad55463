import PseudoTerm.Proofs.PoolBooks

/-!
# Every run of a pool

One thread makes a pool of `c` workers for `job`, queues jobs `0, …, k - 1` on it one
after another and waits for them (`Pool.runJobs`).  Whatever the order in which the
threads are scheduled, and whatever the jobs do besides leaving the pool's records alone:

* the count of running jobs stays between `0` and `c`,
* each worker runs whole rounds one after another, a round taking one job off the queue
  and running it to its end,
* the queuer is held up only by a full queue, or by waiting while jobs are pending,
* some thread can always go on, unless a worker is inside a job that has not returned,
* once the wait is over, every job has returned, none is running, and the jobs the
  workers ran are exactly `0, …, k - 1`, each once.

`Pool.Follows` says where every thread stands against the ghost stages of
`Pool.Books`, and one step of any thread keeps it (`Pool.Follows.step`).
-/

namespace PseudoTerm.Control

open PseudoTerm.Machine

namespace Pool

/-- The records of a pool made on memory `m`: the next three keys. -/
def madeOn (m : Memory) : Pool := ⟨m.next, m.next + 1, m.next + 2⟩

/-- Make a pool of `workers` workers for `job`, queue jobs `0, …, k - 1` on it and wait
for them all, as a thread using a pool does. -/
def runJobs (workers : Int) (job : Nat → Prog Memory Unit) (k rounds : Nat) : Prog Memory Unit := do
  let pool ← make workers job rounds
  for i in List.range k do
    pool.enqueue i
  pool.wait

section Scenario

variable (pool : Pool) (job : Nat → Prog Memory Unit) (rounds : Nat)

theorem forIn_spawn {α : Type} (l : List α) :
    forIn l PUnit.unit (fun _ _ => do
      Sys.spawnThread (pool.work job rounds)
      pure (ForInStep.yield PUnit.unit)) = spawnWorkers pool job rounds l.length := by
  induction l with
  | nil => rfl
  | cons a l inductionHypothesis =>
      rw [List.forIn_cons, Prog.bind_assoc]
      show (Sys.spawnThread _ >>= fun _ => forIn l PUnit.unit _) = _
      rw [inductionHypothesis]
      rfl

theorem forIn_enqueue (i n : Nat) :
    forIn (List.range' i n) PUnit.unit (fun i _ => do
      pool.enqueue i
      pure (ForInStep.yield PUnit.unit)) = enqueueFrom pool i n := by
  induction n generalizing i with
  | zero => rfl
  | succ n inductionHypothesis =>
      rw [List.range'_succ, List.forIn_cons, Prog.bind_assoc]
      show (pool.enqueue i >>= fun _ => forIn (List.range' (i + 1) n) PUnit.unit _) = _
      rw [inductionHypothesis]
      rfl

theorem runJobs_eq (workers : Int) (k : Nat) :
    runJobs workers job k rounds =
      makeChannel (WorkerPool.workerCount workers) >>= fun q => makeCounter 0 >>= fun p =>
        makeCounter 0 >>= fun r =>
          (Queuer.spawnFrom k (WorkerPool.workerCount workers)).prog ⟨q, p, r⟩ job rounds k := by
  unfold runJobs make
  simp only [Prog.bind_assoc, forIn_spawn, List.range_eq_range', List.length_range', forIn_enqueue,
    Queuer.prog_spawnFrom]
  rfl

end Scenario

/-! ## Where the threads stand -/

section Follows

variable (pool : Pool) (job : Nat → Prog Memory Unit) (rounds c k : Nat)

/-- Where every thread of a team stands: the queuer at its stage; each worker started so
far at its stage, having run the rounds of `done`, of `rounds` in all; the workers not
yet started idle; and every other thread a body some job started, which leaves the pool
alone and then ends. -/
structure Follows (team : Team Memory) (history : List (Turn Memory)) (queuer : Queuer)
    (stages : Nat → Stage) (done : Nat → List Int) : Prop where
  valid : queuer.Valid c k
  queuerAt : team.threads[0]? = some (queuer.prog pool job rounds k)
  workerAt : ∀ w ∈ Finset.Icc 1 (queuer.started c), team.threads[w]? = some ((stages w).thread pool job)
  reached : ∀ w ∈ Finset.Icc 1 (queuer.started c), (stages w).Reached pool job (done w) (ofThread w history)
  counts : ∀ w ∈ Finset.Icc 1 (queuer.started c), (stages w).rounds + (done w).length = rounds
  live : ∀ w ∈ Finset.Icc 1 (queuer.started c), (stages w).Live
  fresh : ∀ w, queuer.started c < w → stages w = .idle rounds ∧ done w = []
  alone : queuer.started c < c → team.threads.length = queuer.started c + 1
  others : ∀ t p, queuer.started c < t → team.threads[t]? = some p →
    ∃ b : Prog Memory Unit, p = (b >>= fun _ => Sys.endThread) ∧ Prog.Only (Leaves pool) b ∧ Prog.Detaches b
  books : ∃ s, Books pool c k team.memory queuer stages done s

variable {pool job rounds c k}
variable {team last : Team Memory} {history : List (Turn Memory)} {queuer : Queuer}
  {stages : Nat → Stage} {done : Nat → List Int}

theorem Follows.started_lt_length (follows : Follows pool job rounds c k team history queuer stages done) :
    queuer.started c < team.threads.length := by
  rcases Nat.eq_zero_or_pos (queuer.started c) with none | some
  · rw [none]
    exact (List.getElem?_eq_some_iff.mp follows.queuerAt).1
  · have last := follows.workerAt (queuer.started c) (Finset.mem_Icc.mpr ⟨some, le_refl _⟩)
    exact (List.getElem?_eq_some_iff.mp last).1

/-- A worker's move, given what it does to the worker's thread, to the threads it starts
and to the books, keeps every thread where it stands. -/
theorem Follows.of_worker_move
    {w : Nat}
    {e : Exchange Memory}
    {st' : Stage}
    {s' : Shared}
    (follows : Follows pool job rounds c k team history queuer stages done)
    (member : w ∈ Finset.Icc 1 (queuer.started c))
    (step : Team.Step team ⟨w, e⟩ last)
    (moves : Moves pool job (stages w) e st')
    (live : st'.Live)
    (self : last.threads[w]? = some (st'.thread pool job))
    (born : ∀ t, team.threads.length ≤ t → t < last.threads.length → queuer.started c = c ∧
      ∃ b : Prog Memory Unit, last.threads[t]? = some (b >>= fun _ => Sys.endThread) ∧
        Prog.Only (Leaves pool) b ∧ Prog.Detaches b)
    (books : Books pool c k last.memory queuer (Function.update stages w st')
      (Function.update done w (done w ++ (stages w).finishing)) s') :
    Follows pool job rounds c k last (history ++ [⟨w, e⟩]) queuer (Function.update stages w st')
      (Function.update done w (done w ++ (stages w).finishing)) := by
  have inRange := Finset.mem_Icc.mp member
  have bound := follows.started_lt_length
  have kept : ∀ t, t ≠ w → t < team.threads.length → last.threads[t]? = team.threads[t]? :=
    fun t other existing => step.get?_other other existing
  have history_other : ∀ v, v ≠ w → ofThread v (history ++ [⟨w, e⟩]) = ofThread v history := by
    intro v other
    rw [Team.ofThread_snoc, if_neg (Ne.symm other), List.append_nil]
  refine
    { valid := follows.valid
      queuerAt := by rw [kept 0 (by omega) (by omega)]; exact follows.queuerAt
      workerAt := fun v inV => ?_
      reached := fun v inV => ?_
      counts := fun v inV => ?_
      live := fun v inV => ?_
      fresh := fun v late => ?_
      alone := fun fewer => ?_
      others := fun t p late found => ?_
      books := ⟨s', books⟩ }
  · by_cases here : v = w
    · rw [here, Function.update_self]
      exact self
    · have existing : v < team.threads.length := by
        have := Finset.mem_Icc.mp inV
        omega
      rw [Function.update_of_ne here, kept v here existing]
      exact follows.workerAt v inV
  · by_cases here : v = w
    · subst here
      rw [Team.ofThread_snoc, if_pos rfl, Function.update_self, Function.update_self]
      exact (follows.reached v inV).move pool job moves
    · rw [history_other v here, Function.update_of_ne here, Function.update_of_ne here]
      exact follows.reached v inV
  · by_cases here : v = w
    · subst here
      have going : st' ≠ .stopped := by
        rintro rfl
        exact live
      have moved := Moves.rounds pool job moves going
      have before := follows.counts v inV
      rw [Function.update_self, Function.update_self, List.length_append]
      omega
    · rw [Function.update_of_ne here, Function.update_of_ne here]
      exact follows.counts v inV
  · by_cases here : v = w
    · rw [here, Function.update_self]
      exact live
    · rw [Function.update_of_ne here]
      exact follows.live v inV
  · have other : v ≠ w := by omega
    rw [Function.update_of_ne other, Function.update_of_ne other]
    exact follows.fresh v late
  · -- while workers are still being started no job runs, so no thread was born
    have same : last.threads.length = team.threads.length := by
      have longer := step.length_le
      by_contra grown
      obtain ⟨all, -⟩ := born team.threads.length le_rfl (by omega)
      omega
    rw [same]
    exact follows.alone fewer
  · by_cases old : t < team.threads.length
    · rw [kept t (by omega) old] at found
      exact follows.others t p late found
    · have inLast := (List.getElem?_eq_some_iff.mp found).1
      obtain ⟨-, b, atT, only, detaches⟩ := born t (by omega) inLast
      rw [atT, Option.some.injEq] at found
      exact ⟨b, found.symm, only, detaches⟩

theorem Follows.step_worker
    (apart : pool.pending ≠ pool.running)
    (jobsLeave : ∀ i, Prog.Only (Leaves pool) (job i))
    (jobsDetach : ∀ i, Prog.Detaches (job i))
    {w : Nat}
    {e : Exchange Memory}
    (follows : Follows pool job rounds c k team history queuer stages done)
    (member : w ∈ Finset.Icc 1 (queuer.started c))
    (step : Team.Step team ⟨w, e⟩ last) :
    ∃ stages' done', Follows pool job rounds c k last (history ++ [⟨w, e⟩]) queuer stages' done' := by
  obtain ⟨s, books⟩ := follows.books
  have reached := follows.reached w member
  have current := follows.workerAt w member
  have existing : w < team.threads.length := (List.getElem?_eq_some_iff.mp current).1
  obtain ⟨r, next, x, asked, answered, moved⟩ := step.of_call
  rw [current, Option.some.injEq] at asked
  obtain ⟨st', moves, continues⟩ := Stage.step pool job asked x
  change e = ⟨r, x⟩ at answered
  subst answered
  by_cases plain : r.startsThread = false
  · -- a request that starts no thread: the worker moves alone
    have shape := moved plain
    have restLeaves : ∀ left i rest, stages w = .running left i rest → Prog.Only (Leaves pool) rest := by
      intro left i rest was
      rw [was] at reached
      exact reached.rest_only pool job jobsLeave
    obtain ⟨liveNow, s', booksNow⟩ :=
      books.move apart member (follows.live w member) restLeaves moves step.fits
    refine ⟨_, _, follows.of_worker_move member step moves liveNow ?_ ?_ (by rw [shape]; exact booksNow)⟩
    · rw [shape]
      exact (List.getElem?_set_self existing).trans (congrArg some continues)
    · intro t late inLast
      rw [shape, List.length_set] at inLast
      omega
  · -- a thread start: the worker is inside its job, which starts a detached body
    obtain ⟨left, i, next', was, rfl⟩ := Moves.of_starting pool job moves (by simpa using plain)
    rw [was] at reached current
    rw [Stage.thread_running] at current
    obtain ⟨x', answered, leaves, -, -, memory, self, born⟩ := step.of_detaches current
      (reached.rest_only pool job jobsLeave) (reached.rest_detaches pool job jobsDetach)
    cases answered
    have allStarted : queuer.started c = c := books.started_of_held member (by rw [was]; simp [Stage.held])
    have keptDone : Function.update done w (done w ++ (stages w).finishing) = done := by
      rw [was]
      show Function.update done w (done w ++ []) = done
      rw [List.append_nil]
      exact Function.update_eq_self w done
    have booksNow : Books pool c k last.memory queuer (Function.update stages w (.running left i (next' x)))
        (Function.update done w (done w ++ (stages w).finishing)) s := by
      rw [keptDone, memory]
      exact books.keep (leaves.shared?_change books.found) (by rw [was]; rfl) (by rw [was]; rfl)
    refine ⟨_, _, follows.of_worker_move member step moves trivial ?_ ?_ booksNow⟩
    · rw [Stage.thread_running]
      exact self
    · intro t late inLast
      exact ⟨allStarted, born t late inLast⟩

/-- A move of the queuer that starts no worker, given what it does to the queuer's thread
and to the books, keeps every thread where it stands. -/
theorem Follows.of_queuer_move
    {e : Exchange Memory}
    {queuer' : Queuer}
    {s' : Shared}
    (follows : Follows pool job rounds c k team history queuer stages done)
    (step : Team.Step team ⟨0, e⟩ last)
    (valid : queuer'.Valid c k)
    (sameStarted : queuer'.started c = queuer.started c)
    (self : last.threads[0]? = some (queuer'.prog pool job rounds k))
    (sameLength : last.threads.length = team.threads.length)
    (books : Books pool c k last.memory queuer' stages done s') :
    Follows pool job rounds c k last (history ++ [⟨0, e⟩]) queuer' stages done := by
  have kept : ∀ t, 0 < t → t < team.threads.length → last.threads[t]? = team.threads[t]? :=
    fun t later existing => step.get?_other (Nat.ne_of_gt later) existing
  have history_other : ∀ v, 0 < v → ofThread v (history ++ [⟨0, e⟩]) = ofThread v history := by
    intro v later
    rw [Team.ofThread_snoc, if_neg (Nat.ne_of_lt later), List.append_nil]
  have bound := follows.started_lt_length
  refine
    { valid := valid
      queuerAt := self
      workerAt := fun v inV => ?_
      reached := fun v inV => ?_
      counts := fun v inV => ?_
      live := fun v inV => ?_
      fresh := fun v late => follows.fresh v (sameStarted ▸ late)
      alone := fun fewer => ?_
      others := fun t p late found => ?_
      books := ⟨s', books⟩ } <;> rw [sameStarted] at *
  · have inRange := Finset.mem_Icc.mp inV
    rw [kept v (by omega) (by omega)]
    exact follows.workerAt v inV
  · rw [history_other v (Finset.mem_Icc.mp inV).1]
    exact follows.reached v inV
  · exact follows.counts v inV
  · exact follows.live v inV
  · rw [sameLength]
    exact follows.alone fewer
  · have existing : t < team.threads.length := sameLength ▸ (List.getElem?_eq_some_iff.mp found).1
    rw [kept t (by omega) existing] at found
    exact follows.others t p late found

theorem Follows.step_spawn
    {left : Nat}
    {e : Exchange Memory}
    (follows : Follows pool job rounds c k team history (.spawning (left + 1)) stages done)
    (turns : ∀ turn ∈ history, turn.thread < team.threads.length)
    (step : Team.Step team ⟨0, e⟩ last) :
    Follows pool job rounds c k last (history ++ [⟨0, e⟩]) (Queuer.spawnFrom k left) stages done := by
  obtain ⟨s, books⟩ := follows.books
  have valid := follows.valid
  obtain ⟨-, fits⟩ := valid
  have current := follows.queuerAt
  rw [Queuer.prog_spawning] at current
  obtain ⟨-, moved⟩ := step.of_startThread current
  simp only [Bool.false_eq_true, ↓reduceIte] at moved
  subst moved
  obtain ⟨n, startedThen, newest⟩ : ∃ n, (Queuer.spawning (left + 1)).started c = n ∧ c - left = n + 1 :=
    ⟨_, rfl, by simp only [Queuer.started]; omega⟩
  have startedNow : (Queuer.spawnFrom k left).started c = n + 1 := by
    rw [Queuer.started_spawnFrom (by omega)]
    exact newest
  have length : team.threads.length = n + 1 := by
    rw [follows.alone (by rw [startedThen]; omega), startedThen]
  have fresh := follows.fresh (n + 1) (by omega)
  have keptStages : Function.update stages (c - left) (.idle rounds) = stages := by
    rw [newest, ← fresh.1]
    exact Function.update_eq_self _ _
  have keptDone : Function.update done (c - left) [] = done := by
    rw [newest, ← fresh.2]
    exact Function.update_eq_self _ _
  have booksNow := books.spawn rounds follows.valid
  rw [keptStages, keptDone] at booksNow
  have kept : ∀ v, 0 < v → v ≤ n → (team.threads.set 0 ((Queuer.spawnFrom k left).prog pool job rounds k) ++
      [work pool job rounds >>= fun _ => Sys.endThread])[v]? = team.threads[v]? := by
    intro v later below
    rw [List.getElem?_append_left (by simp; omega), List.getElem?_set_ne (by omega)]
  have history_other : ∀ v, 0 < v → ofThread v (history ++ [⟨0, e⟩]) = ofThread v history := by
    intro v later
    rw [Team.ofThread_snoc, if_neg (Nat.ne_of_lt later), List.append_nil]
  refine
    { valid := Queuer.valid_spawnFrom (by omega)
      queuerAt := ?_
      workerAt := fun v inV => ?_
      reached := fun v inV => ?_
      counts := fun v inV => ?_
      live := fun v inV => ?_
      fresh := fun v late => follows.fresh v (by rw [startedThen]; rw [startedNow] at late; omega)
      alone := fun _ => by simp [length, startedNow]
      others := fun t p late found => ?_
      books := ⟨s, booksNow⟩ }
  · rw [List.getElem?_append_left (by simp; omega)]
    exact List.getElem?_set_self (by omega)
  · rw [startedNow] at inV
    have inRange := Finset.mem_Icc.mp inV
    rcases Nat.lt_or_ge v (n + 1) with older | newer
    · rw [kept v inRange.1 (by omega)]
      exact follows.workerAt v (Finset.mem_Icc.mpr ⟨inRange.1, by rw [startedThen]; omega⟩)
    · have same : v = n + 1 := by omega
      subst same
      rw [List.getElem?_append_right (by simp; omega), fresh.1]
      simp [length]
      rfl
  · rw [startedNow] at inV
    have inRange := Finset.mem_Icc.mp inV
    rw [history_other v inRange.1]
    rcases Nat.lt_or_ge v (n + 1) with older | newer
    · exact follows.reached v (Finset.mem_Icc.mpr ⟨inRange.1, by rw [startedThen]; omega⟩)
    · -- the new worker has taken no turn
      have same : v = n + 1 := by omega
      subst same
      rw [fresh.1, fresh.2, Team.ofThread_eq_nil_of_lt (fun turn member => length ▸ turns turn member)]
      exact ⟨[], [], rfl, .nil, rfl⟩
  · rw [startedNow] at inV
    have inRange := Finset.mem_Icc.mp inV
    rcases Nat.lt_or_ge v (n + 1) with older | newer
    · exact follows.counts v (Finset.mem_Icc.mpr ⟨inRange.1, by rw [startedThen]; omega⟩)
    · have same : v = n + 1 := by omega
      subst same
      rw [fresh.1, fresh.2]
      rfl
  · rw [startedNow] at inV
    have inRange := Finset.mem_Icc.mp inV
    rcases Nat.lt_or_ge v (n + 1) with older | newer
    · exact follows.live v (Finset.mem_Icc.mpr ⟨inRange.1, by rw [startedThen]; omega⟩)
    · have same : v = n + 1 := by omega
      subst same
      rw [fresh.1]
      trivial
  · -- no thread stands after the workers yet
    have inLast := (List.getElem?_eq_some_iff.mp found).1
    simp only [List.length_append, List.length_set, List.length_singleton] at inLast
    rw [startedNow] at late
    omega

theorem Follows.step_queuer
    (apart : pool.pending ≠ pool.running)
    {e : Exchange Memory}
    (follows : Follows pool job rounds c k team history queuer stages done)
    (turns : ∀ turn ∈ history, turn.thread < team.threads.length)
    (step : Team.Step team ⟨0, e⟩ last) :
    ∃ queuer', Follows pool job rounds c k last (history ++ [⟨0, e⟩]) queuer' stages done := by
  obtain ⟨s, books⟩ := follows.books
  have valid := follows.valid
  have current := follows.queuerAt
  have existing : 0 < team.threads.length := (List.getElem?_eq_some_iff.mp current).1
  cases queuer with
  | spawning left =>
      cases left with
      | zero => exact absurd valid.1 (Nat.lt_irrefl 0)
      | succ left => exact ⟨_, follows.step_spawn turns step⟩
  | queueing i left =>
      cases left with
      | zero => exact absurd valid.1 (Nat.lt_irrefl 0)
      | succ left =>
          rw [Queuer.prog_queueing] at current
          obtain ⟨-, moved⟩ := step.of_update current
          subst moved
          have counting : i + 1 + left = k := by
            have queued := valid.2
            omega
          refine ⟨.sending i left, ?_⟩
          exact follows.of_queuer_move step counting rfl (List.getElem?_set_self existing) (List.length_set ..)
            (books.countPending apart)
  | sending i left =>
      rw [Queuer.prog_sending] at current
      obtain ⟨ready, -, moved⟩ := step.of_await current
      subst moved
      have sentBefore : i + 1 + left = k := valid
      refine ⟨Queuer.queueFrom (i + 1) left, ?_⟩
      exact follows.of_queuer_move step (Queuer.valid_queueFrom sentBefore) (Queuer.started_queueFrom _ _)
        (List.getElem?_set_self existing) (List.length_set ..) (books.push valid ready)
  | waiting =>
      rw [Queuer.prog_waiting] at current
      obtain ⟨ready, -, moved⟩ := step.of_await current
      subst moved
      refine ⟨.finished, ?_⟩
      exact follows.of_queuer_move step trivial rfl (List.getElem?_set_self existing) (List.length_set ..)
        (books.finish ready)
  | finished => exact (step.of_pure current).elim

/-- One step of a thread some job started keeps every thread where it stands: the
thread goes on with its body, and a thread it starts runs a body of its own. -/
theorem Follows.step_other
    {t : Nat}
    {e : Exchange Memory}
    (follows : Follows pool job rounds c k team history queuer stages done)
    (late : queuer.started c < t)
    (step : Team.Step team ⟨t, e⟩ last) :
    Follows pool job rounds c k last (history ++ [⟨t, e⟩]) queuer stages done := by
  obtain ⟨s, books⟩ := follows.books
  obtain ⟨r, next, x, asked, -, -⟩ := step.of_call
  obtain ⟨b, started, only, detaches⟩ := follows.others t _ late asked
  have existing : t < team.threads.length := step.thread_lt
  have bound := follows.started_lt_length
  rcases Prog.bind_eq_call started.symm with ⟨next', first, -⟩ | ⟨a, -, ending⟩
  · subst first
    rw [started] at asked
    obtain ⟨x', -, leaves, only', detaches', memory, self, born⟩ := step.of_detaches asked only detaches
    have kept : ∀ v, v ≠ t → v < team.threads.length → last.threads[v]? = team.threads[v]? :=
      fun v other existing => step.get?_other other existing
    have history_other : ∀ v, v ≠ t → ofThread v (history ++ [⟨t, e⟩]) = ofThread v history := by
      intro v other
      rw [Team.ofThread_snoc, if_neg (Ne.symm other), List.append_nil]
    have worker : ∀ v ∈ Finset.Icc 1 (queuer.started c), v ≠ t ∧ v < team.threads.length := by
      intro v inV
      have := Finset.mem_Icc.mp inV
      omega
    refine
      { valid := follows.valid
        queuerAt := by rw [kept 0 (by omega) (by omega)]; exact follows.queuerAt
        workerAt := fun v inV => by
          rw [kept v (worker v inV).1 (worker v inV).2]
          exact follows.workerAt v inV
        reached := fun v inV => by
          rw [history_other v (worker v inV).1]
          exact follows.reached v inV
        counts := follows.counts
        live := follows.live
        fresh := follows.fresh
        alone := fun fewer => absurd (follows.alone fewer) (by omega)
        others := fun t' p late' found => ?_
        books := ⟨s, books.of_found (memory ▸ leaves.shared?_change books.found)⟩ }
    by_cases here : t' = t
    · subst here
      rw [self, Option.some.injEq] at found
      exact ⟨next' x', found.symm, only', detaches'⟩
    · by_cases old : t' < team.threads.length
      · rw [kept t' here old] at found
        exact follows.others t' p late' found
      · obtain ⟨body, atT, onlyBody, detachesBody⟩ :=
          born t' (by omega) (List.getElem?_eq_some_iff.mp found).1
        rw [atT, Option.some.injEq] at found
        exact ⟨body, found.symm, onlyBody, detachesBody⟩
  · -- a body that has returned has ended its thread, which takes no more steps
    exact (Prog.endThread_call ending x).elim

theorem Follows.step
    (apart : pool.pending ≠ pool.running)
    (jobsLeave : ∀ i, Prog.Only (Leaves pool) (job i))
    (jobsDetach : ∀ i, Prog.Detaches (job i))
    {turn : Turn Memory}
    (follows : Follows pool job rounds c k team history queuer stages done)
    (turns : ∀ turn ∈ history, turn.thread < team.threads.length)
    (step : Team.Step team turn last) :
    ∃ queuer' stages' done', Follows pool job rounds c k last (history ++ [turn]) queuer' stages' done' := by
  obtain ⟨t, e⟩ := turn
  rcases Nat.eq_zero_or_pos t with queuerTurn | later
  · subst queuerTurn
    obtain ⟨queuer', next⟩ := follows.step_queuer apart turns step
    exact ⟨queuer', stages, done, next⟩
  · by_cases worker : t ≤ queuer.started c
    · obtain ⟨stages', done', next⟩ :=
        follows.step_worker apart jobsLeave jobsDetach (Finset.mem_Icc.mpr ⟨later, worker⟩) step
      exact ⟨queuer, stages', done', next⟩
    · exact ⟨queuer, stages, done, follows.step_other (by omega) step⟩

theorem Follows.run
    (apart : pool.pending ≠ pool.running)
    (jobsLeave : ∀ i, Prog.Only (Leaves pool) (job i))
    (jobsDetach : ∀ i, Prog.Detaches (job i))
    {first : Team Memory}
    {queuer₀ : Queuer}
    {stages₀ : Nat → Stage}
    {done₀ : Nat → List Int}
    (start : Follows pool job rounds c k first [] queuer₀ stages₀ done₀)
    (run : Team.Run first history team) :
    ∃ queuer stages done, Follows pool job rounds c k team history queuer stages done := by
  induction run with
  | refl => exact ⟨_, _, _, start⟩
  | snoc earlier step inductionHypothesis =>
      obtain ⟨queuer, stages, done, follows⟩ := inductionHypothesis
      exact follows.step apart jobsLeave jobsDetach earlier.thread_lt step

/-! ## What the threads can do -/

/-- A worker that has rounds left, and is not waiting for a job the queue does not
have, can go on, unless it is inside a job that waits. -/
theorem Follows.worker_goes
    {w : Nat}
    (follows : Follows pool job rounds c k team history queuer stages done)
    (member : w ∈ Finset.Icc 1 (queuer.started c))
    (working : stages w ≠ .idle 0)
    (ready : ∀ left t, stages w = .ticketed left t → Channel.canTake pool.queue team.memory = true) :
    (∃ turn last, Team.Step team turn last) ∨ ∃ left i r next, stages w = .running left i (.call r next) := by
  have current := follows.workerAt w member
  have live := follows.live w member
  generalize was : stages w = st at current live working ready
  cases st with
  | idle left =>
      cases left with
      | zero => exact absurd rfl working
      | succ left =>
          rw [Stage.thread_idle_succ] at current
          exact .inl ⟨_, _, .update current⟩
  | ticketed left t =>
      rw [Stage.thread_ticketed] at current
      exact .inl ⟨_, _, .await current (ready left t rfl)⟩
  | picking left t got =>
      rw [Stage.thread_picking] at current
      exact .inl ⟨_, _, .update current⟩
  | starting left i =>
      rw [Stage.thread_starting] at current
      exact .inl ⟨_, _, .update current⟩
  | running left i rest =>
      cases rest with
      | pure u =>
          rw [Stage.thread_running_pure] at current
          exact .inl ⟨_, _, .update current⟩
      | call r next => exact .inr ⟨left, i, r, next, rfl⟩
  | releasing left i =>
      rw [Stage.thread_releasing] at current
      exact .inl ⟨_, _, .update current⟩
  | stopped => exact live.elim

/-- While a job is on the queue, the first worker can go on, unless it is inside a job
that waits: it has rounds left, since it has not run every job. -/
theorem Follows.first_goes
    {s : Shared}
    (enough : k ≤ rounds)
    (follows : Follows pool job rounds c k team history queuer stages done)
    (books : Books pool c k team.memory queuer stages done s)
    (member : 1 ∈ Finset.Icc 1 (queuer.started c))
    (waiting : s.queued ≠ []) :
    (∃ turn last, Team.Step team turn last) ∨ ∃ left i r next, stages 1 = .running left i (.call r next) := by
  have some : 0 < s.queued.length := List.length_pos_iff.mpr waiting
  refine follows.worker_goes member ?_ ?_
  · intro finished
    have counted := follows.counts 1 member
    rw [finished] at counted
    have below : (done 1).length ≤ queuer.sent k - s.queued.length := by
      rw [← books.taken_card]
      exact le_trans (Nat.le_add_right _ _)
        (Finset.single_le_sum (f := fun x => (done x).length + (stages x).held.length)
          (fun _ _ => Nat.zero_le _) member)
    have sent := Queuer.sent_le follows.valid
    have behind := books.behind
    simp only [Stage.rounds] at counted
    omega
  · intro left t _
    rw [canTake_eq books.found, books.isOpen, Bool.or_false]
    simpa using waiting

/-- The queuer can go on unless it has finished, or it sends to a full queue, or it waits
while jobs are pending. -/
theorem Follows.queuer_blocked
    (follows : Follows pool job rounds c k team history queuer stages done)
    (stuck : ∀ turn last, turn.thread = 0 → ¬ Team.Step team turn last) :
    team.threads[0]? = some (.pure ()) ∨
      (team.threads[0]? = some pool.wait ∧ team.memory.counter pool.pending ≠ 0) ∨
      (team.memory.channels.get? pool.queue).map (·.items.length) = some c := by
  obtain ⟨s, books⟩ := follows.books
  have current := follows.queuerAt
  have valid := follows.valid
  cases queuer with
  | spawning left =>
      cases left with
      | zero => exact absurd valid.1 (Nat.lt_irrefl 0)
      | succ left =>
          rw [Queuer.prog_spawning] at current
          exact (stuck _ _ rfl (.spawn current)).elim
  | queueing i left =>
      cases left with
      | zero => exact absurd valid.1 (Nat.lt_irrefl 0)
      | succ left =>
          rw [Queuer.prog_queueing] at current
          exact (stuck _ _ rfl (.update current)).elim
  | sending i left =>
      rw [Queuer.prog_sending] at current
      by_cases ready : Channel.canPut pool.queue team.memory = true
      · exact (stuck _ _ rfl (.await current ready)).elim
      · -- no room: the queue holds `c` jobs
        rw [canPut_eq books.found, books.isOpen, books.room] at ready
        have full : c ≤ s.queued.length := by simpa using ready
        have fits := books.fits
        obtain ⟨channel, found, rfl, -⟩ := shared?_eq_some_iff.mp books.found
        simp only at full fits
        refine .inr (.inr ?_)
        rw [found]
        simp only [Option.map_some, Option.some.injEq]
        omega
  | waiting =>
      have waitingAt := current
      rw [Queuer.prog_waiting] at current
      by_cases ready : (team.memory.counter pool.pending == 0) = true
      · exact (stuck _ _ rfl (.await current ready)).elim
      · exact .inr (.inl ⟨waitingAt, by simpa using ready⟩)
  | finished => exact .inl current

/-- Until the queuer has finished, some thread can go on, unless a worker is inside a job
that waits. -/
theorem Follows.progress
    (enough : k ≤ rounds)
    (positive : 0 < c)
    (follows : Follows pool job rounds c k team history queuer stages done)
    (going : queuer ≠ .finished) :
    (∃ turn last, Team.Step team turn last) ∨
      ∃ w ∈ Finset.Icc 1 (queuer.started c), ∃ left i r next, stages w = .running left i (.call r next) := by
  obtain ⟨s, books⟩ := follows.books
  have current := follows.queuerAt
  have valid := follows.valid
  have onQueue : queuer.started c = c → s.queued ≠ [] → (∃ turn last, Team.Step team turn last) ∨
      ∃ w ∈ Finset.Icc 1 (queuer.started c), ∃ left i r next, stages w = .running left i (.call r next) := by
    intro allStarted waiting
    have member : 1 ∈ Finset.Icc 1 (queuer.started c) := Finset.mem_Icc.mpr ⟨le_refl 1, by omega⟩
    rcases follows.first_goes enough books member waiting with stepping | inside
    · exact .inl stepping
    · exact .inr ⟨1, member, inside⟩
  cases queuer with
  | spawning left =>
      cases left with
      | zero => exact absurd valid.1 (Nat.lt_irrefl 0)
      | succ left =>
          rw [Queuer.prog_spawning] at current
          exact .inl ⟨_, _, .spawn current⟩
  | queueing i left =>
      cases left with
      | zero => exact absurd valid.1 (Nat.lt_irrefl 0)
      | succ left =>
          rw [Queuer.prog_queueing] at current
          exact .inl ⟨_, _, .update current⟩
  | sending i left =>
      rw [Queuer.prog_sending] at current
      by_cases ready : Channel.canPut pool.queue team.memory = true
      · exact .inl ⟨_, _, .await current ready⟩
      · rw [canPut_eq books.found, books.isOpen, books.room] at ready
        have full : c ≤ s.queued.length := by simpa using ready
        exact onQueue rfl (List.length_pos_iff.mp (by omega))
  | waiting =>
      rw [Queuer.prog_waiting] at current
      by_cases ready : (team.memory.counter pool.pending == 0) = true
      · exact .inl ⟨_, _, .await current ready⟩
      · -- jobs are pending: on the queue, or held by a worker
        rw [beq_iff_eq, Pool.pending_eq books.found] at ready
        have pending := books.pending_eq
        simp only [Queuer.counted, Queuer.sent, Nat.sub_self, Nat.cast_zero, zero_add] at pending
        by_cases empty : s.queued = []
        · rw [empty, List.length_nil, Nat.cast_zero, zero_add] at pending
          obtain ⟨w, member, holding⟩ := Finset.exists_ne_zero_of_sum_ne_zero (pending ▸ ready)
          have held : (stages w).held ≠ [] := by
            intro free
            rw [free] at holding
            exact holding rfl
          rcases follows.worker_goes member (fun idle => held (by rw [idle]; rfl))
              (fun left t ticketed => absurd (by rw [ticketed]; rfl) held) with stepping | inside
          · exact .inl stepping
          · exact .inr ⟨w, member, inside⟩
        · exact onQueue rfl empty
  | finished => exact absurd rfl going

/-! ## What the records say -/

theorem Follows.counter_running (follows : Follows pool job rounds c k team history queuer stages done) :
    team.memory.counter pool.running = ∑ w ∈ Finset.Icc 1 c, ((stages w).busy : Int) := by
  obtain ⟨s, books⟩ := follows.books
  rw [Pool.running_eq books.found, books.running]
  apply Finset.sum_subset (Finset.Icc_subset_Icc_right queuer.started_le)
  intro w inAll notStarted
  have late : queuer.started c < w := by
    simp only [Finset.mem_Icc, not_and, not_le] at notStarted
    exact notStarted (Finset.mem_Icc.mp inAll).1
  rw [(follows.fresh w late).1]
  rfl

theorem Follows.taken_le (follows : Follows pool job rounds c k team history queuer stages done) :
    ∑ w ∈ Finset.Icc 1 c, ((done w ++ (stages w).held : List Int) : Multiset Int) ≤
      (Multiset.range k).map Int.ofNat := by
  obtain ⟨s, books⟩ := follows.books
  have started : ∑ w ∈ Finset.Icc 1 (queuer.started c), ((done w ++ (stages w).held : List Int) : Multiset Int) =
      ∑ w ∈ Finset.Icc 1 c, ((done w ++ (stages w).held : List Int) : Multiset Int) := by
    apply Finset.sum_subset (Finset.Icc_subset_Icc_right queuer.started_le)
    intro w inAll notStarted
    have late : queuer.started c < w := by
      simp only [Finset.mem_Icc, not_and, not_le] at notStarted
      exact notStarted (Finset.mem_Icc.mp inAll).1
    rw [(follows.fresh w late).1, (follows.fresh w late).2]
    rfl
  rw [← started, books.taken]
  have sent := Queuer.sent_le follows.valid
  exact Multiset.map_le_map (Multiset.range_le.mpr (by omega))

theorem Follows.reached_all
    (follows : Follows pool job rounds c k team history queuer stages done)
    (turns : ∀ turn ∈ history, turn.thread < team.threads.length) :
    ∀ w ∈ Finset.Icc 1 c, (stages w).Reached pool job (done w) (ofThread w history) := by
  intro w member
  have inRange := Finset.mem_Icc.mp member
  by_cases started : w ≤ queuer.started c
  · exact follows.reached w (Finset.mem_Icc.mpr ⟨inRange.1, started⟩)
  · -- a worker not started yet has taken no turn
    have length := follows.alone (by omega)
    obtain ⟨idle, nothing⟩ := follows.fresh w (by omega)
    have silent : ofThread w history = [] :=
      Team.ofThread_eq_nil_of_lt fun turn inHistory => by
        have := turns turn inHistory
        omega
    rw [idle, nothing, silent]
    exact ⟨[], [], rfl, .nil, rfl⟩

/-- Once the wait is over nothing is pending: no job is on the queue or held by a
worker, none is running, and the workers finished exactly the jobs `0, …, k - 1`. -/
theorem Follows.finished_all (follows : Follows pool job rounds c k team history .finished stages done) :
    team.memory.counter pool.running = 0 ∧ (∀ w ∈ Finset.Icc 1 c, (stages w).held = []) ∧
      ∑ w ∈ Finset.Icc 1 c, ((done w : List Int) : Multiset Int) = (Multiset.range k).map Int.ofNat := by
  obtain ⟨s, books⟩ := follows.books
  have quiet := books.quiet rfl
  have pending := books.pending_eq
  simp only [Queuer.counted, Queuer.sent, Queuer.started, Nat.sub_self, Nat.cast_zero, zero_add] at pending
  have nonneg : ∀ w ∈ Finset.Icc 1 c, (0 : Int) ≤ (stages w).held.length := fun _ _ => Int.natCast_nonneg _
  have someHeld := Finset.sum_nonneg nonneg
  have empty : s.queued.length = 0 := by omega
  have free : ∀ w ∈ Finset.Icc 1 c, (stages w).held = [] := by
    intro w member
    have zero := (Finset.sum_eq_zero_iff_of_nonneg nonneg).mp (by omega) w member
    exact List.length_eq_zero_iff.mp (by exact_mod_cast zero)
  refine ⟨?_, free, ?_⟩
  · rw [Pool.running_eq books.found, books.running]
    exact Finset.sum_eq_zero fun w member => by rw [Stage.busy_eq_zero_of_held (free w member)]; rfl
  · have taken := books.taken
    simp only [Queuer.sent, Queuer.started, empty, Nat.sub_zero] at taken
    rw [← taken]
    exact Finset.sum_congr rfl fun w member => by rw [free w member, List.append_nil]

theorem Queuer.eq_finished_of_prog
    {queuer : Queuer}
    (valid : queuer.Valid c k)
    (returned : queuer.prog pool job rounds k = .pure ()) :
    queuer = .finished := by
  cases queuer with
  | spawning left =>
      cases left with
      | zero => exact absurd valid.1 (Nat.lt_irrefl 0)
      | succ left => rw [Queuer.prog_spawning] at returned; cases returned
  | queueing i left =>
      cases left with
      | zero => exact absurd valid.1 (Nat.lt_irrefl 0)
      | succ left => rw [Queuer.prog_queueing] at returned; cases returned
  | sending i left => rw [Queuer.prog_sending] at returned; cases returned
  | waiting => rw [Queuer.prog_waiting] at returned; cases returned
  | finished => rfl

end Follows

/-! ## Every run of a pool's user -/

section Behaves

variable (pool : Pool) (job : Nat → Prog Memory Unit) (c k : Nat)

/-- What a moment of a run of a pool's user shows, for `c` workers and `k` jobs, against
a stage `stages w` of each worker `w` and the jobs `done w` it finished:

* each worker has run whole rounds one after another and then part of one (`rounds`);
* no job is taken twice, and only jobs `0, …, k - 1` are taken (`once`);
* the count of running jobs is the number of workers inside a job (`running`), so it is
  between `0` and `c` (`between`);
* the user is held up only by a full queue, or by a wait while jobs are pending
  (`blocked`);
* until the user returns, some thread can go on, unless a worker is inside a job that
  waits (`goesOn`);
* once the user has returned, no job is running or held by a worker, and the jobs the
  workers finished are `0, …, k - 1`, each once (`finished`). -/
structure Behaves (team : Team Memory) (history : List (Turn Memory)) (stages : Nat → Stage)
    (done : Nat → List Int) : Prop where
  rounds : ∀ w ∈ Finset.Icc 1 c, (stages w).Reached pool job (done w) (ofThread w history)
  once : ∑ w ∈ Finset.Icc 1 c, ((done w ++ (stages w).held : List Int) : Multiset Int) ≤
    (Multiset.range k).map Int.ofNat
  running : team.memory.counter pool.running = ∑ w ∈ Finset.Icc 1 c, ((stages w).busy : Int)
  between : 0 ≤ team.memory.counter pool.running ∧ team.memory.counter pool.running ≤ c
  blocked : (∀ turn last, turn.thread = 0 → ¬ Team.Step team turn last) →
    team.threads[0]? = some (.pure ()) ∨
      (team.threads[0]? = some pool.wait ∧ team.memory.counter pool.pending ≠ 0) ∨
      (team.memory.channels.get? pool.queue).map (·.items.length) = some c
  goesOn : team.threads[0]? ≠ some (.pure ()) →
    (∃ turn last, Team.Step team turn last) ∨
      ∃ w ∈ Finset.Icc 1 c, ∃ left i r next, stages w = .running left i (.call r next)
  finished : team.threads[0]? = some (.pure ()) →
    team.memory.counter pool.running = 0 ∧ (∀ w ∈ Finset.Icc 1 c, (stages w).held = []) ∧
      ∑ w ∈ Finset.Icc 1 c, ((done w : List Int) : Multiset Int) = (Multiset.range k).map Int.ofNat

variable {pool job c k}
variable {rounds : Nat} {team : Team Memory} {history : List (Turn Memory)} {queuer : Queuer}
  {stages : Nat → Stage} {done : Nat → List Int}

theorem Follows.behaves
    (enough : k ≤ rounds)
    (positive : 0 < c)
    (follows : Follows pool job rounds c k team history queuer stages done)
    (turns : ∀ turn ∈ history, turn.thread < team.threads.length) :
    Behaves pool job c k team history stages done := by
  have running := follows.counter_running
  have returned : team.threads[0]? = some (.pure ()) → queuer = .finished := by
    intro atEnd
    rw [follows.queuerAt, Option.some.injEq] at atEnd
    exact Queuer.eq_finished_of_prog follows.valid atEnd
  refine
    { rounds := follows.reached_all turns
      once := follows.taken_le
      running := running
      between := ⟨?_, ?_⟩
      blocked := follows.queuer_blocked
      goesOn := fun going => ?_
      finished := fun atEnd => ?_ }
  · rw [running]
    exact Finset.sum_nonneg fun w _ => Int.natCast_nonneg _
  · have atMostOne : ∀ w ∈ Finset.Icc 1 c, ((stages w).busy : Int) ≤ 1 :=
      fun w _ => by exact_mod_cast (stages w).busy_le_one
    have bound := Finset.sum_le_card_nsmul _ _ _ atMostOne
    rw [running]
    simpa using bound
  · have notFinished : queuer ≠ .finished := by
      rintro rfl
      exact going follows.queuerAt
    rcases follows.progress enough positive notFinished with stepping | ⟨w, member, inside⟩
    · exact .inl stepping
    · have inRange := Finset.mem_Icc.mp member
      exact .inr ⟨w, Finset.mem_Icc.mpr ⟨inRange.1, le_trans inRange.2 queuer.started_le⟩, inside⟩
  · have finishedNow := returned atEnd
    subst finishedNow
    exact follows.finished_all

theorem Behaves.lone
    {m : Memory}
    {f : Memory → Memory}
    {next : Memory → Prog Memory Unit}
    (idle : m.counter pool.running = 0)
    (byUser : ∀ turn ∈ history, turn.thread = 0) :
    Behaves pool job c k ⟨m, [.call (.update f) next]⟩ history (fun _ => .idle 0) (fun _ => []) := by
  have busy : ∑ w ∈ Finset.Icc 1 c, ((Stage.idle 0).busy : Int) = 0 := by simp [Stage.busy]
  refine
    { rounds := fun w member => ?_
      once := by simp [Stage.held]
      running := by rw [idle, busy]
      between := by rw [idle]; omega
      blocked := fun stuck => (stuck _ _ rfl (.update rfl)).elim
      goesOn := fun _ => .inl ⟨_, _, .update (t := 0) rfl⟩
      finished := fun returned => by cases returned }
  have silent : ofThread w history = [] :=
    Team.ofThread_eq_nil_of_lt fun turn inHistory => by
      rw [byUser turn inHistory]
      exact (Finset.mem_Icc.mp member).1
  rw [silent]
  exact ⟨[], [], rfl, .nil, rfl⟩

theorem Behaves.prepend
    {before : List (Turn Memory)}
    (behaves : Behaves pool job c k team history stages done)
    (byUser : ∀ turn ∈ before, turn.thread = 0) :
    Behaves pool job c k team (before ++ history) stages done :=
  { behaves with
    rounds := fun w member => by
      have silent : ofThread w before = [] :=
        Team.ofThread_eq_nil_of_lt fun turn inBefore => by
          rw [byUser turn inBefore]
          exact (Finset.mem_Icc.mp member).1
      rw [ofThread_append, silent, List.nil_append]
      exact behaves.rounds w member }

end Behaves


/-! ## Making the pool -/

/-- The memory once the records of a pool with room for `c` jobs are made on `m`: its
queue and its two counters, under the next three keys. -/
def recordsMade (c : Nat) (m : Memory) : Memory :=
  { m with
    next := m.next + 3
    channels := m.channels.insert m.next { capacity := c }
    counters := (m.counters.insert (m.next + 1) 0).insert (m.next + 2) 0 }

theorem workerCount_pos (requested : Int) : 0 < WorkerPool.workerCount requested := by
  unfold WorkerPool.workerCount
  split <;> omega

section Making

variable {job : Nat → Prog Memory Unit} {rounds : Nat}

theorem shared?_recordsMade
    {c : Nat}
    {m : Memory}
    (fresh : ∀ key, m.next ≤ key → m.channels.get? key = none ∧ m.counters.get? key = none) :
    (madeOn m).shared? (recordsMade c m) = some ⟨[], c, false, 0, 0⟩ := by
  have queue := (fresh m.next (le_refl _)).1
  have pending := (fresh (m.next + 1) (by omega)).2
  have running := (fresh (m.next + 2) (by omega)).2
  have pendingMade : ((m.counters.insert (m.next + 1) 0).insert (m.next + 2) 0).get? (m.next + 1) = some 0 := by
    rw [Table.get?_insert_other _ (by omega), Table.get?_insert_self _ pending]
  have runningMade : ((m.counters.insert (m.next + 1) 0).insert (m.next + 2) 0).get? (m.next + 2) = some 0 := by
    rw [Table.get?_insert_self _ (by rw [Table.get?_insert_other _ (by omega)]; exact running)]
  simp only [shared?, recordsMade, madeOn, Table.get?_insert_self _ queue, pendingMade, runningMade]

/-- Right after the records are made, the user is about to start the workers, and every
thread stands where `Follows` says. -/
theorem Follows.start
    {c k : Nat}
    {m : Memory}
    (fresh : ∀ key, m.next ≤ key → m.channels.get? key = none ∧ m.counters.get? key = none) :
    Follows (madeOn m) job rounds c k ⟨recordsMade c m, [(Queuer.spawnFrom k c).prog (madeOn m) job rounds k]⟩ []
      (Queuer.spawnFrom k c) (fun _ => .idle rounds) (fun _ => []) := by
  have started : (Queuer.spawnFrom k c).started c = 0 := by
    rw [Queuer.started_spawnFrom (le_refl c), Nat.sub_self]
  have none : ∀ w, w ∉ Finset.Icc 1 ((Queuer.spawnFrom k c).started c) := by
    intro w member
    rw [started, Finset.mem_Icc] at member
    omega
  refine
    { valid := Queuer.valid_spawnFrom (le_refl c)
      queuerAt := rfl
      workerAt := fun w member => absurd member (none w)
      reached := fun w member => absurd member (none w)
      counts := fun w member => absurd member (none w)
      live := fun w member => absurd member (none w)
      fresh := fun _ _ => ⟨rfl, rfl⟩
      alone := fun _ => by rw [started]; rfl
      others := fun t p late found => ?_
      books := ⟨_,
        { found := shared?_recordsMade fresh
          room := rfl
          isOpen := rfl
          fits := Nat.zero_le c
          behind := Nat.zero_le _
          queued := by simp
          running := by simp [started]
          pending := by simp [started]
          taken := by simp [started]
          quiet := fun finished => absurd finished (Queuer.spawnFrom_ne_finished c) }⟩ }
  have inTeam := (List.getElem?_eq_some_iff.mp found).1
  simp only [List.length_singleton] at inTeam
  omega

/-- The user's first three turns make the pool's records, one each: a run is either still
among them, or goes on from the records made. -/
theorem runJobs_first_turns
    {workers : Int}
    {k : Nat}
    {m₀ : Memory}
    {history : List (Turn Memory)}
    {team : Team Memory}
    (run : Team.Run ⟨m₀, [runJobs workers job k rounds]⟩ history team) :
    (∃ m f next, team = ⟨m, [.call (.update f) next]⟩ ∧ m.counters.get? (m₀.next + 2) = m₀.counters.get? (m₀.next + 2) ∧
        ∀ turn ∈ history, turn.thread = 0) ∨
      ∃ before rest, history = before ++ rest ∧ (∀ turn ∈ before, turn.thread = 0) ∧
        Team.Run ⟨recordsMade (WorkerPool.workerCount workers) m₀,
          [(Queuer.spawnFrom k (WorkerPool.workerCount workers)).prog (madeOn m₀) job rounds k]⟩ rest team := by
  rw [runJobs_eq] at run
  rcases run.lone_update with ⟨rfl, rfl⟩ | ⟨rest₁, rfl, run₁⟩
  · exact .inl ⟨_, _, _, rfl, rfl, by simp⟩
  rcases run₁.lone_update with ⟨rfl, rfl⟩ | ⟨rest₂, rfl, run₂⟩
  · exact .inl ⟨_, _, _, rfl, rfl, by simp⟩
  rcases run₂.lone_update with ⟨rfl, rfl⟩ | ⟨rest₃, rfl, run₃⟩
  · -- the pending counter is made under the key before the running one
    refine .inl ⟨_, _, _, rfl, ?_, by simp⟩
    exact Table.get?_insert_other _ (by simp [Memory.take]) _
  · exact .inr ⟨[_, _, _], rest₃, rfl, by simp, run₃⟩

end Making

/-! ## Every run -/

/-- Every run of a thread that makes a pool of `workers` workers for `job`, each able to
run `rounds ≥ k` jobs, queues jobs `0, …, k - 1` on it and waits for them, started on a
memory whose keys from `next` on are unused, with jobs that leave the pool's records
alone and start only threads that end: whatever the schedule and whatever the system
answers, every moment of the run shows what `Behaves` says. -/
theorem runJobs_behaves
    (workers : Int)
    (job : Nat → Prog Memory Unit)
    (k rounds : Nat)
    (m₀ : Memory)
    (enough : k ≤ rounds)
    (fresh : ∀ key, m₀.next ≤ key → m₀.channels.get? key = none ∧ m₀.counters.get? key = none)
    (jobsLeave : ∀ i, Prog.Only (Leaves (madeOn m₀)) (job i))
    (jobsDetach : ∀ i, Prog.Detaches (job i))
    {history : List (Turn Memory)}
    {team : Team Memory}
    (run : Team.Run ⟨m₀, [runJobs workers job k rounds]⟩ history team) :
    ∃ stages done, Behaves (madeOn m₀) job (WorkerPool.workerCount workers) k team history stages done := by
  have positive := workerCount_pos workers
  have apart : (madeOn m₀).pending ≠ (madeOn m₀).running := by simp [madeOn]
  rcases runJobs_first_turns run with ⟨m, f, next, rfl, sameCounter, byUser⟩ |
    ⟨before, rest, rfl, byUser, made⟩
  · -- the records are still being made: the counter of running jobs is not there yet
    have idle : m.counter (madeOn m₀).running = 0 := by
      simp [Memory.counter, madeOn, sameCounter, (fresh (m₀.next + 2) (by omega)).2]
    exact ⟨_, _, Behaves.lone idle byUser⟩
  · obtain ⟨queuer, stages, done, follows⟩ := (Follows.start fresh).run apart jobsLeave jobsDetach made
    exact ⟨stages, done, (follows.behaves enough positive made.thread_lt).prepend byUser⟩

/-- A job that adds one to the tally kept under key 9. -/
def countJob (_ : Nat) : Prog Memory Unit := do
  let _ ← Sys.update fun m : Memory => m.addCounter 9 1
  pure ()

theorem countJob_leaves (i : Nat) : Prog.Only (Leaves (madeOn { next := 10, counters := [(9, 0)] })) (countJob i) := by
  refine .call (fun f changed m s found => ?_) fun _ => .pure _
  cases changed
  have other : ∀ k, k ≠ 9 → (m.addCounter 9 1).counters.get? k = m.counters.get? k :=
    fun k differs => Table.get?_modify_other m.counters differs (· + 1)
  have sameChannels : (m.addCounter 9 1).channels = m.channels := rfl
  simpa [shared?, madeOn, sameChannels, other 11 (by decide), other 12 (by decide)] using found

/-- Two workers run two jobs that each add one to a tally, the threads taking turns round
the team: the user queues both jobs, each worker takes one, and the wait returns once both
have returned, the tally then counting two. -/
theorem runJobs_behaves_two_jobs :
    ∃ history last, Team.Run ⟨{ next := 10, counters := [(9, 0)] }, [runJobs 2 countJob 2 2]⟩ history last ∧
      last.threads[0]? = some (.pure ()) ∧ last.memory.counter 9 = 2 ∧
      ∃ stages done, Behaves (madeOn { next := 10, counters := [(9, 0)] }) countJob (WorkerPool.workerCount 2) 2
        last history stages done := by
  obtain ⟨history, last, run, ended⟩ := Team.Run.of_play_any (fun _ => none)
    ⟨{ next := 10, counters := [(9, 0)] }, [runJobs 2 countJob 2 2]⟩
    [0, 0, 0, 0, 1, 0, 2, 0, 0, 1, 0, 1, 0, 1, 2, 1, 2, 1, 2, 1, 2, 1, 2, 2, 0]
    (fun r => r.2.returned 0 && r.2.memory.counter 9 == 2) (by decide +kernel)
  simp only [Bool.and_eq_true, beq_iff_eq] at ended
  have fresh : ∀ key, 10 ≤ key → ({ next := 10, counters := [(9, 0)] } : Memory).channels.get? key = none ∧
      ({ next := 10, counters := [(9, 0)] } : Memory).counters.get? key = none := by
    intro key above
    have differs : (key == 9) = false := beq_false_of_ne (by omega)
    simp [Table.get?, List.lookup, differs]
  exact ⟨history, last, run, Team.returned_iff.1 ended.1, ended.2,
    runJobs_behaves 2 countJob 2 2 _ (le_refl 2) fresh countJob_leaves (fun _ => .call rfl fun _ => .pure _) run⟩

end Pool

end PseudoTerm.Control
