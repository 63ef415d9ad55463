import Mathlib
import PseudoTerm.Relay

/-!
# What a relay hands its sink and what it reports

A relay runs against any sink, whatever counts and faults it answers, and any source,
given as the results of its reads.  To see what the sink is handed, it is wrapped in a
sink that also logs every chunk with its answer (`Sink.logging`); the wrapper changes
nothing the relay does (`run_logging`), so `writes` is the list of the relay's writes.

A write is credited with the count the sink claims when that lies between nothing and
the whole chunk, else with nothing (`WriteAnswer.accepted`); it stops the relay when the
sink failed, when its count is impossible, or when the sink took fewer bytes than given,
in that order of precedence (`WriteAnswer.stop?`).

The course of a relay (`Course`) is read off one read at a time (`run_course`): it takes
the reads up to one that ends the source or whose chunk is not taken whole, and no more.
Main statement: `relay_accounts`, the contract of a relay (`Accounts`): the sink is handed
exactly the non-empty chunks of the reads taken, in order; every chunk size reported is
positive and they add up to the total, which is what the writes were credited with, at
most the bytes read and all of them when nothing went wrong; the relay ends without a
fault exactly when the source ended and every write was taken whole, and a write's own
failure comes before a read fault reported with the same chunk.
-/

namespace PseudoTerm.Relay

variable {σ : Type}

namespace WriteAnswer

/-- The bytes a write is credited with: the count the sink claims when it lies between
nothing and the whole chunk, else nothing. -/
def accepted (a : WriteAnswer) (chunk : List UInt8) : Nat :=
  if 0 ≤ a.count ∧ a.count ≤ chunk.length then a.count.toNat else 0

/-- Why a write stops the relay, in order of precedence: the sink's own fault, a count
outside `0 … chunk length`, fewer bytes taken than given. -/
def stop? (a : WriteAnswer) (chunk : List UInt8) : Option Fault :=
  match a.fault with
  | some f => some f
  | none =>
    if ¬(0 ≤ a.count ∧ a.count ≤ chunk.length) then some invalidWrite
    else if a.count ≠ chunk.length then some .shortWrite
    else none

theorem stop?_eq_none_iff {a : WriteAnswer} {chunk : List UInt8} :
    a.stop? chunk = none ↔ a.fault = none ∧ a.count = chunk.length := by
  unfold stop?
  split
  · simp_all
  · by_cases valid : 0 ≤ a.count ∧ a.count ≤ chunk.length
    · by_cases claimed : a.count = chunk.length <;> simp_all
    · simp only [valid, not_false_eq_true, if_true, reduceCtorEq, false_iff, not_and]
      omega

theorem accepted_le (a : WriteAnswer) (chunk : List UInt8) : a.accepted chunk ≤ chunk.length := by
  unfold accepted
  split <;> omega

theorem accepted_of_stop?_eq_none {a : WriteAnswer} {chunk : List UInt8} (whole : a.stop? chunk = none) :
    a.accepted chunk = chunk.length := by
  obtain ⟨-, claimed⟩ := stop?_eq_none_iff.mp whole
  simp [accepted, claimed]

end WriteAnswer

/-- The fault the relay ends with when a read reports `f`: none for the end of the source. -/
def endFault (f : Fault) : Option Fault := if f = .endOfStream then none else some f

/-- What a write credited with `n` bytes reports on the metrics channel. -/
def reported (metrics : Bool) (n : Nat) : List Nat := [n].filter fun k => metrics && 0 < k

/-! ## One read -/

section Steps

variable (sink : Sink σ) (metrics : Bool) (s : σ) {r : ReadResult} (rest : List ReadResult)

theorem run_cons_of_empty (empty : r.data = []) :
    run sink metrics s (r :: rest) = r.fault.elim (run sink metrics s rest) fun f => (⟨0, endFault f, []⟩, s) := by
  simp only [run, empty, List.isEmpty_nil, if_true]
  rcases r.fault with _ | f
  · rfl
  · by_cases ended : f = .endOfStream
    · subst ended
      simp [endFault]
    · simp [endFault, ended]

/-- A read with bytes hands them to the sink; a write that stops the relay ends it with its
credit, and one taken whole is followed as a read without bytes is. -/
theorem run_cons_of_write (full : r.data ≠ []) {s₁ : σ} {a : WriteAnswer} (wrote : sink.write s r.data = (s₁, a)) :
    run sink metrics s (r :: rest) =
      match a.stop? r.data with
      | some f => (⟨a.accepted r.data, some f, reported metrics (a.accepted r.data)⟩, s₁)
      | none =>
        let (o, s₂) := r.fault.elim (run sink metrics s₁ rest) fun f => (⟨0, endFault f, []⟩, s₁)
        (⟨r.data.length + o.written, o.fault, reported metrics r.data.length ++ o.chunks⟩, s₂) := by
  have nonempty : r.data.isEmpty = false := List.isEmpty_eq_false_iff.mpr full
  simp only [run, nonempty, wrote]
  by_cases valid : 0 ≤ a.count ∧ a.count ≤ r.data.length
  · have credited : a.accepted r.data = a.count.toNat := if_pos valid
    cases faulted : a.fault with
    | none =>
        by_cases claimed : a.count = r.data.length
        · have whole : a.stop? r.data = none := WriteAnswer.stop?_eq_none_iff.mpr ⟨faulted, claimed⟩
          rcases r.fault with _ | f
          · simp [whole, claimed, reported, List.filter_cons]
          · by_cases ended : f = .endOfStream
            · subst ended
              simp [whole, claimed, reported, endFault, List.filter_cons]
            · simp [whole, claimed, reported, endFault, ended, List.filter_cons]
        · have short : a.stop? r.data = some .shortWrite := by
            simp [WriteAnswer.stop?, faulted, valid, claimed]
          have differs : a.count.toNat ≠ r.data.length := by omega
          simp [short, valid, credited, reported, differs, List.filter_cons]
    | some f => simp [WriteAnswer.stop?, faulted, valid, credited, reported, List.filter_cons]
  · have credited : a.accepted r.data = 0 := if_neg valid
    cases faulted : a.fault <;> simp [WriteAnswer.stop?, faulted, valid, credited, reported]

end Steps

/-! ## The log of writes -/

/-- The sink `sink`, logging every chunk it is handed with its answer. -/
def Sink.logging (sink : Sink σ) : Sink (σ × List (List UInt8 × WriteAnswer)) where
  write := fun state chunk =>
    let (s', a) := sink.write state.1 chunk
    ((s', state.2 ++ [(chunk, a)]), a)

/-- The chunks a relay hands `sink`, in order, each with the sink's answer. -/
def writes (sink : Sink σ) (metrics : Bool) (s : σ) (reads : List ReadResult) :
    List (List UInt8 × WriteAnswer) :=
  (run sink.logging metrics (s, []) reads).2.2

theorem logging_write (sink : Sink σ) (s : σ) (log : List (List UInt8 × WriteAnswer)) (chunk : List UInt8) :
    sink.logging.write (s, log) chunk = (((sink.write s chunk).1, log ++ [(chunk, (sink.write s chunk).2)]),
      (sink.write s chunk).2) := rfl

theorem run_logging (sink : Sink σ) (metrics : Bool) (s : σ) (log : List (List UInt8 × WriteAnswer))
    (reads : List ReadResult) :
    run sink.logging metrics (s, log) reads =
      ((run sink metrics s reads).1, (run sink metrics s reads).2, log ++ writes sink metrics s reads) := by
  induction reads generalizing s log with
  | nil => simp [run, writes]
  | cons r rest inductionHypothesis =>
      unfold writes
      by_cases empty : r.data = []
      · simp only [run_cons_of_empty _ _ _ _ empty]
        rcases r.fault with _ | f
        · simp only [Option.elim]
          rw [inductionHypothesis, inductionHypothesis s []]
          simp
        · simp
      · obtain ⟨⟨s₁, a⟩, wrote⟩ : ∃ answer, sink.write s r.data = answer := ⟨_, rfl⟩
        have logged : ∀ log, sink.logging.write (s, log) r.data = ((s₁, log ++ [(r.data, a)]), a) := by
          intro log
          simp [logging_write, wrote]
        rw [run_cons_of_write _ _ _ _ empty (logged log), run_cons_of_write _ _ _ _ empty (logged []),
          run_cons_of_write _ _ _ _ empty wrote]
        cases a.stop? r.data with
        | some f => simp
        | none =>
            rcases r.fault with _ | f
            · simp only [Option.elim]
              rw [List.nil_append, inductionHypothesis, inductionHypothesis s₁ [(r.data, a)]]
              simp
            · simp

section Writes

variable (sink : Sink σ) (metrics : Bool) (s : σ) {r : ReadResult} (rest : List ReadResult)

theorem writes_nil : writes sink metrics s [] = [] := rfl

theorem writes_cons_of_empty (empty : r.data = []) :
    writes sink metrics s (r :: rest) = r.fault.elim (writes sink metrics s rest) fun _ => [] := by
  unfold writes
  rw [run_cons_of_empty _ _ _ _ empty]
  rcases r.fault with _ | f <;> rfl

theorem writes_cons_of_write (full : r.data ≠ []) {s₁ : σ} {a : WriteAnswer} (wrote : sink.write s r.data = (s₁, a)) :
    writes sink metrics s (r :: rest) =
      (r.data, a) :: if (a.stop? r.data).isNone then r.fault.elim (writes sink metrics s₁ rest) (fun _ => []) else [] := by
  have logged : sink.logging.write (s, []) r.data = ((s₁, [(r.data, a)]), a) := by
    simp [logging_write, wrote]
  unfold writes
  rw [run_cons_of_write _ _ _ _ full logged]
  cases a.stop? r.data with
  | some f => rfl
  | none =>
      rcases r.fault with _ | f
      · simp only [Option.elim]
        rw [run_logging]
        rfl
      · rfl

end Writes

/-! ## The course of a relay -/

/-- The course of a relay that took the reads `before` and then `last`, handed its sink the
writes `log` and reported `o`. -/
structure Course (metrics : Bool) (before : List ReadResult) (last : ReadResult)
    (log : List (List UInt8 × WriteAnswer)) (o : Outcome) : Prop where
  quietBefore : ∀ r ∈ before, r.fault = none
  /-- The sink is handed the non-empty chunks of the reads taken, in order, each once. -/
  handed : log.map Prod.fst = ((before ++ [last]).map ReadResult.data).filter (· ≠ [])
  wholeBefore : ∀ e ∈ log.dropLast, e.2.stop? e.1 = none
  /-- The relay stops at `last`: its write is not taken whole, or it reports a fault. -/
  stops : (∃ e ∈ log.getLast?, e.2.stop? e.1 ≠ none ∧ last.data ≠ []) ∨
    ((∀ e ∈ log, e.2.stop? e.1 = none) ∧ last.fault ≠ none)
  written : o.written = (log.map fun e => e.2.accepted e.1).sum
  chunks : o.chunks = (log.map fun e => e.2.accepted e.1).filter fun n => metrics && 0 < n
  fault : o.fault = (log.findSome? fun e => e.2.stop? e.1).or (last.fault.bind endFault)

namespace Course

variable {metrics : Bool} {before : List ReadResult} {last r : ReadResult}
  {log : List (List UInt8 × WriteAnswer)} {o : Outcome} {a : WriteAnswer} {f : Fault}

theorem cons_empty (empty : r.data = []) (quiet : r.fault = none) (course : Course metrics before last log o) :
    Course metrics (r :: before) last log o where
  quietBefore := by simpa [quiet] using course.quietBefore
  handed := by simpa [empty] using course.handed
  wholeBefore := course.wholeBefore
  stops := course.stops
  written := course.written
  chunks := course.chunks
  fault := course.fault

theorem cons_whole (full : r.data ≠ []) (whole : a.stop? r.data = none) (quiet : r.fault = none)
    (course : Course metrics before last log o) :
    Course metrics (r :: before) last ((r.data, a) :: log)
      ⟨r.data.length + o.written, o.fault, reported metrics r.data.length ++ o.chunks⟩ := by
  have credited := WriteAnswer.accepted_of_stop?_eq_none whole
  obtain ⟨quietBefore, handed, wholeBefore, stops, written, chunks, fault⟩ := course
  refine ⟨?_, ?_, ?_, ?_, ?_, ?_, ?_⟩
  · simpa [quiet] using quietBefore
  · simpa [full] using handed
  · intro e member
    cases log with
    | nil => simp at member
    | cons e' log' =>
        rw [List.dropLast_cons_cons, List.mem_cons] at member
        rcases member with rfl | later
        · exact whole
        · exact wholeBefore e later
  · rcases stops with ⟨e, isLast, stopped, full'⟩ | ⟨wholeAll, faulted⟩
    · have nonempty : log ≠ [] := by
        rintro rfl
        simp at isLast
      left
      exact ⟨e, by rwa [List.getLast?_cons_of_ne_nil nonempty], stopped, full'⟩
    · right
      refine ⟨fun e member => ?_, faulted⟩
      rcases List.mem_cons.mp member with rfl | later
      · exact whole
      · exact wholeAll e later
  · simp [written, credited]
  · simp only [chunks, credited, reported, List.map_cons, List.filter_cons, List.filter_nil]
    split <;> rfl
  · simp [fault, whole]

theorem ended_empty (empty : r.data = []) (faulted : r.fault = some f) :
    Course metrics [] r [] ⟨0, endFault f, []⟩ where
  quietBefore := by simp
  handed := by simp [empty]
  wholeBefore := by simp
  stops := .inr ⟨by simp, by simp [faulted]⟩
  written := rfl
  chunks := rfl
  fault := by simp [faulted]

theorem failed (full : r.data ≠ []) (stopped : a.stop? r.data = some f) :
    Course metrics [] r [(r.data, a)] ⟨a.accepted r.data, some f, reported metrics (a.accepted r.data)⟩ where
  quietBefore := by simp
  handed := by simp [full]
  wholeBefore := by simp
  stops := .inl ⟨(r.data, a), rfl, by simp [stopped], full⟩
  written := by simp
  chunks := rfl
  fault := by simp [stopped]

theorem ended_whole (full : r.data ≠ []) (whole : a.stop? r.data = none) (faulted : r.fault = some f) :
    Course metrics [] r [(r.data, a)] ⟨r.data.length + 0, endFault f, reported metrics r.data.length ++ []⟩ where
  quietBefore := by simp
  handed := by simp [full]
  wholeBefore := by simp
  stops := .inr ⟨by simp [whole], by simp [faulted]⟩
  written := by simp [WriteAnswer.accepted_of_stop?_eq_none whole]
  chunks := by simp [WriteAnswer.accepted_of_stop?_eq_none whole, reported]
  fault := by simp [whole, faulted]

end Course

/-- Every relay over a source that ends takes its reads up to one that ends it or whose chunk
is not taken whole, and runs the course of those reads. -/
theorem run_course (sink : Sink σ) (metrics : Bool) (s : σ) (reads : List ReadResult)
    (ended : ∃ r ∈ reads, r.fault ≠ none) :
    ∃ before last after, reads = before ++ last :: after ∧
      Course metrics before last (writes sink metrics s reads) (run sink metrics s reads).1 := by
  induction reads generalizing s with
  | nil => simp at ended
  | cons r rest inductionHypothesis =>
      have laterEnd : r.fault = none → ∃ r' ∈ rest, r'.fault ≠ none := by
        intro quiet
        obtain ⟨r', member, faulted⟩ := ended
        rcases List.mem_cons.mp member with rfl | later
        · exact absurd quiet faulted
        · exact ⟨r', later, faulted⟩
      by_cases empty : r.data = []
      · rw [run_cons_of_empty _ _ _ _ empty, writes_cons_of_empty _ _ _ _ empty]
        cases faulted : r.fault with
        | none =>
            obtain ⟨before, last, after, split, course⟩ := inductionHypothesis s (laterEnd faulted)
            exact ⟨r :: before, last, after, by simp [split], course.cons_empty empty faulted⟩
        | some f => exact ⟨[], r, rest, rfl, Course.ended_empty empty faulted⟩
      · obtain ⟨⟨s₁, a⟩, wrote⟩ : ∃ answer, sink.write s r.data = answer := ⟨_, rfl⟩
        rw [run_cons_of_write _ _ _ _ empty wrote, writes_cons_of_write _ _ _ _ empty wrote]
        cases stopped : a.stop? r.data with
        | some f => exact ⟨[], r, rest, rfl, Course.failed empty stopped⟩
        | none =>
            cases faulted : r.fault with
            | none =>
                obtain ⟨before, last, after, split, course⟩ := inductionHypothesis s₁ (laterEnd faulted)
                exact ⟨r :: before, last, after, by simp [split], course.cons_whole empty stopped faulted⟩
            | some f => exact ⟨[], r, rest, rfl, Course.ended_whole empty stopped faulted⟩

/-! ## The contract -/

theorem sum_length_filter_ne_nil (chunks : List (List UInt8)) :
    ((chunks.filter (· ≠ [])).map List.length).sum = (chunks.map List.length).sum := by
  induction chunks with
  | nil => rfl
  | cons chunk rest inductionHypothesis =>
      simp only [ne_eq, decide_not] at inductionHypothesis ⊢
      by_cases empty : chunk = [] <;> simp [empty, inductionHypothesis]

namespace Course

variable {metrics : Bool} {before : List ReadResult} {last : ReadResult}
  {log : List (List UInt8 × WriteAnswer)} {o : Outcome}

theorem handed_length (course : Course metrics before last log o) :
    (log.map fun e => e.1.length).sum = ((before ++ [last]).map fun r => r.data.length).sum :=
  calc (log.map fun e => e.1.length).sum
      = ((log.map Prod.fst).map List.length).sum := by simp [List.map_map, Function.comp_def]
    _ = ((((before ++ [last]).map ReadResult.data).filter (· ≠ [])).map List.length).sum := by
        rw [course.handed]
    _ = (((before ++ [last]).map ReadResult.data).map List.length).sum := sum_length_filter_ne_nil _
    _ = ((before ++ [last]).map fun r => r.data.length).sum := by simp [List.map_map, Function.comp_def]

theorem written_le (course : Course metrics before last log o) :
    o.written ≤ ((before ++ [last]).map fun r => r.data.length).sum :=
  calc o.written
      = (log.map fun e => e.2.accepted e.1).sum := course.written
    _ ≤ (log.map fun e => e.1.length).sum := List.sum_le_sum fun e _ => e.2.accepted_le e.1
    _ = ((before ++ [last]).map fun r => r.data.length).sum := course.handed_length

theorem written_of_whole (course : Course metrics before last log o)
    (wholeAll : ∀ e ∈ log, e.2.stop? e.1 = none) :
    o.written = ((before ++ [last]).map fun r => r.data.length).sum :=
  calc o.written
      = (log.map fun e => e.2.accepted e.1).sum := course.written
    _ = (log.map fun e => e.1.length).sum := by
        rw [List.map_congr_left fun e member => WriteAnswer.accepted_of_stop?_eq_none (wholeAll e member)]
    _ = ((before ++ [last]).map fun r => r.data.length).sum := course.handed_length

theorem fault_of_whole (course : Course metrics before last log o)
    (wholeAll : ∀ e ∈ log, e.2.stop? e.1 = none) :
    o.fault = last.fault.bind endFault := by
  rw [course.fault, List.findSome?_eq_none_iff.mpr wholeAll, Option.none_or]

theorem fault_of_stop (course : Course metrics before last log o) {e : List UInt8 × WriteAnswer}
    (member : e ∈ log) (stopped : e.2.stop? e.1 ≠ none) :
    o.fault = e.2.stop? e.1 := by
  have nonempty : log ≠ [] := List.ne_nil_of_mem member
  have split := List.dropLast_append_getLast nonempty
  have isLast : e = log.getLast nonempty := by
    rw [← split, List.mem_append, List.mem_singleton] at member
    rcases member with earlier | isLast
    · exact absurd (course.wholeBefore e earlier) stopped
    · exact isLast
  obtain ⟨f, stoppedWith⟩ := Option.ne_none_iff_exists'.mp stopped
  rw [course.fault, ← split, List.findSome?_append, List.findSome?_eq_none_iff.mpr course.wholeBefore,
    Option.none_or, ← isLast, stoppedWith]
  simp [stoppedWith]

theorem ok_iff (course : Course metrics before last log o) :
    o.fault = none ↔ last.fault = some .endOfStream ∧ ∀ e ∈ log, e.2.stop? e.1 = none := by
  constructor
  · intro ok
    rcases course.stops with ⟨e, isLast, stopped, -⟩ | ⟨wholeAll, faulted⟩
    · have failedWith := course.fault_of_stop (List.mem_of_getLast? isLast) stopped
      rw [ok] at failedWith
      exact absurd failedWith.symm stopped
    · have ended := course.fault_of_whole wholeAll
      obtain ⟨f, faultedWith⟩ := Option.ne_none_iff_exists'.mp faulted
      rw [ok, faultedWith, Option.bind_some, endFault] at ended
      have isEnd : f = .endOfStream := by
        by_contra other
        simp [other] at ended
      exact ⟨faultedWith.trans (congrArg some isEnd), wholeAll⟩
  · rintro ⟨ended, wholeAll⟩
    rw [course.fault_of_whole wholeAll, ended]
    simp [endFault]

end Course

/-- The contract of a relay over `reads` that took the reads `before` and then `last`,
handed its sink the writes `log` and reported `o`. -/
structure Accounts (metrics : Bool) (reads before : List ReadResult) (last : ReadResult)
    (log : List (List UInt8 × WriteAnswer)) (o : Outcome) : Prop extends
    Course metrics before last log o where
  taken : ∃ after, reads = before ++ last :: after
  reportedPositive : ∀ n ∈ o.chunks, 0 < n
  sumReported : metrics = true → o.chunks.sum = o.written
  writtenLe : o.written ≤ ((before ++ [last]).map fun r => r.data.length).sum
  writtenOfOk : o.fault = none → o.written = ((before ++ [last]).map fun r => r.data.length).sum
  okIff : o.fault = none ↔ last.fault = some .endOfStream ∧ ∀ e ∈ log, e.2.stop? e.1 = none
  /-- The fault of a write that stops the relay comes before that of the same read. -/
  faultOfStop : ∀ e ∈ log, e.2.stop? e.1 ≠ none → o.fault = e.2.stop? e.1

theorem sum_filter_pos (counts : List Nat) : (counts.filter fun n => true && 0 < n).sum = counts.sum := by
  rw [← List.sum_filter_bne_zero counts]
  congr 1
  refine List.filter_congr fun n _ => ?_
  cases n <;> simp

theorem Course.accounts {metrics : Bool} {reads before : List ReadResult} {last : ReadResult}
    {log : List (List UInt8 × WriteAnswer)} {o : Outcome}
    (course : Course metrics before last log o)
    (taken : ∃ after, reads = before ++ last :: after) :
    Accounts metrics reads before last log o where
  toCourse := course
  taken := taken
  reportedPositive := by
    intro n member
    rw [course.chunks, List.mem_filter, Bool.and_eq_true, decide_eq_true_eq] at member
    exact member.2.2
  sumReported := by
    rintro rfl
    rw [course.chunks, sum_filter_pos, course.written]
  writtenLe := course.written_le
  writtenOfOk := fun ok => course.written_of_whole (course.ok_iff.mp ok).2
  okIff := course.ok_iff
  faultOfStop := fun _ member stopped => course.fault_of_stop member stopped

/-- A relay's buffer is 32 KiB, or the limit of a limited source below that, at least one byte. -/
theorem bufferSize_some (n : Int) : (bufferSize (some n) : Int) = min 32768 (max 1 n) := by
  show ((if n < 32768 then (if n < 1 then 1 else n.toNat) else 32768 : Nat) : Int) = _
  split
  · split <;> omega
  · omega

theorem relay_accounts (sink : Sink σ) (metrics : Bool) (s : σ) (reads : List ReadResult)
    (ended : ∃ r ∈ reads, r.fault ≠ none) :
    (∃ before last, Accounts metrics reads before last (writes sink metrics s reads) (run sink metrics s reads).1) ∧
      (∀ n : Int, (bufferSize (some n) : Int) = min 32768 (max 1 n)) ∧ bufferSize none = 32768 := by
  obtain ⟨before, last, after, split, course⟩ := run_course sink metrics s reads ended
  exact ⟨⟨before, last, course.accounts ⟨after, split⟩⟩, bufferSize_some, rfl⟩

/-- Two chunks, the second failing to read, into a sink that fills up inside the second. -/
theorem relay_accounts_filling_sink :
    (∃ r ∈ ([⟨[1, 2], none⟩, ⟨[], none⟩, ⟨[3, 4], some (.text "read failed")⟩] : List ReadResult),
        r.fault ≠ none) ∧
      ((∃ before last, Accounts true [⟨[1, 2], none⟩, ⟨[], none⟩, ⟨[3, 4], some (.text "read failed")⟩]
          before last
          (writes (SinkKind.fullAfter 3).sink true {} [⟨[1, 2], none⟩, ⟨[], none⟩, ⟨[3, 4], some (.text "read failed")⟩])
          (run (SinkKind.fullAfter 3).sink true {} [⟨[1, 2], none⟩, ⟨[], none⟩, ⟨[3, 4], some (.text "read failed")⟩]).1) ∧
        (∀ n : Int, (bufferSize (some n) : Int) = min 32768 (max 1 n)) ∧ bufferSize none = 32768) :=
  ⟨by decide, relay_accounts _ _ _ _ (by decide)⟩

end PseudoTerm.Relay
