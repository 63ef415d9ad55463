import PseudoTerm.Proofs.Runs

namespace PseudoTerm.Machine

/-!
# Threads sharing a memory

Several threads of a program run at once and share its memory; the system answers
their requests one at a time, in some order.  A history lists the exchanges of all
threads in the order they were answered, each with the thread that made it, and the
exchanges of one thread, in order, are a run of that thread's program.

A value read off the memory that no change alters stays as it was (`replay_keeps`).  A
count that one change raises by one and every other change keeps tells the changes
apart: the first change raising it finds it at its start value, every later one finds
it higher (`replay_grows`).
-/

/-- An exchange made by thread `thread`. -/
structure Turn (μ : Type) where
  thread : Nat
  exchange : Exchange μ

variable {μ : Type}

/-- The exchanges of thread `t` in a history, in order. -/
def ofThread (t : Nat) (history : List (Turn μ)) : List (Exchange μ) :=
  history.filterMap fun s => if s.thread = t then some s.exchange else none

@[simp] theorem ofThread_nil (t : Nat) : ofThread t ([] : List (Turn μ)) = [] := rfl

@[simp] theorem ofThread_append
    (t : Nat)
    (first second : List (Turn μ)) :
    ofThread t (first ++ second) = ofThread t first ++ ofThread t second := by
  simp [ofThread]

@[simp] theorem ofThread_cons_self
    (t : Nat)
    (e : Exchange μ)
    (history : List (Turn μ)) :
    ofThread t (⟨t, e⟩ :: history) = e :: ofThread t history := by
  simp [ofThread]

theorem ofThread_cons_other
    {t t' : Nat}
    (other : t' ≠ t)
    (e : Exchange μ)
    (history : List (Turn μ)) :
    ofThread t (⟨t', e⟩ :: history) = ofThread t history := by
  simp [ofThread, other]

theorem mem_of_mem_ofThread
    {t : Nat}
    {history : List (Turn μ)}
    {e : Exchange μ}
    (member : e ∈ ofThread t history) :
    ⟨t, e⟩ ∈ history := by
  simp only [ofThread, List.mem_filterMap, Option.ite_none_right_eq_some, Option.some.injEq] at member
  obtain ⟨s, inHistory, rfl, rfl⟩ := member
  exact inHistory

/-- Where a thread's run splits at one of its exchanges, the history splits at the turn
of that exchange. -/
theorem ofThread_eq_append_cons
    {t : Nat}
    {history : List (Turn μ)}
    {before after : List (Exchange μ)}
    {e : Exchange μ}
    (split : ofThread t history = before ++ e :: after) :
    ∃ first second, history = first ++ ⟨t, e⟩ :: second ∧
      ofThread t first = before ∧ ofThread t second = after := by
  induction history generalizing before with
  | nil => simp at split
  | cons s rest inductionHypothesis =>
      obtain ⟨t', e'⟩ := s
      by_cases mine : t' = t
      · subst mine
        rw [ofThread_cons_self] at split
        cases before with
        | nil =>
            obtain ⟨rfl, rfl⟩ := List.cons.inj split
            exact ⟨[], rest, rfl, rfl, rfl⟩
        | cons b before =>
            obtain ⟨rfl, later⟩ := List.cons.inj split
            obtain ⟨first, second, rfl, ownFirst, ownSecond⟩ := inductionHypothesis later
            exact ⟨⟨t', e'⟩ :: first, second, rfl, by simp [ownFirst], ownSecond⟩
      · rw [ofThread_cons_other mine] at split
        obtain ⟨first, second, rfl, ownFirst, ownSecond⟩ := inductionHypothesis split
        exact ⟨⟨t', e'⟩ :: first, second, rfl, by rw [ofThread_cons_other mine, ownFirst],
          ownSecond⟩

/-- The memory the changes of the exchanges make of `m`, in order. -/
def replay (m : μ) : List (Exchange μ) → μ
  | [] => m
  | e :: es => replay ((e.request.change?.getD id) m) es

@[simp] theorem replay_nil (m : μ) : replay m [] = m := rfl

@[simp] theorem replay_append
    (m : μ)
    (first second : List (Exchange μ)) :
    replay m (first ++ second) = replay (replay m first) second := by
  induction first generalizing m with
  | nil => rfl
  | cons e rest inductionHypothesis => exact inductionHypothesis _

/-- The answer of an exchange agrees with the memory `m` it was made on: an update
answers what its change makes of `m`, and an await is answered only when its condition
holds of `m`, with what its change makes of `m`. -/
def Exchange.Fits (m : μ) : Exchange μ → Prop
  | ⟨.update f, x⟩ => x = f m
  | ⟨.await ready f, x⟩ => ready m = true ∧ x = f m
  | _ => True

/-- A request whose change leaves `value` of every memory as it was. -/
def Keeps {β : Type} (value : μ → β) (r : Request μ) : Prop :=
  ∀ f, r.change? = some f → ∀ m, value (f m) = value m

theorem Keeps.of_unchanged
    {β : Type}
    {value : μ → β}
    {r : Request μ}
    (unchanged : r.change? = none) :
    Keeps value r := by
  intro f changed
  rw [unchanged] at changed
  cases changed

theorem replay_keeps
    {β : Type}
    {value : μ → β}
    {m : μ}
    {es : List (Exchange μ)}
    (kept : ∀ e ∈ es, Keeps value e.request) :
    value (replay m es) = value m := by
  induction es generalizing m with
  | nil => rfl
  | cons e rest inductionHypothesis =>
      rw [replay, inductionHypothesis fun e' member => kept e' (by simp [member])]
      cases changed : e.request.change? with
      | none => rfl
      | some f => exact kept e (by simp) f changed m

/-- A request whose change raises `count` by one, or keeps it. -/
def BumpsOrKeeps (count : μ → Option Nat) (bump : μ → μ) (r : Request μ) : Prop :=
  r.change? = some bump ∨ Keeps count r

section Counting

variable {count : μ → Option Nat} {bump : μ → μ}

/-- Along changes that raise the count by one or keep it, the count never falls, and it
rises once one of the changes is the raising one. -/
theorem replay_grows
    (raises : ∀ m n, count m = some n → count (bump m) = some (n + 1))
    {m : μ}
    {n : Nat}
    {es : List (Exchange μ)}
    (steps : ∀ e ∈ es, BumpsOrKeeps count bump e.request)
    (start : count m = some n) :
    ∃ j, count (replay m es) = some j ∧ n ≤ j ∧
      ((∃ e ∈ es, e.request.change? = some bump) → n < j) := by
  induction es generalizing m n with
  | nil => exact ⟨n, start, Nat.le_refl n, by simp⟩
  | cons e rest inductionHypothesis =>
      have later : ∀ e' ∈ rest, BumpsOrKeeps count bump e'.request :=
        fun e' member => steps e' (by simp [member])
      have first : ∃ n', count ((e.request.change?.getD id) m) = some n' ∧ n ≤ n' ∧
          (e.request.change? = some bump → n < n') := by
        rcases steps e (by simp) with raised | kept
        · exact ⟨n + 1, by simpa [raised] using raises m n start, by omega, fun _ => by omega⟩
        · cases changed : e.request.change? with
          | none => exact ⟨n, start, Nat.le_refl n, nofun⟩
          | some f =>
              refine ⟨n, by rw [Option.getD_some, kept f changed m, start], Nat.le_refl n, ?_⟩
              intro same
              cases same
              have both := kept bump changed m
              rw [raises m n start, start] at both
              simp at both
      obtain ⟨n', counted, grew, raisedFirst⟩ := first
      obtain ⟨j, countedAll, atLeast, rises⟩ := inductionHypothesis later counted
      refine ⟨j, countedAll, by omega, ?_⟩
      rintro ⟨e', member, raisedHere⟩
      simp only [List.mem_cons] at member
      rcases member with rfl | inRest
      · have := raisedFirst raisedHere
        omega
      · have := rises ⟨e', inRest, raisedHere⟩
        omega

end Counting

end PseudoTerm.Machine
