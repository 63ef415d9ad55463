import PseudoTerm.Machine.Program

namespace PseudoTerm.Machine

/-!
# Runs of programs

A program is a tree of requests, and what it does depends on the answers it gets.  A run
lists each request the program made with the answer it got, in order, up to where the
program then stands.  A statement over every behaviour of the system is a statement over
every run, and what the system promises enters as a condition on the answers of a run:
that the kernel hands out descriptors not in use, that a pipe delivers what was written into it.

`Reaches p es q` says that `p`, answered as `es` records, stands at `q`; a finished run
stands at `.pure a`.  A run of a sequence splits where its first part finished
(`reaches_bind_iff`), so a statement about a composite program follows from one lemma
about each part.  `Only P p` says that every request `p` can make, whatever the answers,
satisfies `P`.
-/

/-- One request of a program, with the answer the system gave it. -/
structure Exchange (μ : Type) where
  request : Request μ
  answer : request.Answer

/-- The change a request makes to the shared memory, if it makes one. -/
def Request.change? {μ : Type} : Request μ → Option (μ → μ)
  | .update f => some f
  | .await _ f => some f
  | _ => none

namespace Prog

variable {μ α β : Type}

@[simp] theorem pure_eq (a : α) : (pure a : Prog μ α) = .pure a := rfl

@[simp] theorem pure_bind (a : α) (f : α → Prog μ β) : (Prog.pure a >>= f) = f a := rfl

@[simp] theorem call_bind
    (r : Request μ)
    (next : r.Answer → Prog μ α)
    (f : α → Prog μ β) :
    (Prog.call r next >>= f) = .call r fun x => next x >>= f := rfl

@[simp] theorem lift_eq (r : Request μ) : Prog.lift r = .call r .pure := rfl

theorem bind_assoc
    {γ : Type}
    (p : Prog μ α)
    (f : α → Prog μ β)
    (g : β → Prog μ γ) :
    (p >>= f >>= g) = p >>= fun a => f a >>= g := by
  induction p with
  | pure a => rfl
  | call r next inductionHypothesis =>
      simp only [call_bind, inductionHypothesis]

theorem bind_pure (p : Prog μ α) : (p >>= Prog.pure) = p := by
  induction p with
  | pure a => rfl
  | call r next inductionHypothesis =>
      simp only [call_bind, inductionHypothesis]

/-- The program `p`, answered as the exchanges `es` record, stands at `q`. -/
inductive Reaches : Prog μ α → List (Exchange μ) → Prog μ α → Prop
  | refl (p : Prog μ α) : Reaches p [] p
  | call {r : Request μ} {next : r.Answer → Prog μ α} (x : r.Answer)
      {es : List (Exchange μ)} {q : Prog μ α} :
      Reaches (next x) es q → Reaches (.call r next) (⟨r, x⟩ :: es) q

@[simp] theorem reaches_pure_iff
    {a : α}
    {es : List (Exchange μ)}
    {q : Prog μ α} :
    Reaches (.pure a) es q ↔ es = [] ∧ q = .pure a := by
  constructor
  · rintro ⟨⟩
    exact ⟨rfl, rfl⟩
  · rintro ⟨rfl, rfl⟩
    exact .refl _

/-- A program waiting on a request either stays there, or the request is answered and
the run goes on from the answer. -/
theorem reaches_call_iff
    {r : Request μ}
    {next : r.Answer → Prog μ α}
    {es : List (Exchange μ)}
    {q : Prog μ α} :
    Reaches (.call r next) es q ↔
      (es = [] ∧ q = .call r next) ∨
        ∃ x rest, es = ⟨r, x⟩ :: rest ∧ Reaches (next x) rest q := by
  constructor
  · rintro (_ | ⟨x, rest⟩)
    · exact .inl ⟨rfl, rfl⟩
    · exact .inr ⟨x, _, rfl, rest⟩
  · rintro (⟨rfl, rfl⟩ | ⟨x, rest, rfl, later⟩)
    · exact .refl _
    · exact .call x later

@[simp] theorem reaches_call_pure_iff
    {r : Request μ}
    {next : r.Answer → Prog μ α}
    {es : List (Exchange μ)}
    {a : α} :
    Reaches (.call r next) es (.pure a) ↔
      ∃ x rest, es = ⟨r, x⟩ :: rest ∧ Reaches (next x) rest (.pure a) := by
  rw [reaches_call_iff]
  simp

theorem Reaches.trans
    {p q s : Prog μ α}
    {es es' : List (Exchange μ)}
    (first : Reaches p es q)
    (second : Reaches q es' s) :
    Reaches p (es ++ es') s := by
  induction first with
  | refl => exact second
  | call x _ inductionHypothesis => exact .call x (inductionHypothesis second)

theorem Reaches.bind_left
    {p q : Prog μ α}
    {es : List (Exchange μ)}
    (run : Reaches p es q)
    (f : α → Prog μ β) :
    Reaches (p >>= f) es (q >>= f) := by
  induction run with
  | refl => exact .refl _
  | call x _ inductionHypothesis => exact .call x inductionHypothesis

/-- A run of a sequence either stays inside its first part, or finishes the first part and
goes on inside the second. -/
theorem reaches_bind_iff
    {p : Prog μ α}
    {f : α → Prog μ β}
    {es : List (Exchange μ)}
    {q : Prog μ β} :
    Reaches (p >>= f) es q ↔
      (∃ p', Reaches p es p' ∧ q = p' >>= f) ∨
        ∃ es₁ es₂ a, es = es₁ ++ es₂ ∧ Reaches p es₁ (.pure a) ∧ Reaches (f a) es₂ q := by
  constructor
  · induction p generalizing es with
    | pure a =>
        intro run
        exact .inr ⟨[], es, a, rfl, .refl _, run⟩
    | call r next inductionHypothesis =>
        intro run
        rw [call_bind, reaches_call_iff] at run
        rcases run with ⟨rfl, rfl⟩ | ⟨x, rest, rfl, later⟩
        · exact .inl ⟨_, .refl _, rfl⟩
        · rcases inductionHypothesis x later with ⟨p', inside, rfl⟩ | ⟨es₁, es₂, a, rfl, first, second⟩
          · exact .inl ⟨p', .call x inside, rfl⟩
          · exact .inr ⟨⟨r, x⟩ :: es₁, es₂, a, rfl, .call x first, second⟩
  · rintro (⟨p', inside, rfl⟩ | ⟨es₁, es₂, a, rfl, first, second⟩)
    · exact inside.bind_left f
    · exact (first.bind_left f).trans second

/-- A finished run of a sequence is a finished run of its first part followed by one of
its second part. -/
theorem reaches_bind_pure_iff
    {p : Prog μ α}
    {f : α → Prog μ β}
    {es : List (Exchange μ)}
    {b : β} :
    Reaches (p >>= f) es (.pure b) ↔
      ∃ es₁ es₂ a, es = es₁ ++ es₂ ∧ Reaches p es₁ (.pure a) ∧ Reaches (f a) es₂ (.pure b) := by
  rw [reaches_bind_iff]
  constructor
  · rintro (⟨p', inside, stands⟩ | finished)
    · cases p' with
      | pure a =>
          rw [pure_bind] at stands
          refine ⟨es, [], a, by simp, inside, ?_⟩
          rw [← stands]
          exact .refl _
      | call r next =>
          rw [call_bind] at stands
          cases stands
    · exact finished
  · exact .inr

/-- Every request `p` can make, whatever answers it gets, satisfies `P`. -/
inductive Only (P : Request μ → Prop) : Prog μ α → Prop
  | pure (a : α) : Only P (.pure a)
  | call {r : Request μ} {next : r.Answer → Prog μ α} :
      P r → (∀ x, Only P (next x)) → Only P (.call r next)

theorem Only.bind
    {P : Request μ → Prop}
    {p : Prog μ α}
    {f : α → Prog μ β}
    (first : Only P p)
    (second : ∀ a, Only P (f a)) :
    Only P (p >>= f) := by
  induction first with
  | pure a => exact second a
  | call allowed _ inductionHypothesis => exact .call allowed inductionHypothesis

/-- A program making only requests that satisfy `P` makes only requests that satisfy a
weaker `Q`. -/
theorem Only.mono
    {P Q : Request μ → Prop}
    {p : Prog μ α}
    (only : Only P p)
    (weaker : ∀ r, P r → Q r) :
    Only Q p := by
  induction only with
  | pure a => exact .pure a
  | call allowed _ inductionHypothesis => exact .call (weaker _ allowed) inductionHypothesis

theorem Only.forIn
    {P : Request μ → Prop}
    {l : List α}
    {b : β}
    {body : α → β → Prog μ (ForInStep β)}
    (only : ∀ a b, Only P (body a b)) :
    Only P (forIn l b body) := by
  induction l generalizing b with
  | nil => exact .pure b
  | cons a rest inductionHypothesis =>
      rw [List.forIn_cons]
      refine (only a b).bind fun step => ?_
      cases step with
      | done b' => exact .pure b'
      | yield b' => exact inductionHypothesis

theorem Only.reaches
    {P : Request μ → Prop}
    {p q : Prog μ α}
    {es : List (Exchange μ)}
    (only : Only P p)
    (run : Reaches p es q) :
    (∀ e ∈ es, P e.request) ∧ Only P q := by
  induction run with
  | refl => exact ⟨by simp, only⟩
  | call x _ inductionHypothesis =>
      cases only with
      | call allowed rest =>
          obtain ⟨made, later⟩ := inductionHypothesis (rest x)
          exact ⟨by simpa [allowed] using made, later⟩

end Prog

/-- A read of `fd`: how many bytes it asked for, and what it got. -/
def Exchange.readFrom? {μ : Type} (fd : Nat) : Exchange μ → Option (Nat × Except Errno ByteArray)
  | ⟨.read fd' max, answer⟩ => if fd' = fd then some (max, answer) else none
  | _ => none

theorem Exchange.readFrom?_eq_none
    {μ : Type}
    {e : Exchange μ}
    (fd : Nat)
    (unread : ∀ fd' max, e.request ≠ .read fd' max) :
    e.readFrom? fd = none := by
  obtain ⟨request, answer⟩ := e
  cases request <;> first | rfl | exact absurd rfl (unread _ _)

/-- The reads of `fd` along the exchanges are answered as a pipe holding `data` with no
writer left answers them: each read gets a prefix of what is left, no longer than asked
for and empty only when nothing is left (or nothing was asked for), so that once the
bytes are used up a read gets the end of the pipe. -/
def Delivers {μ : Type} (fd : Nat) : List UInt8 → List (Exchange μ) → Prop
  | _, [] => True
  | data, e :: es =>
    match e.readFrom? fd with
    | some (max, answer) =>
      ∃ chunk, answer = .ok chunk.toByteArray ∧ chunk <+: data ∧ chunk.length ≤ max ∧
        (chunk = [] → data = [] ∨ max = 0) ∧ Delivers fd (data.drop chunk.length) es
    | none => Delivers fd data es

theorem Delivers.of_append
    {μ : Type}
    {fd : Nat}
    {data : List UInt8}
    {es₁ es₂ : List (Exchange μ)}
    (delivered : Delivers fd data (es₁ ++ es₂)) :
    Delivers fd data es₁ := by
  induction es₁ generalizing data with
  | nil => trivial
  | cons e rest inductionHypothesis =>
      simp only [List.cons_append, Delivers] at delivered ⊢
      split at delivered
      · obtain ⟨chunk, answered, leading, short, empty, later⟩ := delivered
        exact ⟨chunk, answered, leading, short, empty, inductionHypothesis later⟩
      · exact inductionHypothesis delivered

/-- Exchanges that read nothing of `fd` leave the reads after them answered from all the
pipe holds. -/
theorem Delivers.of_unread_append
    {μ : Type}
    {fd : Nat}
    {data : List UInt8}
    {es₁ es₂ : List (Exchange μ)}
    (unread : ∀ e ∈ es₁, e.readFrom? fd = none)
    (delivered : Delivers fd data (es₁ ++ es₂)) :
    Delivers fd data es₂ := by
  induction es₁ with
  | nil => exact delivered
  | cons e rest inductionHypothesis =>
      have skipped : e.readFrom? fd = none := unread e (by simp)
      simp only [List.cons_append, Delivers, skipped] at delivered
      exact inductionHypothesis (fun e' member => unread e' (by simp [member])) delivered

/-- The bytes an exchange put into the descriptors `picks` holds of: the part of a write that
was taken. -/
def Exchange.written {μ : Type} (picks : Nat → Bool) : Exchange μ → List UInt8
  | ⟨.write fd data, answer⟩ =>
    match (answer : Except Errno Nat) with
    | .ok n => if picks fd then data.data.toList.take n else []
    | .error _ => []
  | _ => []

/-- The child's descriptors that are the caller's descriptor `w`. -/
def LaunchPlan.holds (plan : LaunchPlan) (w d : Nat) : Bool :=
  plan.files[d]? == some w

/-- A write to the descriptors `picks` holds of is taken whole, as the kernel takes a write to
a pipe shorter than the pipe's atomic size. -/
def Exchange.WholeWrite {μ : Type} (picks : Nat → Bool) : Exchange μ → Prop
  | ⟨.write fd data, answer⟩ => picks fd = true → (answer : Except Errno Nat) = .ok data.size
  | _ => True

/-- Whether the exchange closes descriptor `d`. -/
def Exchange.closes {μ : Type} (d : Nat) : Exchange μ → Bool
  | ⟨.close fd, _⟩ => fd == d
  | _ => false

/-- How many times the exchanges close descriptor `d`. -/
def closeCount {μ : Type} (d : Nat) (es : List (Exchange μ)) : Nat :=
  es.countP (Exchange.closes d)

@[simp] theorem closeCount_nil {μ : Type} (d : Nat) : closeCount d ([] : List (Exchange μ)) = 0 :=
  rfl

@[simp] theorem closeCount_append
    {μ : Type}
    (d : Nat)
    (first second : List (Exchange μ)) :
    closeCount d (first ++ second) = closeCount d first + closeCount d second :=
  List.countP_append

@[simp] theorem closeCount_cons_close
    {μ : Type}
    (d fd : Nat)
    (answer : Except Errno Unit)
    (es : List (Exchange μ)) :
    closeCount d (⟨.close fd, answer⟩ :: es) = closeCount d es + if fd = d then 1 else 0 := by
  by_cases same : fd = d <;> simp [closeCount, Exchange.closes, same]

/-- The descriptors an exchange's answer hands out for the caller's own use: an opened
path, a duplicate, or both ends of a pipe. -/
def Exchange.made {μ : Type} : Exchange μ → List Nat
  | ⟨.openPath .., answer⟩ =>
    match (answer : Except Errno Nat) with
    | .ok fd => [fd]
    | .error _ => []
  | ⟨.duplicate .., answer⟩ =>
    match (answer : Except Errno Nat) with
    | .ok fd => [fd]
    | .error _ => []
  | ⟨.makePipe _, answer⟩ =>
    match (answer : Except Errno (Nat × Nat)) with
    | .ok (r, w) => [r, w]
    | .error _ => []
  | _ => []

/-- The handle of a started child that an exchange's answer hands out. -/
def Exchange.launched {μ : Type} : Exchange μ → List Nat
  | ⟨.launch _, answer⟩ =>
    match (answer : Except Errno (Nat × Nat)) with
    | .ok (_, handle) => [handle]
    | .error _ => []
  | _ => []

/-- How a process stops for good. -/
inductive Stop where
  | exit (code : Nat)
  | exec (path : String) (args env : List String)
  deriving DecidableEq, Repr

/-- How a program that stands here stops its process: at an exit, or at a replacement of
its image, which the system carries out and never answers. -/
def Prog.stop? {μ α : Type} : Prog μ α → Option Stop
  | .call (.exit code) _ => some (.exit code)
  | .call (.exec path args env) _ => some (.exec path args env)
  | _ => none

/-- A run standing where its process stops has passed every request before that does not
stop it. -/
theorem reaches_call_of_stop?
    {μ α : Type}
    {r : Request μ}
    {next : r.Answer → Prog μ α}
    {es : List (Exchange μ)}
    {q : Prog μ α}
    {s : Stop}
    (run : Prog.Reaches (.call r next) es q)
    (stopped : q.stop? = some s)
    (passing : (Prog.call r next).stop? = none) :
    ∃ x rest, es = ⟨r, x⟩ :: rest ∧ Prog.Reaches (next x) rest q := by
  rcases Prog.reaches_call_iff.mp run with ⟨-, rfl⟩ | passed
  · simp [passing] at stopped
  · exact passed

end PseudoTerm.Machine
