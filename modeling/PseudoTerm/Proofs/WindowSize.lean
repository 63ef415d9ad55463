import Mathlib
import PseudoTerm.Proofs.TerminalWrites
import PseudoTerm.Pty.Pair

/-!
# The window size of a terminal

A terminal has one window size, which a window set on either of its sides replaces and a
window read on either side answers.  `WindowAnswers` says this of the exchanges of a run that
touches one terminal, from the window it had before the run; `windowAfter` is the window the
run leaves.

A terminal is resized through its pair before a program starts on it (`Pair.resize`) and
through the handle of its parent side after (`Handle.resize`, which a session's resize is).
Either call first checks its terminal in the shared memory (`Resizer.live`): the pair's
descriptors not handed over yet, or the handle not closed.  A call that finds it so sets the
window to its request with each dimension saturated at 65535 and succeeds; one that does not
fails with its refusal, the consumed pair or the closed file, and leaves the window alone
(`Resizer.resize_finished`).

Main statement: `resizes_then_sizes_answer_last_request`.  After any sequence of resizes,
the handle's size and a window read on the child device both answer the window of the last
request that succeeded, each dimension `min d 65535` and never the request wrapped to 16
bits; a size asked of a closed handle fails with the closed file.
-/

namespace PseudoTerm.Machine

open PseudoTerm.Terminal

variable {μ : Type}

/-- The window a window set sets, if the exchange is one. -/
def Exchange.windowSet? : Exchange μ → Option Window
  | ⟨.setWindow _ w, _⟩ => some w
  | _ => none

/-- Whether the exchange answers as a terminal whose window is `w`: a window set is done
and a window read answers `w`. -/
def Exchange.AnswersWindow (w : Window) : Exchange μ → Prop
  | ⟨.setWindow _ _, answer⟩ => (answer : Except Errno Unit) = .ok ()
  | ⟨.windowOf _, answer⟩ => (answer : Except Errno Window) = .ok w
  | _ => True

/-- The window a run leaves, from the window `w`: each window set replaces it. -/
def windowAfter (w : Window) : List (Exchange μ) → Window
  | [] => w
  | e :: es => windowAfter (e.windowSet?.getD w) es

/-- The exchanges of a run on one terminal, whose window is `w` before it, answered as its
one window says. -/
def WindowAnswers (w : Window) : List (Exchange μ) → Prop
  | [] => True
  | e :: es => e.AnswersWindow w ∧ WindowAnswers (e.windowSet?.getD w) es

@[simp] theorem windowAfter_nil (w : Window) : windowAfter w ([] : List (Exchange μ)) = w := rfl

@[simp] theorem windowAfter_append (w : Window) (es es' : List (Exchange μ)) :
    windowAfter w (es ++ es') = windowAfter (windowAfter w es) es' := by
  induction es generalizing w with
  | nil => rfl
  | cons e es inductionHypothesis => exact inductionHypothesis _

@[simp] theorem windowAnswers_append (w : Window) (es es' : List (Exchange μ)) :
    WindowAnswers w (es ++ es') ↔ WindowAnswers w es ∧ WindowAnswers (windowAfter w es) es' := by
  induction es generalizing w with
  | nil => simp [WindowAnswers, windowAfter]
  | cons e es inductionHypothesis => simp [WindowAnswers, windowAfter, inductionHypothesis, and_assoc]

@[simp] theorem windowAfter_update_cons (w : Window) (f : μ → μ) (m : (Request.update f).Answer)
    (es : List (Exchange μ)) :
    windowAfter w (⟨.update f, m⟩ :: es) = windowAfter w es := rfl

@[simp] theorem windowAnswers_update_cons (w : Window) (f : μ → μ) (m : (Request.update f).Answer)
    (es : List (Exchange μ)) :
    WindowAnswers w (⟨.update f, m⟩ :: es) ↔ WindowAnswers w es := and_iff_right trivial

end PseudoTerm.Machine

namespace PseudoTerm.Pty

open PseudoTerm.Machine PseudoTerm.Control PseudoTerm.Terminal Prog

/-- A window set of a terminal that keeps its promise is done, and leaves the requested
window, saturated. -/
theorem resizeDescriptor_finished
    {fd cols rows : Nat}
    {v : Window}
    {es : List (Exchange Memory)}
    {x : Except Fault Unit}
    (run : Reaches (resizeDescriptor (μ := Memory) fd cols rows) es (.pure x))
    (kernel : WindowAnswers v es) :
    x = .ok () ∧ windowAfter v es = Window.ofRequest cols rows := by
  unfold resizeDescriptor at run
  obtain ⟨answer, rest, rfl, later⟩ := reaches_lift_bind_pure_iff.mp run
  obtain ⟨done, -⟩ := kernel
  have done : answer = .ok () := done
  subst done
  obtain ⟨rfl, same⟩ := reaches_pure_iff.mp later
  cases same
  exact ⟨rfl, rfl⟩

theorem sizeOfDescriptor_finished
    {fd : Nat}
    {v : Window}
    {es : List (Exchange Memory)}
    {x : Except Fault Window}
    (run : Reaches (sizeOfDescriptor (μ := Memory) fd) es (.pure x))
    (kernel : WindowAnswers v es) :
    x = .ok v ∧ windowAfter v es = v := by
  unfold sizeOfDescriptor at run
  obtain ⟨answer, rest, rfl, later⟩ := reaches_lift_bind_pure_iff.mp run
  obtain ⟨read, -⟩ := kernel
  have read : answer = .ok v := read
  subst read
  obtain ⟨rfl, same⟩ := reaches_pure_iff.mp later
  cases same
  exact ⟨rfl, rfl⟩

/-- What resizes a terminal: its pair before a program starts on it, or the handle of its
parent side after. -/
inductive Resizer where
  | pair (p : Pair)
  | handle (h : Handle)

namespace Resizer

/-- Set the window size through the resizer. -/
def resize : Resizer → Nat → Nat → Prog Memory (Except Fault Unit)
  | pair p => p.resize
  | handle h => h.resize

/-- The change of memory with which a resize checks its terminal. -/
def check : Resizer → Memory → Memory
  | pair p => Memory.beginResize p.key
  | handle _ => id

/-- Whether the check found the terminal there: the pair's descriptors not handed over, or
the handle not closed. -/
def live : Resizer → Memory → Bool
  | pair p, m => ((m.pairs.get? p.key).filter (·.takes == 0)).isSome
  | handle h, m => !(m.handle h.key).closed

/-- The fault of a resize that did not find its terminal. -/
def refusal : Resizer → Fault
  | pair _ => .resize .pairConsumed
  | handle _ => .resize (.path "resize" makerPath .closed)

/-- A resize first checks its terminal.  Found there, it sets the requested window,
saturated, and succeeds; not found, it fails with its refusal and leaves the window alone.
This holds whatever the memory says, so long as the terminal keeps its window promise. -/
theorem resize_finished
    {r : Resizer}
    {cols rows : Nat}
    {v : Window}
    {es : List (Exchange Memory)}
    {x : Except Fault Unit}
    (run : Reaches (r.resize cols rows) es (.pure x))
    (kernel : WindowAnswers v es) :
    ∃ m rest, es = ⟨.update r.check, m⟩ :: rest ∧
      (r.live m = true → x = .ok () ∧ windowAfter v es = Window.ofRequest cols rows) ∧
      (r.live m = false → x = .error r.refusal ∧ windowAfter v es = v) := by
  cases r with
  | pair p =>
      unfold resize Pair.resize at run
      obtain ⟨m, rest, rfl, later⟩ := reaches_lift_bind_pure_iff.mp run
      refine ⟨m, rest, rfl, ?_⟩
      simp only [live, windowAnswers_update_cons, windowAfter_update_cons] at kernel ⊢
      split at later
      · next consumed =>
        obtain ⟨rfl, same⟩ := reaches_pure_iff.mp later
        cases same
        simp [consumed, refusal]
      · next s found =>
        obtain ⟨setting, finishing, y, rfl, setRun, finish⟩ := reaches_bind_pure_iff.mp later
        obtain ⟨ended, rest', rfl, done⟩ := reaches_lift_bind_pure_iff.mp finish
        obtain ⟨rfl, set⟩ := resizeDescriptor_finished setRun ((windowAnswers_append v setting _).mp kernel).1
        obtain ⟨rfl, same⟩ := reaches_pure_iff.mp done
        cases same
        simp [found, set]
  | handle h =>
      unfold resize Handle.resize at run
      obtain ⟨checked, rest, closed, rfl, reading, later⟩ := reaches_bind_pure_iff.mp run
      obtain ⟨m, rfl, rfl⟩ := Handle.isClosed_finished reading
      refine ⟨m, rest, rfl, ?_⟩
      simp only [List.singleton_append, live, windowAnswers_update_cons, windowAfter_update_cons] at kernel ⊢
      by_cases shut : (m.handle h.key).closed = true
      · simp only [shut, if_true] at later
        obtain ⟨rfl, same⟩ := reaches_pure_iff.mp later
        cases same
        simp [shut, refusal]
      · simp only [shut, if_false, Bool.false_eq_true] at later
        obtain ⟨setting, reporting, y, rfl, setRun, report⟩ := reaches_bind_pure_iff.mp later
        obtain ⟨rfl, set⟩ := resizeDescriptor_finished setRun ((windowAnswers_append v setting _).mp kernel).1
        obtain ⟨rfl, same⟩ := reaches_pure_iff.mp report
        cases same
        simp [shut, set]

end Resizer

/-- A size asked of a handle first checks it in the memory: open, it answers the terminal's
window; closed, it fails with the closed file.  It changes no window. -/
theorem Handle.size_finished
    {h : Handle}
    {v : Window}
    {es : List (Exchange Memory)}
    {x : Except Fault Window}
    (run : Reaches h.size es (.pure x))
    (kernel : WindowAnswers v es) :
    ∃ m rest, es = ⟨.update id, m⟩ :: rest ∧ windowAfter v es = v ∧
      ((m.handle h.key).closed = false → x = .ok v) ∧
      ((m.handle h.key).closed = true → x = .error (.path "size" makerPath .closed)) := by
  unfold Handle.size at run
  obtain ⟨checked, rest, closed, rfl, reading, later⟩ := reaches_bind_pure_iff.mp run
  obtain ⟨m, rfl, rfl⟩ := Handle.isClosed_finished reading
  refine ⟨m, rest, rfl, ?_⟩
  simp only [List.singleton_append, windowAnswers_update_cons, windowAfter_update_cons] at kernel ⊢
  by_cases shut : (m.handle h.key).closed = true
  · simp only [shut, if_true] at later
    obtain ⟨rfl, same⟩ := reaches_pure_iff.mp later
    cases same
    simp [shut]
  · simp only [shut, if_false, Bool.false_eq_true] at later
    obtain ⟨asking, reporting, y, rfl, askRun, report⟩ := reaches_bind_pure_iff.mp later
    obtain ⟨rfl, kept⟩ := sizeOfDescriptor_finished askRun ((windowAnswers_append v asking _).mp kernel).1
    obtain ⟨rfl, same⟩ := reaches_pure_iff.mp report
    cases same
    simp [shut, kept]

/-- One resize request: through what, and the columns and rows asked for. -/
structure ResizeCall where
  target : Resizer
  cols : Nat
  rows : Nat

namespace ResizeCall

/-- Make the calls one after another, answering what each answered. -/
def runAll : List ResizeCall → Prog Memory (List (Except Fault Unit))
  | [] => return []
  | first :: others => do
    let x ← first.target.resize first.cols first.rows
    let xs ← runAll others
    return x :: xs

/-- The calls, made one after another in the exchanges `es`, answered `answers`: each
call's first exchange checks its terminal, and the call answered success where the check
found the terminal and its refusal where it did not. -/
inductive Resized : List ResizeCall → List (Exchange Memory) → List (Except Fault Unit) → Prop
  | nil : Resized [] [] []
  | cons {first : ResizeCall} {others : List ResizeCall} {m : Memory} {part es : List (Exchange Memory)}
      {x : Except Fault Unit} {answers : List (Except Fault Unit)} :
      (first.target.live m = true → x = .ok ()) →
      (first.target.live m = false → x = .error first.target.refusal) →
      Resized others es answers →
      Resized (first :: others) (⟨.update first.target.check, m⟩ :: part ++ es) (x :: answers)

/-- The window of the last call that succeeded, each dimension saturated at 65535, or `v`
when none did. -/
def lastWindow (v : Window) : List ResizeCall → List (Except Fault Unit) → Window
  | first :: others, .ok () :: answers => lastWindow ⟨min first.cols 65535, min first.rows 65535⟩ others answers
  | _ :: others, .error _ :: answers => lastWindow v others answers
  | _, _ => v

/-- Resizes made one after another answer as their checks found their terminals, and leave
the window of the last one that succeeded. -/
theorem runAll_finished
    {calls : List ResizeCall}
    {v : Window}
    {es : List (Exchange Memory)}
    {answers : List (Except Fault Unit)}
    (run : Reaches (runAll calls) es (.pure answers))
    (kernel : WindowAnswers v es) :
    Resized calls es answers ∧ windowAfter v es = lastWindow v calls answers := by
  induction calls generalizing v es answers with
  | nil =>
      unfold runAll at run
      obtain ⟨rfl, same⟩ := reaches_pure_iff.mp run
      cases same
      exact ⟨.nil, rfl⟩
  | cons first others inductionHypothesis =>
      unfold runAll at run
      obtain ⟨firstEs, later, x, rfl, callRun, restRun⟩ := reaches_bind_pure_iff.mp run
      obtain ⟨others, finish, xs, rfl, othersRun, done⟩ := reaches_bind_pure_iff.mp restRun
      obtain ⟨rfl, same⟩ := reaches_pure_iff.mp done
      cases same
      rw [List.append_nil] at kernel ⊢
      rw [windowAnswers_append] at kernel
      obtain ⟨m, part, rfl, found, refused⟩ := Resizer.resize_finished callRun kernel.1
      obtain ⟨resized, window⟩ := inductionHypothesis othersRun kernel.2
      refine ⟨.cons (fun live => (found live).1) (fun dead => (refused dead).1) resized, ?_⟩
      rw [windowAfter_append, window]
      cases live : first.target.live m
      · obtain ⟨rfl, kept⟩ := refused live
        rw [kept]
        rfl
      · obtain ⟨rfl, set⟩ := found live
        rw [set]
        rfl

end ResizeCall

/-- Make the resize calls one after another, then ask the handle `h` for the window size and
read the window of the child device `child`. -/
def resizeThenAsk (calls : List ResizeCall) (h : Handle) (child : Nat) :
    Prog Memory (List (Except Fault Unit) × Except Fault Window × Except Fault Window) := do
  let answers ← ResizeCall.runAll calls
  let size ← h.size
  let childSize ← sizeOfDescriptor (μ := Memory) child
  return (answers, size, childSize)

/-- After any sequence of resizes, through the pair before a program starts and through the
handle after, each call succeeds exactly when its check found the terminal (and otherwise
fails with its refusal), and both the handle's size and a window read on the child device
answer the window of the last call that succeeded, each dimension the request saturated at
65535; a size asked of a handle found closed fails with the closed file.  This holds for
every memory the checks may find, so long as the terminal keeps its one window. -/
theorem resizes_then_sizes_answer_last_request
    {calls : List ResizeCall}
    {h : Handle}
    {child : Nat}
    {v : Window}
    {es : List (Exchange Memory)}
    {answers : List (Except Fault Unit)}
    {size childSize : Except Fault Window}
    (run : Reaches (resizeThenAsk calls h child) es (.pure (answers, size, childSize)))
    (kernel : WindowAnswers v es) :
    ∃ resized m asked, es = resized ++ ⟨.update id, m⟩ :: asked ∧ ResizeCall.Resized calls resized answers ∧
      ((m.handle h.key).closed = false → size = .ok (ResizeCall.lastWindow v calls answers)) ∧
      ((m.handle h.key).closed = true → size = .error (.path "size" makerPath .closed)) ∧
      childSize = .ok (ResizeCall.lastWindow v calls answers) := by
  unfold resizeThenAsk at run
  obtain ⟨resized, later, xs, rfl, resizing, asking⟩ := reaches_bind_pure_iff.mp run
  obtain ⟨sized, childEs, y, rfl, sizeRun, childRun⟩ := reaches_bind_pure_iff.mp asking
  obtain ⟨read, finish, z, rfl, readRun, done⟩ := reaches_bind_pure_iff.mp childRun
  obtain ⟨rfl, same⟩ := reaches_pure_iff.mp done
  cases same
  simp only [List.append_nil, windowAnswers_append] at kernel
  obtain ⟨ran, window⟩ := ResizeCall.runAll_finished resizing kernel.1
  obtain ⟨m, asked, rfl, kept, opened, shut⟩ := Handle.size_finished sizeRun kernel.2.1
  obtain ⟨rfl, -⟩ := sizeOfDescriptor_finished readRun kernel.2.2
  refine ⟨resized, m, asked ++ read, by simp, ran, ?_, ?_, by rw [kept, window]⟩
  · intro open'
    rw [opened open', window]
  · exact shut

/-- Resizing through an open handle to 100000 columns and 30 rows succeeds and leaves 65535
columns, which the handle's size and the child device both answer. -/
theorem resize_past_sixteen_bits_saturates :
    ∃ es, Reaches (resizeThenAsk [⟨.handle ⟨5, 0, "/dev/pts/0"⟩, 100000, 30⟩] ⟨5, 0, "/dev/pts/0"⟩ 7) es
        (.pure ([.ok ()], .ok ⟨65535, 30⟩, .ok ⟨65535, 30⟩)) ∧
      WindowAnswers ⟨80, 24⟩ es ∧
      ResizeCall.lastWindow ⟨80, 24⟩ [⟨.handle ⟨5, 0, "/dev/pts/0"⟩, 100000, 30⟩] [.ok ()] = ⟨65535, 30⟩ ∧
      ∃ resized m asked, es = resized ++ ⟨.update id, m⟩ :: asked ∧
        ResizeCall.Resized [⟨.handle ⟨5, 0, "/dev/pts/0"⟩, 100000, 30⟩] resized [.ok ()] := by
  obtain ⟨es, run, kernel⟩ : ∃ es,
      Reaches (resizeThenAsk [⟨.handle ⟨5, 0, "/dev/pts/0"⟩, 100000, 30⟩] ⟨5, 0, "/dev/pts/0"⟩ 7) es
        (.pure ([.ok ()], .ok ⟨65535, 30⟩, .ok ⟨65535, 30⟩)) ∧ WindowAnswers ⟨80, 24⟩ es := by
    apply Exists.intro
    constructor
    · simp only [resizeThenAsk, ResizeCall.runAll, Resizer.resize, Handle.resize, Handle.size, Handle.isClosed,
        inspect, change, resizeDescriptor, sizeOfDescriptor, Sys.update, Sys.setWindow, Sys.windowOf, lift_eq]
      apply Reaches.call (r := .update _) ({} : Memory)
      simp only [Prog.bind]
      apply Reaches.call (r := .setWindow _ _) (.ok ())
      simp only [Prog.bind]
      apply Reaches.call (r := .update _) ({} : Memory)
      simp only [Prog.bind]
      apply Reaches.call (r := .windowOf _) (.ok ⟨65535, 30⟩)
      simp only [Prog.bind]
      apply Reaches.call (r := .windowOf _) (.ok ⟨65535, 30⟩)
      simp only [Prog.bind]
      exact .refl _
    · -- the window set to the saturated request is what both reads answer
      exact ⟨trivial, rfl, trivial, rfl, rfl, trivial⟩
  obtain ⟨resized, m, asked, split, ran, -⟩ := resizes_then_sizes_answer_last_request run kernel
  exact ⟨es, run, kernel, rfl, resized, m, asked, split, ran⟩

end PseudoTerm.Pty
