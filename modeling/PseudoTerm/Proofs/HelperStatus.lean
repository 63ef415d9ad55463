import Mathlib
import PseudoTerm.Proofs.StatusRecord
import PseudoTerm.Proofs.Environment
import PseudoTerm.Proofs.Starting
import PseudoTerm.Pty.Pair

namespace PseudoTerm.Pty

/-!
# The status pipe of the setup helper

Starting a program through the setup helper decides the outcome across two processes.
The parent makes a pipe whose ends close on exec, gives the writing end to the helper
after the command's further descriptors and names its number in the helper's
environment, closes its own copy of the writing end and reads the reading end.  The
helper marks its copy to close on exec, makes a session, takes its standard input as
controlling terminal and replaces its image with the target; the first of these steps
that fails is written to the pipe as a status record and the helper exits.

The parent therefore reads the end of the pipe with nothing on it exactly when the helper
replaced its image, and otherwise the record of the first failing step.  The kernel's
part enters as conditions on the runs: the reads of the pipe deliver what the helper
wrote into it (`Delivers`), a record is written whole (as a write to a pipe shorter than
its atomic size is), and the helper is the program the parent's launch started.
-/

open PseudoTerm.Machine PseudoTerm.Control Prog

/-! ## Bytes and texts the two sides exchange -/

/-- Listing a byte array reads its bytes in order. -/
private theorem toList_loop_eq (bs : ByteArray) (i : Nat) (r : List UInt8) :
    ByteArray.toList.loop bs i r = r.reverse ++ bs.data.toList.drop i := by
  fun_induction ByteArray.toList.loop bs i r with
  | case1 i r within inductionHypothesis =>
      have inList : i < bs.data.toList.length := by
        rw [Array.length_toList]
        exact within
      have picked : bs.get! i = bs.data.toList[i] := by
        simp [ByteArray.get!, getElem!_pos, within]
      rw [inductionHypothesis, picked, List.drop_eq_getElem_cons inList]
      simp
  | case2 i r beyond =>
      have past : bs.data.toList.length ≤ i := by
        rw [Array.length_toList]
        exact Nat.le_of_not_lt beyond
      simp [List.drop_eq_nil_of_le past]

theorem byteArray_toList_eq (bs : ByteArray) : bs.toList = bs.data.toList := by
  simp [ByteArray.toList, toList_loop_eq]

theorem statusVariable_plain : statusVariable ≠ "" ∧ '=' ∉ statusVariable.toList := by
  decide

theorem isDigit_of_mem_toString
    {n : Nat}
    {c : Char}
    (member : c ∈ (toString n).toList) :
    c.isDigit := by
  have written : c ∈ Nat.toDigits 10 n := by simpa using member
  exact Nat.isDigit_of_mem_toDigits (by decide) (by decide) written

theorem statusEntry_noNul (n : Nat) :
    (statusVariable ++ "=" ++ toString n).contains (Char.ofNat 0) = false := by
  have noNulName : Char.ofNat 0 ∉ statusVariable.toList := by decide
  have noNulDigit : Char.ofNat 0 ∉ (toString n).toList := fun member => by
    simpa using isDigit_of_mem_toString member
  simp only [String.contains_char_eq, String.toList_append, List.mem_append, noNulName,
    noNulDigit, or_false, false_or, decide_eq_false_iff_not]
  decide

theorem entryKey?_statusEntry (n : Nat) :
    entryKey? (statusVariable ++ "=" ++ toString n) = some statusVariable := by
  rw [entryKey?_eq_some_iff_defines statusVariable_plain.1 statusVariable_plain.2]
  simp [Environment.defines, String.contains_char_eq,
    Environment.key_assignment statusVariable_plain.2]

/-- The helper finds the number it was given in the environment it was started with: the
status entry comes last and replaces every earlier entry of the variable. -/
theorem lookup_statusEntry (env : List String) (n : Nat) :
    Environment.lookup (Environment.firstOfEachKey
      (dedupEnvironment (env ++ [statusVariable ++ "=" ++ toString n])).1) statusVariable =
      some (toString n) := by
  have keyed := entryKey?_eq_some_iff_defines statusVariable_plain.1 statusVariable_plain.2
  have entryDefines : Environment.defines statusVariable (statusVariable ++ "=" ++ toString n) :=
    (keyed _).mp (entryKey?_statusEntry n)
  have earlierGone : ((lastOfEachKey env).filter (entryKey? · != some statusVariable)).filter
      (Environment.defines statusVariable) = [] := by
    rw [List.filter_filter, List.filter_eq_nil_iff]
    intro e _
    simp [← keyed]
  have alone : (Environment.firstOfEachKey
      (dedupEnvironment (env ++ [statusVariable ++ "=" ++ toString n])).1).filter
        (Environment.defines statusVariable) = [statusVariable ++ "=" ++ toString n] := by
    rw [dedupEnvironment_fst, lastOfEachKey_append_singleton (statusEntry_noNul n)
      (entryKey?_statusEntry n), Environment.firstOfEachKey_filter
      (Environment.defines_byKey statusVariable), List.filter_append, earlierGone,
      List.nil_append, List.filter_cons_of_pos entryDefines, List.filter_nil,
      Environment.firstOfEachKey_eq_firstFrom]
    simp [Environment.firstFrom, statusVariable]
  rw [Environment.lookup_of_defines_eq_singleton alone,
    Environment.value?_assignment statusVariable_plain.2]

theorem readSignedDecimal?_toString
    (n : Nat)
    (fits : n < 2 ^ 63) :
    readSignedDecimal? (toString n) = some (n : Int) := by
  obtain ⟨first, rest, spelled⟩ : ∃ first rest, (toString n).toList = first :: rest := by
    cases h : (toString n).toList with
    | nil => simp at h
    | cons first rest => exact ⟨first, rest, rfl⟩
  have allDigits : (first :: rest).all Char.isDigit = true := by
    rw [List.all_eq_true, ← spelled]
    exact fun c member => isDigit_of_mem_toString member
  have unsigned : first ≠ '-' ∧ first ≠ '+' := by
    have firstDigit : first.isDigit := by simp_all
    constructor <;> rintro rfl <;> simp at firstDigit
  have value : (first :: rest).foldl (fun n c => n * 10 + (c.toNat - 48)) 0 = n := by
    have read := @Nat.ofDigitChars_ten_toDigits n
    rw [← Nat.toList_repr, ← Nat.toString_eq_repr, spelled, Nat.ofDigitChars_eq_foldl] at read
    simpa [Nat.mul_comm] using read
  unfold readSignedDecimal?
  rw [spelled]
  split
  rename_i negative digits signs
  obtain ⟨rfl, rfl⟩ : negative = false ∧ digits = first :: rest := by
    split at signs <;> simp_all
  simp [allDigits, value]
  omega

/-! ## The helper's side -/

/-- The record the helper writes for a step that failed with `e`. -/
def failureRecord (step : SpawnStep) (e : Errno) : ByteArray :=
  ⟨(StatusRecord.ofFailure step (.errno e)).bytes.toArray⟩

/-- The environment the helper gives its target: its own as it reads it at start, without
the status variable. -/
def targetEnvironment (env : List String) : List String :=
  (Environment.firstOfEachKey env).filter fun e => !Environment.defines statusVariable e

/-- The arguments the helper gives its target: those after the target's path, or the path
alone. -/
def targetArguments (target : String) (rest : List String) : List String :=
  if rest.isEmpty then [target] else rest

/-- The step of the session setup an exchange reports failing: making the session, taking
the terminal, or replacing the image (which is answered only when it failed). -/
def setupFailure? {μ : Type} : Exchange μ → Option (SpawnStep × Errno)
  | ⟨.newSession, answer⟩ =>
    match (answer : Except Errno Nat) with
    | .error e => some (.createSession, e)
    | .ok _ => none
  | ⟨.takeTerminal _ _, answer⟩ =>
    match (answer : Except Errno Unit) with
    | .error e => some (.setControllingTerminal, e)
    | .ok _ => none
  | ⟨.exec _ _ _, e⟩ => some (.startProgram, e)
  | _ => none

section Helper

variable {μ : Type} {inv : Invocation} {program : Prog μ Unit} {fd : Nat} {self target : String}
  {rest : List String} {es : List (Exchange μ)} {q : Prog μ Unit} {s : Stop}

/-- The runs of a setup helper started with the number of its status descriptor and a
target, up to where its process stops: it marks the status descriptor to close on exec,
and then either makes a session, takes its terminal and replaces its image with the target,
or writes the record of the first of these steps that failed and exits. -/
theorem setupHelper_stops
    (announced : Environment.lookup (Environment.firstOfEachKey inv.env) statusVariable =
      some (toString fd))
    (fits : fd < 2 ^ 63)
    (called : inv.args = self :: target :: rest)
    (run : Reaches (withSetupHelper inv program) es q)
    (stopped : q.stop? = some s) :
    ∃ marked,
      (∃ e taken,
        es = [⟨.setCloseOnExec fd true, marked⟩, ⟨.newSession, Except.error e⟩,
          ⟨.write fd (failureRecord .createSession e), taken⟩] ∧
        s = .exit helperFailureCode) ∨
      (∃ sid e taken,
        es = [⟨.setCloseOnExec fd true, marked⟩, ⟨.newSession, Except.ok sid⟩,
          ⟨.takeTerminal 0 false, Except.error e⟩,
          ⟨.write fd (failureRecord .setControllingTerminal e), taken⟩] ∧
        s = .exit helperFailureCode) ∨
      (∃ sid e taken,
        es = [⟨.setCloseOnExec fd true, marked⟩, ⟨.newSession, Except.ok sid⟩,
          ⟨.takeTerminal 0 false, Except.ok ()⟩,
          ⟨.exec target (targetArguments target rest) (targetEnvironment inv.env), e⟩,
          ⟨.write fd (failureRecord .startProgram e), taken⟩] ∧
        s = .exit helperFailureCode) ∨
      (∃ sid,
        es = [⟨.setCloseOnExec fd true, marked⟩, ⟨.newSession, Except.ok sid⟩,
          ⟨.takeTerminal 0 false, Except.ok ()⟩] ∧
        s = .exec target (targetArguments target rest) (targetEnvironment inv.env)) := by
  have nonnegative : (fd : Int) ≥ 0 := by omega
  dsimp only [withSetupHelper, reportFailure, Sys.setCloseOnExec, Sys.newSession,
    Sys.takeTerminal, Sys.exec, Sys.write, Sys.exit, Prog.lift, Bind.bind, Prog.bind,
    Pure.pure] at run
  rw [announced] at run
  dsimp only at run
  rw [readSignedDecimal?_toString fd fits, called] at run
  simp only [nonnegative, if_true, Int.toNat_natCast] at run
  obtain ⟨marked, rest₁, rfl, afterMark⟩ := reaches_call_of_stop? run stopped rfl
  refine ⟨marked, ?_⟩
  obtain ⟨session, rest₂, rfl, afterSession⟩ := reaches_call_of_stop? afterMark stopped rfl
  cases session with
  | error e =>
      dsimp only at afterSession
      obtain ⟨taken, rest₃, rfl, afterWrite⟩ := reaches_call_of_stop? afterSession stopped rfl
      rcases reaches_call_iff.mp afterWrite with ⟨rfl, rfl⟩ | ⟨never, -⟩
      · exact .inl ⟨e, taken, rfl, by simpa [Prog.stop?] using stopped.symm⟩
      · exact never.elim
  | ok sid =>
      dsimp only at afterSession
      obtain ⟨terminal, rest₃, rfl, afterTerminal⟩ :=
        reaches_call_of_stop? afterSession stopped rfl
      cases terminal with
      | error e =>
          dsimp only at afterTerminal
          obtain ⟨taken, rest₄, rfl, afterWrite⟩ := reaches_call_of_stop? afterTerminal stopped rfl
          rcases reaches_call_iff.mp afterWrite with ⟨rfl, rfl⟩ | ⟨never, -⟩
          · exact .inr (.inl ⟨sid, e, taken, rfl, by simpa [Prog.stop?] using stopped.symm⟩)
          · exact never.elim
      | ok _ =>
          dsimp only at afterTerminal
          rcases reaches_call_iff.mp afterTerminal with ⟨rfl, rfl⟩ | ⟨e, rest₄, rfl, afterExec⟩
          · refine .inr (.inr (.inr ⟨sid, rfl, ?_⟩))
            simpa [Prog.stop?, targetArguments, targetEnvironment, Environment.defines]
              using stopped.symm
          · obtain ⟨taken, rest₅, rfl, afterWrite⟩ := reaches_call_of_stop? afterExec stopped rfl
            rcases reaches_call_iff.mp afterWrite with ⟨rfl, rfl⟩ | ⟨never, -⟩
            · exact .inr (.inr (.inl ⟨sid, e, taken, rfl, by simpa [Prog.stop?] using stopped.symm⟩))
            · exact never.elim

theorem written_failureRecord
    {picks : Nat → Bool}
    {step : SpawnStep}
    {e : Errno}
    {taken : Except Errno Nat}
    (picked : picks fd = true)
    (whole : Exchange.WholeWrite picks (⟨.write fd (failureRecord step e), taken⟩ : Exchange μ)) :
    Exchange.written picks (⟨.write fd (failureRecord step e), taken⟩ : Exchange μ) =
      (StatusRecord.ofFailure step (.errno e)).bytes := by
  have answered : taken = .ok (failureRecord step e).size := whole picked
  simp only [Exchange.written, answered, picked, if_true]
  simp [failureRecord, ByteArray.size]

/-- What a setup helper puts into its status descriptor before its process stops, when
its writes there are taken whole: it first marks the descriptor to close on exec, and then
puts nothing there when it replaced its image with the target, and otherwise the record
of the first step that failed. -/
theorem setupHelper_reports
    (announced : Environment.lookup (Environment.firstOfEachKey inv.env) statusVariable =
      some (toString fd))
    (fits : fd < 2 ^ 63)
    (called : inv.args = self :: target :: rest)
    (run : Reaches (withSetupHelper inv program) es q)
    (stopped : q.stop? = some s)
    {picks : Nat → Bool}
    (picked : picks fd = true)
    (whole : ∀ e ∈ es, e.WholeWrite picks) :
    (∃ marked, es.head? = some ⟨.setCloseOnExec fd true, marked⟩) ∧
      (((∃ args env, s = .exec target args env) ∧ es.flatMap (Exchange.written picks) = [] ∧
          es.findSome? setupFailure? = none) ∨
        ∃ step e, step.valid = true ∧ s = .exit helperFailureCode ∧
          es.flatMap (Exchange.written picks) = (StatusRecord.ofFailure step (.errno e)).bytes ∧
          es.findSome? setupFailure? = some (step, e)) := by
  obtain ⟨marked, outcome⟩ := setupHelper_stops announced fits called run stopped
  refine ⟨⟨marked, ?_⟩, ?_⟩
  · rcases outcome with ⟨e, taken, rfl, -⟩ | ⟨sid, e, taken, rfl, -⟩ | ⟨sid, e, taken, rfl, -⟩ |
      ⟨sid, rfl, -⟩ <;> rfl
  rcases outcome with ⟨e, taken, rfl, rfl⟩ | ⟨sid, e, taken, rfl, rfl⟩ |
      ⟨sid, e, taken, rfl, rfl⟩ | ⟨sid, rfl, rfl⟩
  · have reported := written_failureRecord picked
      (whole ⟨.write fd (failureRecord .createSession e), taken⟩ (by simp))
    refine .inr ⟨.createSession, e, rfl, rfl, ?_, rfl⟩
    simp only [List.flatMap_cons, List.flatMap_nil, List.append_nil]
    exact reported
  · have reported := written_failureRecord picked
      (whole ⟨.write fd (failureRecord .setControllingTerminal e), taken⟩ (by simp))
    refine .inr ⟨.setControllingTerminal, e, rfl, rfl, ?_, rfl⟩
    simp only [List.flatMap_cons, List.flatMap_nil, List.append_nil]
    exact reported
  · have reported := written_failureRecord picked
      (whole ⟨.write fd (failureRecord .startProgram e), taken⟩ (by simp))
    refine .inr ⟨.startProgram, e, rfl, rfl, ?_, rfl⟩
    simp only [List.flatMap_cons, List.flatMap_nil, List.append_nil]
    exact reported
  · exact .inl ⟨⟨_, _, rfl⟩, rfl, rfl⟩

end Helper

/-! ## The parent's side -/

/-- Reading up to `n` bytes after `acc` from a pipe holding `data`: the bytes read are
`acc` followed by as much of `data` as was missing, and the read comes out short exactly
when `data` ran out first, at the very start (the end of the pipe) or later. -/
theorem readExactly_go_finished
    {fd n fuel : Nat}
    {acc : ByteArray}
    {data : List UInt8}
    {es : List (Exchange Memory)}
    {out : ByteArray × Option Fault}
    (within : acc.size ≤ n)
    (enough : n < acc.size + fuel)
    (run : Reaches (readExactly.go fd n fuel acc) es (.pure out))
    (delivered : Delivers fd data es) :
    out.1.data.toList = acc.data.toList ++ data.take (n - acc.size) ∧
      out.2 = if n - acc.size ≤ data.length then none
        else some (if acc.size = 0 ∧ data = [] then .endOfStream else .unexpectedEnd) := by
  induction fuel generalizing acc data es with
  | zero => omega
  | succ fuel inductionHypothesis =>
      dsimp only [readExactly.go, Sys.read, Prog.lift, Bind.bind, Prog.bind, Pure.pure] at run
      by_cases full : acc.size ≥ n
      · rw [if_pos full] at run
        obtain ⟨rfl, finished⟩ := reaches_pure_iff.mp run
        cases finished
        have nothingMissing : n - acc.size = 0 := by omega
        simp [nothingMissing]
      rw [if_neg full] at run
      obtain ⟨answer, rest, rfl, afterRead⟩ := reaches_call_pure_iff.mp run
      obtain ⟨chunk, answered, leading, short, empty, later⟩ :
          ∃ chunk, (answer : Except Errno ByteArray) = .ok chunk.toByteArray ∧ chunk <+: data ∧
            chunk.length ≤ n - acc.size ∧ (chunk = [] → data = [] ∨ n - acc.size = 0) ∧
            Delivers fd (data.drop chunk.length) rest := by
        simp only [Delivers, Exchange.readFrom?, if_true] at delivered
        exact delivered
      subst answered
      by_cases nothing : chunk = []
      · subst nothing
        have drained : data = [] := (empty rfl).resolve_right (by omega)
        subst drained
        simp only [List.size_toByteArray, List.length_nil, beq_self_eq_true, if_true] at afterRead
        obtain ⟨rfl, finished⟩ := reaches_pure_iff.mp afterRead
        cases finished
        have missing : ¬ (n - acc.size ≤ 0) := by omega
        simp [missing]
      · have grows : (chunk.toByteArray.size == 0) = false := by simpa using nothing
        simp only [grows, Bool.false_eq_true, if_false] at afterRead
        have sized : (acc ++ chunk.toByteArray).size = acc.size + chunk.length := by
          simp [ByteArray.size_append]
        have taken : chunk = data.take chunk.length := List.prefix_iff_eq_take.mp leading
        have fits : chunk.length ≤ data.length := leading.length_le
        have positive : 0 < chunk.length := List.length_pos_iff.mpr nothing
        have stillWithin : (acc ++ chunk.toByteArray).size ≤ n := by omega
        have stillEnough : n < (acc ++ chunk.toByteArray).size + fuel := by omega
        obtain ⟨readAll, verdict⟩ := inductionHypothesis stillWithin stillEnough afterRead later
        constructor
        · -- the chunk and what follows it are one prefix of the pipe's bytes
          have joined : chunk ++ (data.drop chunk.length).take (n - acc.size - chunk.length) =
              data.take (n - acc.size) := by
            rw [taken, List.length_take, Nat.min_eq_left fits, ← List.take_add]
            congr 1
            omega
          rw [readAll, sized]
          simp [ByteArray.data_append, List.append_assoc, Nat.sub_add_eq, joined]
        · rw [verdict, sized]
          have started : acc.size + chunk.length ≠ 0 := by omega
          have unemptied : data ≠ [] := by
            rintro rfl
            exact nothing (by simpa using fits)
          have remaining : (data.drop chunk.length).length = data.length - chunk.length := by
            simp
          by_cases complete : n - acc.size ≤ data.length
          · have stillComplete :
                n - (acc.size + chunk.length) ≤ (data.drop chunk.length).length := by
              omega
            rw [if_pos stillComplete, if_pos complete]
          · have stillShort :
                ¬ (n - (acc.size + chunk.length) ≤ (data.drop chunk.length).length) := by
              omega
            have notFresh : ¬ (acc.size + chunk.length = 0 ∧ data.drop chunk.length = []) :=
              fun both => started both.1
            have notEmpty : ¬ (acc.size = 0 ∧ data = []) := fun both => unemptied both.2
            rw [if_neg stillShort, if_neg complete, if_neg notFresh, if_neg notEmpty]

/-- Reading exactly `n` bytes from a pipe holding `data` reads its first `n` bytes; it comes
out short when the pipe held fewer, and at the end of the pipe when it held none. -/
theorem readExactly_finished
    {fd n : Nat}
    {data : List UInt8}
    {es : List (Exchange Memory)}
    {out : ByteArray × Option Fault}
    (run : Reaches (readExactly fd n) es (.pure out))
    (delivered : Delivers fd data es) :
    out.1.data.toList = data.take n ∧
      out.2 = if n ≤ data.length then none
        else some (if data = [] then .endOfStream else .unexpectedEnd) := by
  have fromEmpty := readExactly_go_finished (by simp) (by simp) run delivered
  simpa [ByteArray.size_empty] using fromEmpty

/-- The run ends with a finished wait for the child: the child was collected. -/
def Collects (child : Child) (es : List (Exchange Memory)) : Prop :=
  ∃ before waited status, es = before ++ waited ∧ Reaches child.wait waited (.pure status)

/-- The run ends with a signal to the child and then a finished wait for it. -/
def KillsAndCollects (child : Child) (es : List (Exchange Memory)) : Prop :=
  ∃ before killed waited signalled status, es = before ++ killed ++ waited ∧
    Reaches child.kill killed (.pure signalled) ∧ Reaches child.wait waited (.pure status)

/-- The parent's verdict on the helper `child`, for a status pipe that held `data`: nothing
means the program started; five bytes or more are read back as a record, after the helper
was collected; fewer are an error of their own, after the helper was killed and
collected. -/
structure StatusVerdict
    (child : Child)
    (es : List (Exchange Memory))
    (result : Except Fault Child)
    (data : List UInt8) : Prop where
  started :
    data = [] → result = .ok child
  failed :
    5 ≤ data.length → ∃ record, StatusRecord.ofBytes? (data.take 5) = some record ∧
      result = .error record.toFault ∧ Collects child es
  cutShort :
    0 < data.length → data.length < 5 →
      result = .error (.spawn .startProgram (.wrap "exec helper status" .unexpectedEnd)) ∧
      KillsAndCollects child es

theorem StatusVerdict.prepend
    {child : Child}
    {es : List (Exchange Memory)}
    {result : Except Fault Child}
    {data : List UInt8}
    (verdict : StatusVerdict child es result data)
    (before : List (Exchange Memory)) :
    StatusVerdict child (before ++ es) result data := by
  refine ⟨verdict.started, fun whole => ?_, fun started short => ?_⟩
  · obtain ⟨record, decoded, reported, earlier, waited, status, rfl, waiting⟩ :=
      verdict.failed whole
    exact ⟨record, decoded, reported, before ++ earlier, waited, status, by simp, waiting⟩
  · obtain ⟨reported, earlier, killed, waited, signalled, status, rfl, killing, waiting⟩ :=
      verdict.cutShort started short
    exact ⟨reported, before ++ earlier, killed, waited, signalled, status, by simp, killing,
      waiting⟩

/-- The parent's wait for the helper's report, on a pipe holding `data`, gives the verdict
on that data. -/
theorem awaitStatus_finished
    {child : Child}
    {r : Nat}
    {data : List UInt8}
    {es : List (Exchange Memory)}
    {result : Except Fault Child}
    (run : Reaches (awaitStatus child r) es (.pure result))
    (delivered : Delivers r data es) :
    StatusVerdict child es result data := by
  unfold awaitStatus at run
  obtain ⟨readRun, rest, ⟨record, problem⟩, rfl, reading, afterRead⟩ :=
    reaches_bind_pure_iff.mp run
  obtain ⟨bytesRead, verdict⟩ := readExactly_finished reading delivered.of_append
  dsimp only [closeQuietly, Sys.close, Prog.lift, Bind.bind, Prog.bind, Pure.pure] at afterRead
  obtain ⟨closed, rest, rfl, afterClose⟩ := reaches_call_pure_iff.mp afterRead
  simp only [StatusRecord.length] at verdict
  refine ⟨?_, ?_, ?_⟩
  · -- the end of the pipe at once
    rintro rfl
    simp only [List.length_nil, Nat.le_zero, if_true] at verdict
    simp at verdict
    subst verdict
    obtain ⟨-, finished⟩ := reaches_pure_iff.mp afterClose
    cases finished
    rfl
  · -- a whole record
    intro whole
    simp only [whole, if_true] at verdict
    subst verdict
    obtain ⟨waited, rest, status, rfl, waiting, afterWait⟩ := reaches_bind_pure_iff.mp afterClose
    obtain ⟨b₀, b₁, b₂, b₃, b₄, later, spelled⟩ :
        ∃ b₀ b₁ b₂ b₃ b₄ later, data = [b₀, b₁, b₂, b₃, b₄] ++ later := by
      match data, whole with
      | b₀ :: b₁ :: b₂ :: b₃ :: b₄ :: later, _ => exact ⟨b₀, b₁, b₂, b₃, b₄, later, rfl⟩
    have asList : record.toList = [b₀, b₁, b₂, b₃, b₄] := by
      rw [byteArray_toList_eq, bytesRead, spelled]
      rfl
    rw [asList] at afterWait
    obtain ⟨rfl, finished⟩ := reaches_pure_iff.mp afterWait
    cases finished
    refine ⟨_, by rw [spelled]; rfl, rfl, readRun ++ [⟨.close r, closed⟩], waited, status,
      by simp, waiting⟩
  · -- a record cut short
    intro started short
    have notWhole : ¬ 5 ≤ data.length := by omega
    have notEmpty : data ≠ [] := List.ne_nil_of_length_pos started
    simp only [notWhole, notEmpty, if_false] at verdict
    subst verdict
    obtain ⟨killed, rest, signalled, rfl, killing, afterKill⟩ := reaches_bind_pure_iff.mp afterClose
    obtain ⟨waited, rest, status, rfl, waiting, afterWait⟩ := reaches_bind_pure_iff.mp afterKill
    obtain ⟨rfl, finished⟩ := reaches_pure_iff.mp afterWait
    cases finished
    exact ⟨rfl, readRun ++ [⟨.close r, closed⟩], killed, waited, signalled, status, by simp,
      killing, waiting⟩

theorem readExactly_go_noLaunch (fd n fuel : Nat) (acc : ByteArray) :
    Only NoLaunch (readExactly.go fd n fuel acc) := by
  induction fuel generalizing acc with
  | zero => exact .pure _
  | succ fuel inductionHypothesis =>
      dsimp only [readExactly.go, Sys.read, Prog.lift, Bind.bind, Prog.bind, Pure.pure]
      split
      · exact .pure _
      · refine .call (fun _ => nofun) ?_
        intro answer
        split
        · split
          · exact .pure _
          · exact inductionHypothesis _
        · exact .pure _

theorem awaitStatus_noLaunch (child : Child) (r : Nat) : Only NoLaunch (awaitStatus child r) := by
  unfold awaitStatus readExactly
  refine Only.bind (readExactly_go_noLaunch _ _ _ _) ?_
  rintro ⟨record, problem⟩
  dsimp only [closeQuietly, Sys.close, Prog.lift, Bind.bind, Prog.bind, Pure.pure]
  refine .call (fun _ => nofun) fun _ => ?_
  split
  · exact .pure _
  · exact Only.bind (kill_noLaunch child) fun _ => Only.bind (wait_noLaunch child) fun _ => .pure _
  · exact Only.bind (wait_noLaunch child) fun _ => by split <;> exact .pure _

/-- The plan the helper is launched with, for a working directory `cwd` and the writing end
`w` of the status pipe: the helper command in the command's environment with the status
entry added. -/
def helperPlan (cmd : Command) (helper : String) (inherited : List String) (cwd : String)
    (w : Nat) : LaunchPlan :=
  (helperCommand cmd helper (cmd.environment inherited cwd).1 w).launchPlan
    (dedupEnvironment ((cmd.environment inherited cwd).1 ++
      [statusVariable ++ "=" ++ toString (3 + cmd.extra.length)])).1

/-- A finished start through the helper whose pipe was made and whose launch gave a child:
the launch was of the helper's plan in the working directory the start was told, nothing before the wait for the report read the pipe, and the result is the
report's verdict on that child. -/
theorem startWithHelper_launched
    {cmd : Command}
    {helper : String}
    {inherited : List String}
    {es : List (Exchange Memory)}
    {result : Except Fault Child}
    {r w pid handle : Nat}
    {plan : LaunchPlan}
    (noLookupFault : cmd.lookupFault = none)
    (run : Reaches (startWithHelper cmd helper inherited) es (.pure result))
    (piped : es.head? = some ⟨.makePipe true, Except.ok (r, w)⟩)
    (launched : ⟨.launch plan, Except.ok (pid, handle)⟩ ∈ es) :
    ∃ cwd key before statusRun,
      es = before ++ statusRun ∧
      (∀ e ∈ before, e.readFrom? r = none) ∧
      plan = helperPlan cmd helper inherited cwd w ∧
      Reaches (awaitStatus ⟨pid, key, handle⟩ r) statusRun (.pure result) := by
  unfold startWithHelper at run
  rw [noLookupFault] at run
  dsimp only [Sys.makePipe, Sys.workingDirectory, closeQuietly, Sys.close, Prog.lift, Bind.bind,
    Prog.bind, Pure.pure] at run
  obtain ⟨pipe, rest, rfl, afterPipe⟩ := reaches_call_pure_iff.mp run
  have answered : pipe = Except.ok (r, w) := by
    simp only [List.head?_cons, Option.some.injEq] at piped
    cases piped
    rfl
  subst answered
  dsimp only at afterPipe
  obtain ⟨cwd, rest, rfl, afterCwd⟩ := reaches_call_pure_iff.mp afterPipe
  obtain ⟨env, refused, environment⟩ :
      ∃ env refused, cmd.environment inherited cwd = (env, refused) := ⟨_, _, rfl⟩
  rw [environment] at afterCwd
  dsimp only at afterCwd
  obtain ⟨startRun, rest, started, rfl, starting, afterStart⟩ := reaches_bind_pure_iff.mp afterCwd
  obtain ⟨closedW, rest, rfl, afterCloseW⟩ := reaches_call_pure_iff.mp afterStart
  have inStart : ⟨.launch plan, Except.ok (pid, handle)⟩ ∈ startRun := by
    simp only [List.mem_cons, List.mem_append] at launched
    rcases launched with named | named | here | named | later
    · cases named
    · cases named
    · exact here
    · cases named
    · cases started with
      | error f =>
          dsimp only at afterCloseW
          obtain ⟨closedR, rest, rfl, afterCloseR⟩ := reaches_call_pure_iff.mp afterCloseW
          obtain ⟨rfl, -⟩ := reaches_pure_iff.mp afterCloseR
          simp only [List.mem_cons, List.not_mem_nil, or_false] at later
          cases later
      | ok child =>
          exact absurd rfl ((awaitStatus_noLaunch child r).reaches afterCloseW |>.1 _ later plan)
  cases started with
  | error f => exact absurd inStart (start_error_unlaunched starting)
  | ok child =>
      obtain ⟨cwd', before, after, rfl, others⟩ := start_ok_launch starting
      dsimp only at afterCloseW
      have sameLaunch : (⟨.launch plan, Except.ok (pid, handle)⟩ : Exchange Memory) =
          ⟨.launch ((helperCommand cmd helper env w).launchPlan
            ((helperCommand cmd helper env w).environment inherited cwd').1),
            Except.ok (child.pid, child.handle)⟩ := by
        simp only [List.mem_append, List.mem_cons] at inStart
        rcases inStart with early | here | late
        · exact absurd rfl ((others _ (List.mem_append_left _ early)).1 plan)
        · exact here
        · exact absurd rfl ((others _ (List.mem_append_right _ late)).1 plan)
      obtain ⟨rfl, same⟩ := launch_exchange_eq_iff.mp sameLaunch
      simp only [Except.ok.injEq, Prod.mk.injEq] at same
      obtain ⟨rfl, rfl⟩ := same
      refine ⟨cwd, child.key, ⟨.makePipe true, Except.ok (r, w)⟩ :: ⟨.workingDirectory, cwd⟩ ::
        (before ++ ⟨.launch ((helperCommand cmd helper env w).launchPlan
          ((helperCommand cmd helper env w).environment inherited cwd').1),
          Except.ok (child.pid, child.handle)⟩ :: after) ++
        [⟨.close w, closedW⟩], rest, by simp, ?_, ?_, afterCloseW⟩
      · intro e member
        apply Exchange.readFrom?_eq_none
        simp only [List.cons_append, List.mem_cons, List.mem_append, List.not_mem_nil, or_false] at member
        rcases member with rfl | rfl | ((early | rfl | late) | rfl)
        · exact fun _ _ => nofun
        · exact fun _ _ => nofun
        · exact (others _ (List.mem_append_left _ early)).2
        · exact fun _ _ => nofun
        · exact (others _ (List.mem_append_right _ late)).2
        · exact fun _ _ => nofun
      · unfold helperPlan
        rw [environment]
        rfl


theorem helperCommand_launchPlan_files
    {cmd : Command}
    {helper : String}
    {env launchEnv : List String}
    {w : Nat}
    (standardStreams : cmd.stdio.length = 3) :
    ((helperCommand cmd helper env w).launchPlan launchEnv).files[3 + cmd.extra.length]? =
      some w := by
  simp [Command.launchPlan, helperCommand, standardStreams]

theorem toFault_ofFailure_errno
    {step : SpawnStep}
    (named : step.valid = true)
    (e : Errno) :
    (StatusRecord.ofFailure step (.errno e)).toFault = .spawn step (.errno ⟨e.code % 2 ^ 32⟩) := by
  simp [StatusRecord.toFault, SpawnStep.normalize, named]

/-! ## The protocol -/

/-- What a start through the helper answers, for the helper it launched as `child` with
the plan `plan`, the status pipe being `r` and `w`.  The verdict is the one on whatever the
pipe held when it was read.  The helper is told the number its copy of `w` has.  Whatever
the helper did before its process stopped, with its writes to the pipe taken whole and
read back as the pipe delivers them: it first marked that descriptor to close on exec, the
start gave the child exactly when the helper replaced its image with the target, and a
failure is reported as the first step that failed, with its error number cut to 32 bits,
after the helper was collected. -/
structure ReportsStatus
    (cmd : Command)
    (plan : LaunchPlan)
    (r w : Nat)
    (child : Child)
    (es : List (Exchange Memory))
    (result : Except Fault Child) : Prop where
  verdict :
    ∀ data, Delivers r data es → StatusVerdict child es result data
  announced :
    plan.files[3 + cmd.extra.length]? = some w ∧
      Environment.lookup (Environment.firstOfEachKey plan.env) statusVariable =
        some (toString (3 + cmd.extra.length))
  helper :
    ∀ {μ : Type} (program : Prog μ Unit) (helperRun : List (Exchange μ)) (stop : Prog μ Unit)
      (s : Stop),
      Reaches (withSetupHelper ⟨plan.path, plan.args, plan.env⟩ program) helperRun stop →
      stop.stop? = some s →
      (∀ e ∈ helperRun, e.WholeWrite (plan.holds w)) →
      Delivers r (helperRun.flatMap (Exchange.written (plan.holds w))) es →
      (∃ marked, helperRun.head? = some ⟨.setCloseOnExec (3 + cmd.extra.length) true, marked⟩) ∧
        (result = .ok child ↔ ∃ args env, s = .exec cmd.path args env) ∧
        ∀ step e, helperRun.findSome? setupFailure? = some (step, e) →
          result = .error (.spawn step (.errno ⟨e.code % 2 ^ 32⟩)) ∧ Collects child es

/-- Starting a program through the setup helper, for a command whose program was found and
that has its three standard streams, once the status pipe was made and the helper
launched, answers as the helper reports on the pipe. -/
theorem startWithHelper_reportsStatus
    {cmd : Command}
    {helper : String}
    {inherited : List String}
    {es : List (Exchange Memory)}
    {result : Except Fault Child}
    {r w pid handle : Nat}
    {plan : LaunchPlan}
    (noLookupFault : cmd.lookupFault = none)
    (standardStreams : cmd.stdio.length = 3)
    (fewDescriptors : 3 + cmd.extra.length < 2 ^ 63)
    (run : Reaches (startWithHelper cmd helper inherited) es (.pure result))
    (piped : es.head? = some ⟨.makePipe true, Except.ok (r, w)⟩)
    (launched : ⟨.launch plan, Except.ok (pid, handle)⟩ ∈ es) :
    ∃ key, ReportsStatus cmd plan r w ⟨pid, key, handle⟩ es result := by
  obtain ⟨cwd, key, before, statusRun, rfl, unread, planned, waiting⟩ :=
    startWithHelper_launched noLookupFault run piped launched
  have verdict : ∀ data, Delivers r data (before ++ statusRun) →
      StatusVerdict ⟨pid, key, handle⟩ (before ++ statusRun) result data :=
    fun data delivered =>
      (awaitStatus_finished waiting (delivered.of_unread_append unread)).prepend before
  have descriptor : plan.files[3 + cmd.extra.length]? = some w := by
    rw [planned]
    exact helperCommand_launchPlan_files standardStreams
  have found : Environment.lookup (Environment.firstOfEachKey plan.env) statusVariable =
      some (toString (3 + cmd.extra.length)) := by
    rw [planned]
    exact lookup_statusEntry _ _
  have called : plan.args = helper :: cmd.path :: cmd.argv := by
    rw [planned]
    rfl
  refine ⟨key, verdict, ⟨descriptor, found⟩, ?_⟩
  intro μ program helperRun stop s helperRan stopped whole delivered
  have picked : plan.holds w (3 + cmd.extra.length) = true := by
    simp [LaunchPlan.holds, descriptor]
  obtain ⟨marked, outcome⟩ :=
    setupHelper_reports found fewDescriptors called helperRan stopped picked whole
  refine ⟨marked, ?_⟩
  have said := verdict _ delivered
  rcases outcome with ⟨execed, nothing, noFailure⟩ | ⟨step, e, named, rfl, record, failure⟩
  · -- the helper replaced its image: the pipe ends with nothing on it
    rw [nothing] at said
    refine ⟨⟨fun _ => execed, fun _ => said.started rfl⟩, ?_⟩
    intro step e failed
    rw [noFailure] at failed
    cases failed
  · -- the helper wrote the record of its first failing step
    rw [record] at said
    have whole : 5 ≤ (StatusRecord.ofFailure step (.errno e)).bytes.length := by
      simp [StatusRecord.bytes]
    obtain ⟨read, decoded, reported, collected⟩ := said.failed whole
    have sameRecord : read = StatusRecord.ofFailure step (.errno e) := by
      rw [List.take_of_length_le whole, StatusRecord.ofBytes?_bytes] at decoded
      exact (Option.some.inj decoded).symm
    have failedAs : result = .error (.spawn step (.errno ⟨e.code % 2 ^ 32⟩)) := by
      rw [reported, sameRecord, toFault_ofFailure_errno named]
    refine ⟨⟨fun started => ?_, ?_⟩, ?_⟩
    · rw [failedAs] at started
      cases started
    · rintro ⟨args, env, stoppedAs⟩
      cases stoppedAs
    · intro step' e' failed
      rw [failure] at failed
      cases failed
      exact ⟨failedAs, collected⟩


/-- A command started through the helper at `/h`, with the pipe made as descriptors 3 and 4,
the helper launched as process 100, and the pipe found empty at once. -/
theorem startWithHelper_reportsStatus_emptyPipe :
    ∃ es result plan,
      ({ path := "/bin/true", args := ["true"], env := some [], stdio := [0, 1, 2] } :
        Command).lookupFault = none ∧
      ({ path := "/bin/true", args := ["true"], env := some [], stdio := [0, 1, 2] } :
        Command).stdio.length = 3 ∧
      3 + ({ path := "/bin/true", args := ["true"], env := some [], stdio := [0, 1, 2] } :
        Command).extra.length < 2 ^ 63 ∧
      Reaches (startWithHelper
        { path := "/bin/true", args := ["true"], env := some [], stdio := [0, 1, 2] } "/h" [])
        es (.pure result) ∧
      es.head? = some ⟨.makePipe true, Except.ok (3, 4)⟩ ∧
      ⟨.launch plan, Except.ok (100, 7)⟩ ∈ es ∧
      ∃ key, ReportsStatus
        { path := "/bin/true", args := ["true"], env := some [], stdio := [0, 1, 2] }
        plan 3 4 ⟨100, key, 7⟩ es result := by
  obtain ⟨es, result, plan, run, piped, launched⟩ :
      ∃ es result plan,
        Reaches (startWithHelper
          { path := "/bin/true", args := ["true"], env := some [], stdio := [0, 1, 2] } "/h" [])
          es (.pure result) ∧
        es.head? = some ⟨.makePipe true, Except.ok (3, 4)⟩ ∧
        ⟨.launch plan, Except.ok (100, 7)⟩ ∈ es := by
    apply Exists.intro
    apply Exists.intro
    apply Exists.intro
    constructor
    · apply @Reaches.call _ _ (.makePipe true) _ (.ok (3, 4))
      apply @Reaches.call _ _ .workingDirectory _ "/"
      apply @Reaches.call _ _ .workingDirectory _ "/"
      have digits : Char.ofNat 0 ∉ Nat.toDigits 10 3 := by decide
      simp [Command.environment, helperCommand, Command.launchIn, dedupEnvironment_snd,
        dedupEnvironment_fst, lastOfEachKey, Command.hasNul, Command.argv, statusVariable, digits]
      apply @Reaches.call _ _ (.launch _) _ (.ok (100, 7))
      apply @Reaches.call Memory _ (.update _) _ ({} : Memory)
      apply @Reaches.call _ _ (.close 4) _ (.ok ())
      apply @Reaches.call _ _ (.read 3 5) _ (.ok ByteArray.empty)
      apply @Reaches.call _ _ (.close 3) _ (.ok ())
      exact .refl _
    constructor
    · rfl
    · exact .tail _ (.tail _ (.tail _ (.head _)))
  obtain ⟨key, reports⟩ := startWithHelper_reportsStatus rfl rfl (by decide) run piped launched
  exact ⟨es, result, plan, rfl, rfl, by decide, run, piped, launched, key, reports⟩

end PseudoTerm.Pty
