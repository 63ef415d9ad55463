import Mathlib
import PseudoTerm.Proofs.HelperStatus

namespace PseudoTerm.Pty

/-!
# Two ways of setting up the session

A program is started on a terminal either with its session made while the child is made
(`startInPlace`: the launch itself makes the session and takes the terminal) or through
the setup helper (`startWithHelper`: the helper is launched without a session, makes it
itself and then replaces its image with the target).

The helper's way refines the other.  The program the helper finally runs is the program
the in-place launch starts, with the same arguments, in the same directory and with the
same descriptors; its environment is the in-place environment as a starting program reads
it, the first entry of each key, less the status variable.  The two launches ask the same
of the process group.  A failure at a step is charged to the same step by both ways
exactly when its error number is the one that step gives, since the in-place way sees only
the error number.
-/

open PseudoTerm.Machine PseudoTerm.Control Prog

/-! ## The environment the target gets -/

theorem environment_kept (cmd : Command) (inherited : List String) (cwd : String) :
    lastOfEachKey (cmd.environment inherited cwd).1 = (cmd.environment inherited cwd).1 := by
  unfold Command.environment
  split <;> rw [dedupEnvironment_fst, lastOfEachKey_lastOfEachKey]

/-- Adding the status entry to an environment that keeps one entry of each key shows the
target nothing new: it sees the environment as a starting program reads it, less the
status variable. -/
theorem targetEnvironment_statusEntry
    {env : List String}
    (kept : lastOfEachKey env = env)
    (n : Nat) :
    targetEnvironment (dedupEnvironment (env ++ [statusVariable ++ "=" ++ toString n])).1 =
      targetEnvironment env := by
  have keyed := entryKey?_eq_some_iff_defines statusVariable_plain.1 statusVariable_plain.2
  have entryDefines : Environment.defines statusVariable (statusVariable ++ "=" ++ toString n) :=
    (keyed _).mp (entryKey?_statusEntry n)
  have byKey : ∀ a b, '=' ∈ a.toList → '=' ∈ b.toList → Environment.key a = Environment.key b →
      (!Environment.defines statusVariable a) = !Environment.defines statusVariable b := by
    intro a b aValued bValued sameKey
    rw [Environment.defines_byKey statusVariable a b aValued bValued sameKey]
  have onlyOthers : (env.filter (entryKey? · != some statusVariable)).filter
      (fun e => !Environment.defines statusVariable e) =
      env.filter (fun e => !Environment.defines statusVariable e) := by
    rw [List.filter_filter]
    apply List.filter_congr
    intro e _
    by_cases keyedHere : entryKey? e = some statusVariable
    · simp [keyedHere, (keyed e).mp keyedHere]
    · have undefined : Environment.defines statusVariable e = false := by
        simpa [keyed] using keyedHere
      simp [keyedHere, undefined]
  have statusDropped : ¬ (!Environment.defines statusVariable
      (statusVariable ++ "=" ++ toString n)) = true := by
    simp only [entryDefines, Bool.not_true, Bool.false_eq_true, not_false_eq_true]
  unfold targetEnvironment
  rw [dedupEnvironment_fst, lastOfEachKey_append_singleton (statusEntry_noNul n)
    (entryKey?_statusEntry n), kept, Environment.firstOfEachKey_filter byKey, List.filter_append,
    onlyOthers, List.filter_cons_of_neg (p := fun e => !Environment.defines statusVariable e)
    statusDropped, List.filter_nil, List.append_nil, ← Environment.firstOfEachKey_filter byKey]

theorem targetArguments_argv (cmd : Command) : targetArguments cmd.path cmd.argv = cmd.argv := by
  have filled : cmd.argv.isEmpty = false := by
    unfold Command.argv
    split <;> simp_all
  simp [targetArguments, filled]

/-! ## Charging a failure to a step -/

/-- The plan the in-place way launches, for a working directory `cwd`: the command asking
the launch for the session, in the command's environment. -/
def inPlacePlan (cmd : Command) (inherited : List String) (cwd : String) : LaunchPlan :=
  (sessionCommand cmd).launchPlan ((sessionCommand cmd).environment inherited cwd).1

/-- A finished start in place whose launch failed with `e` reports the failure of starting
the program, charged to the step its error number points to. -/
theorem startInPlace_launchFailed
    {cmd : Command}
    {inherited : List String}
    {es : List (Exchange Memory)}
    {result : Except Fault Child}
    {plan : LaunchPlan}
    {e : Errno}
    (run : Reaches (startInPlace cmd inherited) es (.pure result))
    (failed : ⟨.launch plan, Except.error e⟩ ∈ es) :
    result = .error (.spawn (Fault.path "fork/exec" cmd.path (.errno e)).startStep
      (.path "fork/exec" cmd.path (.errno e))) := by
  unfold startInPlace at run
  obtain ⟨startRun, rest, started, rfl, starting, finished⟩ := reaches_bind_pure_iff.mp run
  have nothingAfter : rest = [] := by
    cases started <;> exact (reaches_pure_iff.mp finished).1
  subst nothingAfter
  rw [List.append_nil] at failed
  rcases start_finished starting with ⟨-, before⟩ | ⟨cwd, checked, launchRun, rfl, statusOnly, launching⟩
  · rcases before _ failed with named | named <;> cases named
  simp only [List.cons_append, List.mem_cons, List.mem_append] at failed
  rcases failed with named | checkedHere | launchedHere
  · cases named
  · cases statusOnly _ checkedHere
  rcases launchIn_finished launching with ⟨-, rfl, -⟩ | ⟨e', rfl, refused⟩ |
      ⟨pid, handle, f, m, rfl, -⟩
  · cases launchedHere
  · -- the launch that failed is the one whose error the start reports
    simp only [List.mem_singleton] at launchedHere
    obtain ⟨-, same⟩ := launch_exchange_eq_iff.mp launchedHere
    cases same
    subst refused
    obtain ⟨-, reported⟩ := reaches_pure_iff.mp finished
    cases reported
    rfl
  · simp only [List.mem_cons, List.not_mem_nil, or_false] at launchedHere
    rcases launchedHere with same | named
    · cases (launch_exchange_eq_iff.mp same).2
    · cases named

/-- The in-place way charges a failure with error number `e` to one of the helper's steps
exactly when `e` is the number that step gives. -/
theorem startStep_eq_iff
    (path : String)
    (e : Errno)
    {step : SpawnStep}
    (helperStep : step = .createSession ∨ step = .setControllingTerminal ∨ step = .startProgram) :
    (Fault.path "fork/exec" path (.errno e)).startStep = step ↔
      (step = .createSession ∧ e = Errno.eperm) ∨
        (step = .setControllingTerminal ∧ e = Errno.enotty) ∨
        (step = .startProgram ∧ e ≠ Errno.eperm ∧ e ≠ Errno.enotty) := by
  have numbers : Errno.enotty ≠ Errno.eperm := by decide
  have distinct : SpawnStep.createSession ≠ .setControllingTerminal ∧
      SpawnStep.createSession ≠ .startProgram ∧ SpawnStep.setControllingTerminal ≠ .startProgram := by
    decide
  obtain ⟨sessionTerminal, sessionProgram, terminalProgram⟩ := distinct
  have steps := And.intro sessionTerminal.symm (And.intro sessionProgram.symm terminalProgram.symm)
  simp only [Fault.startStep, Fault.errno?]
  by_cases permission : e = Errno.eperm
  · subst permission
    rcases helperStep with rfl | rfl | rfl <;>
      simp [numbers.symm, sessionTerminal, sessionProgram, terminalProgram, steps]
  by_cases terminal : e = Errno.enotty
  · subst terminal
    rcases helperStep with rfl | rfl | rfl <;>
      simp [numbers, sessionTerminal, sessionProgram, terminalProgram, steps]
  rcases helperStep with rfl | rfl | rfl <;>
    simp [permission, terminal, sessionTerminal, sessionProgram, terminalProgram, steps]

/-! ## The refinement -/

/-- The helper's launch `viaHelper` refines the in-place launch `inPlace` of `cmd`, the
helper holding the writing end `w` of its status pipe.  Every run of the helper that
replaces its image first marks the descriptor after the in-place ones to close on exec, and
runs the in-place program with its arguments, in the in-place environment as a starting
program reads it, less the status variable.  The helper is launched in the same directory,
with the same descriptors and `w` after them, and asks the same of the process group.  A
start in place whose launch failed charges the failure to one of the helper's steps exactly
when its error number is the one that step gives. -/
structure RefinesInPlace
    (cmd : Command)
    (inherited : List String)
    (inPlace viaHelper : LaunchPlan)
    (w : Nat) : Prop where
  execs :
    ∀ {μ : Type} (program : Prog μ Unit) (helperRun : List (Exchange μ)) (stop : Prog μ Unit)
      (path : String) (args env : List String),
      Reaches (withSetupHelper ⟨viaHelper.path, viaHelper.args, viaHelper.env⟩ program)
        helperRun stop →
      stop.stop? = some (.exec path args env) →
      helperRun.head?.map (·.request) = some (.setCloseOnExec inPlace.files.length true) ∧
        path = inPlace.path ∧ args = inPlace.args ∧ env = targetEnvironment inPlace.env
  directory :
    viaHelper.dir = inPlace.dir
  descriptors :
    viaHelper.files = inPlace.files ++ [w]
  group :
    viaHelper.newGroup = inPlace.newGroup
  charged :
    ∀ (es : List (Exchange Memory)) result plan e,
      Reaches (startInPlace cmd inherited) es (.pure result) →
      ⟨.launch plan, Except.error e⟩ ∈ es →
      ∃ step cause, result = .error (.spawn step cause) ∧
        ∀ helperStep : SpawnStep,
          (helperStep = .createSession ∨ helperStep = .setControllingTerminal ∨
            helperStep = .startProgram) →
          (step = helperStep ↔ (helperStep = .createSession ∧ e = Errno.eperm) ∨
            (helperStep = .setControllingTerminal ∧ e = Errno.enotty) ∨
            (helperStep = .startProgram ∧ e ≠ Errno.eperm ∧ e ≠ Errno.enotty))

/-- Setting up the session through the helper refines setting it up while the child is
made, for a command with its three standard streams, in every working directory. -/
theorem helperSetup_refines_inPlace
    {cmd : Command}
    {helper : String}
    {inherited : List String}
    {cwd : String}
    {w : Nat}
    (standardStreams : cmd.stdio.length = 3)
    (fewDescriptors : 3 + cmd.extra.length < 2 ^ 63) :
    RefinesInPlace cmd inherited (inPlacePlan cmd inherited cwd)
      (helperPlan cmd helper inherited cwd w) w := by
  refine ⟨?_, rfl, ?_, ?_, ?_⟩
  · intro μ program helperRun stop path args env ran stopped
    obtain ⟨marked, outcome⟩ :=
      setupHelper_stops (lookup_statusEntry _ _) fewDescriptors rfl ran stopped
    have markedHere : (inPlacePlan cmd inherited cwd).files.length = 3 + cmd.extra.length := by
      simp [inPlacePlan, Command.launchPlan, sessionCommand, standardStreams]
    rcases outcome with ⟨e, taken, -, failed⟩ | ⟨sid, e, taken, -, failed⟩ |
        ⟨sid, e, taken, -, failed⟩ | ⟨sid, rfl, execed⟩
    · cases failed
    · cases failed
    · cases failed
    cases execed
    exact ⟨by simp [markedHere], rfl, targetArguments_argv cmd,
      targetEnvironment_statusEntry (environment_kept cmd inherited cwd) _⟩
  · simp [helperPlan, inPlacePlan, Command.launchPlan, helperCommand, sessionCommand]
  · cases preset : cmd.setup <;>
      simp [helperPlan, inPlacePlan, Command.launchPlan, helperCommand, sessionCommand, preset]
  · intro es result plan e run failed
    exact ⟨_, _, startInPlace_launchFailed run failed,
      fun helperStep named => (startStep_eq_iff _ _ named)⟩

/-- A command with its three standard streams, started in `/` through the helper at `/h`
with the pipe's writing end as descriptor 4. -/
theorem helperSetup_refines_inPlace_env :
    ({ path := "/usr/bin/env", args := ["env"], stdio := [0, 1, 2] } : Command).stdio.length = 3 ∧
      3 + ({ path := "/usr/bin/env", args := ["env"], stdio := [0, 1, 2] } :
        Command).extra.length < 2 ^ 63 ∧
      RefinesInPlace { path := "/usr/bin/env", args := ["env"], stdio := [0, 1, 2] } []
        (inPlacePlan { path := "/usr/bin/env", args := ["env"], stdio := [0, 1, 2] } [] "/")
        (helperPlan { path := "/usr/bin/env", args := ["env"], stdio := [0, 1, 2] } "/h" [] "/" 4)
        4 :=
  ⟨rfl, by decide, helperSetup_refines_inPlace rfl (by decide)⟩

/-- Two entries whose names both start with `=` have two keys for the start of a program but
one key for a starting program reading its environment: the in-place launch passes both,
while the helper runs the target with the first alone. -/
theorem helperTarget_keepsFirstOfKey :
    (inPlacePlan
        { path := "/usr/bin/env", args := ["env"], env := some ["=A=1", "=B=2"] } [] "/").env.filter
        (fun e => !Environment.defines statusVariable e) = ["=A=1", "=B=2"] ∧
      ∃ plan helperRun stop args env,
        plan = helperPlan
          { path := "/usr/bin/env", args := ["env"], env := some ["=A=1", "=B=2"] } "/h" [] "/" 4 ∧
        Reaches (withSetupHelper ⟨plan.path, plan.args, plan.env⟩ (Prog.pure () : Prog Unit Unit))
          helperRun stop ∧
        stop.stop? = some (.exec "/usr/bin/env" args env) ∧ env = ["=A=1"] := by
  have startKeyA : entryKey? "=A=1" = some "=A" := rfl
  have startKeyB : entryKey? "=B=2" = some "=B" := rfl
  have passed : (inPlacePlan
      { path := "/usr/bin/env", args := ["env"], env := some ["=A=1", "=B=2"] } [] "/").env =
        ["=A=1", "=B=2"] := by
    simp [inPlacePlan, Command.launchPlan, sessionCommand, Command.environment,
      dedupEnvironment_fst, lastOfEachKey, startKeyA, startKeyB]
  have readKeyA : Environment.key "=A=1" = "" := rfl
  have readKeyB : Environment.key "=B=2" = "" := rfl
  constructor
  · rw [passed]
    simp [Environment.defines, readKeyA, readKeyB, statusVariable]
  apply Exists.intro
  apply Exists.intro
  apply Exists.intro
  apply Exists.intro
  apply Exists.intro
  refine ⟨rfl, ?_, ?_, ?_⟩
  · dsimp only [withSetupHelper]
    simp only [helperPlan, Command.launchPlan, lookup_statusEntry]
    rw [readSignedDecimal?_toString _ (by decide)]
    simp [helperCommand, Command.argv]
    apply @Reaches.call _ _ (.setCloseOnExec 3 true) _ (.ok ())
    apply @Reaches.call _ _ .newSession _ (.ok 1)
    apply @Reaches.call _ _ (.takeTerminal 0 false) _ (.ok ())
    exact .refl _
  · rfl
  have kept : lastOfEachKey (inPlacePlan
      { path := "/usr/bin/env", args := ["env"], env := some ["=A=1", "=B=2"] } [] "/").env =
        (inPlacePlan
          { path := "/usr/bin/env", args := ["env"], env := some ["=A=1", "=B=2"] } [] "/").env :=
    environment_kept _ _ _
  have seen : targetEnvironment (dedupEnvironment ((inPlacePlan
      { path := "/usr/bin/env", args := ["env"], env := some ["=A=1", "=B=2"] } [] "/").env ++
        [statusVariable ++ "=" ++ toString 3])).1 = ["=A=1"] := by
    rw [targetEnvironment_statusEntry kept, passed]
    simp [targetEnvironment, Environment.firstOfEachKey_eq_firstFrom, Environment.firstFrom,
      Environment.defines, readKeyA, readKeyB, statusVariable_plain.1]
  simpa [targetEnvironment, Environment.defines, inPlacePlan, Command.launchPlan, sessionCommand,
    Command.environment] using seen

end PseudoTerm.Pty
