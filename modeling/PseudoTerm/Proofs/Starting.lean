import PseudoTerm.Proofs.Team
import PseudoTerm.Control.Command

namespace PseudoTerm.Control

/-!
# Runs of starting a command

What a finished start asked of the system and what it answered.  Launching refuses a path,
argument or directory holding a NUL byte without asking anything; otherwise it makes one
launch request for the command's plan, and on success records the child in the shared
memory.  A start that gave a child asked for the working directory first, may have
checked the command's directory, and then launched in the command's environment.
-/

open PseudoTerm.Machine Prog

/-- Whether launching refuses the command outright. -/
def Command.refusesNul (c : Command) : Bool :=
  Command.hasNul c.path || c.argv.any Command.hasNul || Command.hasNul c.dir

/-- A finished launch was refused, or its one launch request failed, or it succeeded and
the child was recorded under the key the memory handed out. -/
theorem launchIn_finished
    {c : Command}
    {env : List String}
    {es : List (Exchange Memory)}
    {result : Except Fault Child}
    (run : Reaches (c.launchIn env) es (.pure result)) :
    (c.refusesNul ∧ es = [] ∧ result = .error (.path "fork/exec" c.path (.errno Errno.einval))) ∨
      (∃ e, es = [⟨.launch (c.launchPlan env), Except.error e⟩] ∧
        result = .error (.path "fork/exec" c.path (.errno e))) ∨
      (∃ pid handle f m, es = [⟨.launch (c.launchPlan env), Except.ok (pid, handle)⟩, ⟨.update f, m⟩] ∧
        result = .ok ⟨pid, m.next - 1, handle⟩) := by
  dsimp only [Command.launchIn, Sys.launch, create, change, Sys.update, Prog.lift, Bind.bind,
    Prog.bind, Pure.pure] at run
  split at run
  · rename_i refused
    obtain ⟨rfl, finished⟩ := reaches_pure_iff.mp run
    cases finished
    exact .inl ⟨refused, rfl, rfl⟩
  · obtain ⟨answer, rest, rfl, afterLaunch⟩ := reaches_call_pure_iff.mp run
    cases answer with
    | error e =>
        dsimp only at afterLaunch
        obtain ⟨rfl, finished⟩ := reaches_pure_iff.mp afterLaunch
        cases finished
        exact .inr (.inl ⟨e, rfl, rfl⟩)
    | ok launched =>
        obtain ⟨pid, handle⟩ := launched
        dsimp only at afterLaunch
        obtain ⟨m, rest, rfl, recorded⟩ := reaches_call_pure_iff.mp afterLaunch
        obtain ⟨rfl, finished⟩ := reaches_pure_iff.mp recorded
        cases finished
        exact .inr (.inr ⟨pid, handle, _, m, rfl, rfl⟩)

/-- A finished start either failed before launching, having asked at most for the working
directory and the status of the command's directory, or asked for the working directory,
perhaps checked the command's directory, and then ran a launch in the command's
environment. -/
theorem start_finished
    {c : Command}
    {inherited : List String}
    {es : List (Exchange Memory)}
    {result : Except Fault Child}
    (run : Reaches (c.start inherited) es (.pure result)) :
    ((∃ f, result = .error f) ∧
        ∀ e ∈ es, e.request = .workingDirectory ∨ e.request = .status c.dir true) ∨
      ∃ cwd checked rest, es = ⟨.workingDirectory, cwd⟩ :: checked ++ rest ∧
        (∀ e ∈ checked, e.request = .status c.dir true) ∧
        Reaches (c.launchIn (c.environment inherited cwd).1) rest (.pure result) := by
  dsimp only [Command.start, Sys.workingDirectory, Sys.status, Prog.lift, Bind.bind, Prog.bind,
    Pure.pure] at run
  split at run
  · obtain ⟨rfl, finished⟩ := reaches_pure_iff.mp run
    cases finished
    exact .inl ⟨⟨_, rfl⟩, by simp⟩
  split at run
  · obtain ⟨rfl, finished⟩ := reaches_pure_iff.mp run
    cases finished
    exact .inl ⟨⟨_, rfl⟩, by simp⟩
  obtain ⟨cwd, rest, rfl, afterCwd⟩ := reaches_call_pure_iff.mp run
  split at afterCwd
  · obtain ⟨rfl, finished⟩ := reaches_pure_iff.mp afterCwd
    cases finished
    exact .inl ⟨⟨_, rfl⟩, by simp⟩
  split at afterCwd
  · obtain ⟨status, rest, rfl, afterCheck⟩ := reaches_call_pure_iff.mp afterCwd
    cases status with
    | error e =>
        dsimp only at afterCheck
        obtain ⟨rfl, finished⟩ := reaches_pure_iff.mp afterCheck
        cases finished
        exact .inl ⟨⟨_, rfl⟩, by simp⟩
    | ok st => exact .inr ⟨cwd, [⟨.status c.dir true, Except.ok st⟩], rest, rfl, by simp, afterCheck⟩
  · exact .inr ⟨cwd, [], rest, rfl, by simp, afterCwd⟩

/-- A request that starts no program. -/
def NoLaunch (r : Request Memory) : Prop := ∀ plan, r ≠ .launch plan

/-- A request of the calls on a child: it starts no thread, and its change, if any, touches
only the table of children and never lowers the next key. -/
def ChildRequest (r : Request Memory) : Prop :=
  r.startsThread = false ∧ ∀ f, r.change? = some f → ∀ m,
    f m = { m with next := (f m).next, children := (f m).children } ∧ m.next ≤ (f m).next

/-- A request that closes no descriptor and hands none out. -/
def Sealed (r : Request Memory) : Prop :=
  ∀ x, (∀ d, Exchange.closes d ⟨r, x⟩ = false) ∧ Exchange.made ⟨r, x⟩ = []

namespace ChildRequest

theorem of_unchanged {r : Request Memory} (unchanged : r.change? = none) (plain : r.startsThread = false) :
    ChildRequest r :=
  ⟨plain, fun f changed => by rw [unchanged] at changed; cases changed⟩

theorem update {f : Memory → Memory} (frame : ∀ m, f m = { m with next := (f m).next, children := (f m).children })
    (forward : ∀ m, m.next ≤ (f m).next) : ChildRequest (.update f) :=
  ⟨rfl, fun _ changed m => by obtain rfl := Option.some.inj changed; exact ⟨frame m, forward m⟩⟩

end ChildRequest

theorem wait_requests (c : Child) : Only (fun r => ChildRequest r ∧ NoLaunch r) c.wait := by
  dsimp only [Child.wait, Child.collected, inspect, change, Sys.update, Sys.wait, Sys.close,
    Prog.lift, Bind.bind, Prog.bind, Pure.pure]
  refine .call ⟨.update (fun _ => rfl) (fun _ => Nat.le_refl _), fun _ same => (by cases same)⟩ fun _ => ?_
  split
  · exact .pure _
  · refine .call ⟨.of_unchanged rfl rfl, fun _ same => (by cases same)⟩ fun _ => ?_
    split
    · refine .call ⟨.of_unchanged rfl rfl, fun _ same => (by cases same)⟩ fun _ => ?_
      exact .call ⟨.update (fun _ => rfl) (fun _ => Nat.le_refl _), fun _ same => (by cases same)⟩ fun _ => .pure _
    · exact .pure _
    · exact .pure _

theorem kill_requests (c : Child) : Only (fun r => ChildRequest r ∧ NoLaunch r ∧ Sealed r) c.kill := by
  dsimp only [Child.kill, Child.signal, Child.collected, inspect, change, Sys.update,
    Sys.signal, Prog.lift, Bind.bind, Prog.bind, Pure.pure]
  refine .call ⟨.update (fun _ => rfl) (fun _ => Nat.le_refl _), fun _ same => (by cases same),
    fun _ => ⟨fun _ => rfl, rfl⟩⟩ fun _ => ?_
  split
  · exact .pure _
  · refine .call ⟨.of_unchanged rfl rfl, fun _ same => (by cases same), fun _ => ⟨fun _ => rfl, rfl⟩⟩ fun _ => ?_
    split
    · exact .pure _
    · split <;> exact .pure _

theorem launchIn_requests (c : Command) (env : List String) :
    Only (fun r => ChildRequest r ∧ Sealed r) (c.launchIn env) := by
  dsimp only [Command.launchIn, Sys.launch, create, change, Sys.update, Prog.lift, Bind.bind,
    Prog.bind, Pure.pure]
  split
  · exact .pure _
  · refine .call ⟨.of_unchanged rfl rfl, fun _ => ⟨fun _ => rfl, rfl⟩⟩ fun _ => ?_
    split
    · exact .pure _
    · exact .call ⟨.update (fun _ => rfl) (fun _ => Nat.le_succ _), fun _ => ⟨fun _ => rfl, rfl⟩⟩ fun _ => .pure _

theorem start_requests (c : Command) (inherited : List String) :
    Only (fun r => ChildRequest r ∧ Sealed r) (c.start inherited) := by
  dsimp only [Command.start, Sys.workingDirectory, Sys.status, Prog.lift, Bind.bind, Prog.bind, Pure.pure]
  have asking : ∀ {r : Request Memory}, r.change? = none → r.startsThread = false → Sealed r →
      ChildRequest r ∧ Sealed r := fun unchanged plain sealed => ⟨.of_unchanged unchanged plain, sealed⟩
  split
  · exact .pure _
  · split
    · exact .pure _
    · refine .call (asking rfl rfl fun _ => ⟨fun _ => rfl, rfl⟩) fun _ => ?_
      split
      · exact .pure _
      · split
        · refine .call (asking rfl rfl fun _ => ⟨fun _ => rfl, rfl⟩) fun _ => ?_
          split
          · exact .pure _
          · exact launchIn_requests _ _
        · exact launchIn_requests _ _

theorem wait_noLaunch (c : Child) : Only NoLaunch c.wait :=
  (wait_requests c).mono fun _ request => request.2

theorem kill_noLaunch (c : Child) : Only NoLaunch c.kill :=
  (kill_requests c).mono fun _ request => request.2.1

/-- The launch a finished start that gave a child made: the command's plan in its
environment, answered with the child's number and handle. -/
theorem start_ok_launch
    {c : Command}
    {inherited : List String}
    {es : List (Exchange Memory)}
    {child : Child}
    (run : Reaches (c.start inherited) es (.pure (.ok child))) :
    ∃ cwd before after, es = before ++ ⟨.launch (c.launchPlan (c.environment inherited cwd).1),
        Except.ok (child.pid, child.handle)⟩ :: after ∧
      (∀ e ∈ before ++ after, NoLaunch e.request ∧ ∀ fd max, e.request ≠ .read fd max) := by
  rcases start_finished run with ⟨⟨f, failed⟩, -⟩ | ⟨cwd, checked, rest, rfl, statusOnly, launching⟩
  · cases failed
  rcases launchIn_finished launching with ⟨-, -, failed⟩ | ⟨e, -, failed⟩ |
      ⟨pid, handle, f, m, rfl, finished⟩
  · cases failed
  · cases failed
  cases finished
  refine ⟨cwd, ⟨.workingDirectory, cwd⟩ :: checked, [⟨.update f, m⟩], by simp, ?_⟩
  intro e member
  simp only [List.cons_append, List.mem_cons, List.mem_append, List.not_mem_nil,
    or_false] at member
  rcases member with rfl | checkedHere | rfl
  · exact ⟨fun _ => nofun, fun _ _ => nofun⟩
  · rw [statusOnly e checkedHere]
    exact ⟨fun _ => nofun, fun _ _ => nofun⟩
  · exact ⟨fun _ => nofun, fun _ _ => nofun⟩

theorem launch_exchange_eq_iff
    {plan plan' : LaunchPlan}
    {a a' : Except Errno (Nat × Nat)} :
    (⟨.launch plan, a⟩ : Exchange Memory) = ⟨.launch plan', a'⟩ ↔ plan = plan' ∧ a = a' := by
  constructor
  · intro same
    cases same
    exact ⟨rfl, rfl⟩
  · rintro ⟨rfl, rfl⟩
    rfl

theorem start_error_unlaunched
    {c : Command}
    {inherited : List String}
    {es : List (Exchange Memory)}
    {f : Fault}
    (run : Reaches (c.start inherited) es (.pure (.error f)))
    {plan : LaunchPlan}
    {pid handle : Nat} :
    ⟨.launch plan, Except.ok (pid, handle)⟩ ∉ es := by
  intro launched
  rcases start_finished run with ⟨-, before⟩ | ⟨cwd, checked, rest, rfl, statusOnly, launching⟩
  · rcases before _ launched with named | named <;> cases named
  rcases launchIn_finished launching with ⟨-, rfl, -⟩ | ⟨e, rfl, -⟩ | ⟨pid', handle', g, m, rfl, failed⟩
  · simp only [List.append_nil, List.mem_cons] at launched
    rcases launched with named | checkedHere
    · cases named
    · cases statusOnly _ checkedHere
  · simp only [List.cons_append, List.mem_cons, List.mem_append] at launched
    rcases launched with named | checkedHere | answered | nothing
    · cases named
    · cases statusOnly _ checkedHere
    · cases (launch_exchange_eq_iff.mp answered).2
    · cases nothing
  · cases failed

end PseudoTerm.Control
