import Mathlib.Data.Finset.Card
import PseudoTerm.Config.Batch
import PseudoTerm.Proofs.LoginShell

/-!
# Checking and selecting batch configurations

A decoded configuration is checked entry by entry: an empty entry is refused, an unnamed
entry is called by its position, a name met before is refused, and every entry gets its
defaults.  The check therefore accepts exactly the configurations with at least one entry,
no empty entry and distinct names once the positional names are given
(`validate_checks_entries`); when it refuses one, its message is about the first entry in
the way.  The sessions it returns are complete: each has a name of its own, a program, a
window of at least one cell each way, a terminal type, and paths that no longer start at
the home directory, as long as the home directory is an absolute path.

Selecting keeps the named sessions in configuration order, refuses a name that matches no
session, and selects nothing when given no names (`select_keeps_named_sessions`).  A
failed selection leaves the configuration as it was, so two selections in a row act as
the second one alone unless the first one narrowed the configuration.
-/

namespace PseudoTerm

/-! ## Paths under the home directory -/

theorem Path.isAbsolute_append {p : String} (rooted : Path.isAbsolute p = true) (q : String) :
    Path.isAbsolute (p ++ q) = true := by
  rw [Path.isAbsolute, String.startsWith_string_iff] at rooted ⊢
  rw [String.toList_append]
  exact rooted.trans (List.prefix_append _ _)

theorem Path.isAbsolute_clean {p : String} (rooted : Path.isAbsolute p = true) :
    Path.isAbsolute (Path.clean p) = true := by
  simp only [Path.clean, rooted, if_true]
  simp [Path.isAbsolute]

theorem Path.isAbsolute_intercalate
    {first : String}
    (rooted : Path.isAbsolute first = true)
    (rest : List String) :
    Path.isAbsolute ("/".intercalate (first :: rest)) = true := by
  cases rest with
  | nil => rwa [String.intercalate_singleton]
  | cons next more =>
      rw [String.intercalate_cons_cons]
      exact Path.isAbsolute_append (Path.isAbsolute_append rooted _) _

theorem Path.isAbsolute_join
    {first : String}
    (rooted : Path.isAbsolute first = true)
    (rest : List String) :
    Path.isAbsolute (Path.join (first :: rest)) = true := by
  have named : first ≠ "" := by
    rintro rfl
    simp [Path.isAbsolute] at rooted
  simp only [Path.join, List.filter_cons, ne_eq, named, not_false_eq_true, decide_true,
    if_true, List.isEmpty_cons, Bool.false_eq_true, if_false]
  exact Path.isAbsolute_clean (Path.isAbsolute_intercalate rooted _)

theorem Account.homeRelative_of_isAbsolute {p : String} (rooted : Path.isAbsolute p = true) :
    Account.homeRelative p = false := by
  rw [Path.isAbsolute, String.startsWith_string_iff] at rooted
  obtain ⟨rest, split⟩ := rooted
  have slash : p.toList = '/' :: rest := by simpa using split.symm
  have notTilde : p ≠ "~" := by
    rintro rfl
    simp at slash
  simp [Account.homeRelative, slash, notTilde]

theorem Account.homeRelative_expandHome
    {home : String}
    (rooted : Path.isAbsolute home = true)
    (path : String) :
    Account.homeRelative (Account.expandHome home path) = false := by
  unfold Account.expandHome
  split
  · exact Account.homeRelative_of_isAbsolute (Path.isAbsolute_join rooted _)
  · next kept => simpa using kept

namespace Config

/-! ## Sessions with their defaults -/

/-- What every session of a checked configuration has: a name, a program, a window of at
least one cell each way, a terminal type, and paths no longer relative to the home
directory. -/
structure SessionSpec.Complete (s : SessionSpec) : Prop where
  named : s.name ≠ ""
  runs : s.command ≠ ""
  wide : 1 ≤ s.cols
  tall : 1 ≤ s.rows
  typed : s.term ≠ ""
  dirExpanded : Account.homeRelative s.dir = false
  outputExpanded : Account.homeRelative s.output = false

theorem SessionSpec.withDefaults_command_ne_empty (d : Defaults) (s : SessionSpec) :
    (s.withDefaults d).command ≠ "" := by
  have shell := Account.currentShell_ne_empty (some d.user) d.shellVariable
  simp only [SessionSpec.withDefaults]
  split
  · exact shell
  · next given => simpa using given

theorem SessionSpec.withDefaults_name_ne_empty (d : Defaults) (s : SessionSpec) :
    (s.withDefaults d).name ≠ "" := by
  by_cases unnamed : s.name = ""
  · simpa [SessionSpec.withDefaults, unnamed] using s.withDefaults_command_ne_empty d
  · simp [SessionSpec.withDefaults, unnamed]

theorem SessionSpec.withDefaults_term_ne_empty (d : Defaults) (s : SessionSpec) :
    (s.withDefaults d).term ≠ "" := by
  by_cases unset : s.term = ""
  · simp [SessionSpec.withDefaults, unset, defaultTerm]
  · simp [SessionSpec.withDefaults, unset]

theorem one_le_of_zero_default {v default : Nat} (positive : 1 ≤ default) :
    1 ≤ (if v == 0 then default else v) := by
  by_cases unset : v = 0
  · simp [unset, positive]
  · simp only [unset, beq_iff_eq, if_false]
    omega

theorem SessionSpec.withDefaults_complete
    (d : Defaults)
    (rooted : Path.isAbsolute d.user.home = true)
    (s : SessionSpec) :
    (s.withDefaults d).Complete where
  named := s.withDefaults_name_ne_empty d
  runs := s.withDefaults_command_ne_empty d
  wide := one_le_of_zero_default (by decide)
  tall := one_le_of_zero_default (by decide)
  typed := s.withDefaults_term_ne_empty d
  dirExpanded := Account.homeRelative_expandHome rooted _
  outputExpanded := Account.homeRelative_expandHome rooted _

theorem SessionSpec.withDefaults_name_of_named
    {s : SessionSpec}
    (named : s.name ≠ "")
    (d : Defaults) :
    (s.withDefaults d).name = s.name := by
  simp [SessionSpec.withDefaults, named]

theorem SessionSpec.nameAt_ne_empty (i : Nat) (s : SessionSpec) : s.nameAt i ≠ "" := by
  unfold SessionSpec.nameAt
  split
  · simp
  · next given => simpa using given

/-! ## Checking the entries -/

/-- The names of the entries numbered from `i` on, an unnamed entry called by its position. -/
def namesFrom : Nat → List SessionSpec → List String
  | _, [] => []
  | i, s :: rest => s.nameAt i :: namesFrom (i + 1) rest

/-- The entries numbered from `i` on, each named and given its defaults. -/
def completedFrom (d : Defaults) : Nat → List SessionSpec → List SessionSpec
  | _, [] => []
  | i, s :: rest => { s with name := s.nameAt i }.withDefaults d :: completedFrom d (i + 1) rest

theorem names_completedFrom (d : Defaults) (i : Nat) (specs : List SessionSpec) :
    (completedFrom d i specs).map (·.name) = namesFrom i specs := by
  induction specs generalizing i with
  | nil => rfl
  | cons s rest inductionHypothesis =>
      have kept := SessionSpec.withDefaults_name_of_named
        (s := { s with name := s.nameAt i }) (SessionSpec.nameAt_ne_empty i s) d
      simp only [completedFrom, namesFrom, List.map_cons, kept, inductionHypothesis]

theorem complete_of_mem_completedFrom
    {d : Defaults}
    (rooted : Path.isAbsolute d.user.home = true)
    {i : Nat}
    {specs : List SessionSpec}
    {s : SessionSpec}
    (member : s ∈ completedFrom d i specs) :
    s.Complete := by
  induction specs generalizing i with
  | nil => simp [completedFrom] at member
  | cons first rest inductionHypothesis =>
      rcases List.mem_cons.mp member with here | later
      · exact here ▸ SessionSpec.withDefaults_complete d rooted _
      · exact inductionHypothesis later

/-- The first entry, numbered from `i` on, that the check refuses, after entries that are
all present with distinct names none of which is in `used`: an empty entry, or one whose
name is taken; with the message the check gives for it. -/
def FirstRefused (i : Nat) (used : List String) (entries : List (Option SessionSpec))
    (message : String) : Prop :=
  ∃ specs rest, (namesFrom i specs).Nodup ∧ (∀ n ∈ namesFrom i specs, n ∉ used) ∧
    ((entries = specs.map some ++ none :: rest ∧
        message = s!"session #{i + specs.length} is empty") ∨
      ∃ s, entries = specs.map some ++ some s :: rest ∧
        (s.nameAt (i + specs.length) ∈ namesFrom i specs ∨ s.nameAt (i + specs.length) ∈ used) ∧
        message = s!"duplicate session name {Text.quote (s.nameAt (i + specs.length))}")

theorem Except.exists_of_map_eq_ok
    {ε α β : Type}
    {f : α → β}
    {x : Except ε α}
    {b : β}
    (passed : x.map f = .ok b) :
    ∃ a, x = .ok a ∧ f a = b := by
  cases x with
  | error e => cases passed
  | ok a =>
      cases passed
      exact ⟨a, rfl, rfl⟩

theorem Except.eq_error_of_map_eq_error
    {ε α β : Type}
    {f : α → β}
    {x : Except ε α}
    {e : ε}
    (failed : x.map f = .error e) :
    x = .error e := by
  cases x with
  | error e' =>
      cases failed
      rfl
  | ok a => cases failed

/-- The names numbered from `i` are distinct and new to `used` exactly when the first one is
new and the others are distinct and new to `used` with the first one added. -/
theorem fresh_namesFrom_cons
    {i : Nat}
    {s : SessionSpec}
    {specs : List SessionSpec}
    {used : List String} :
    ((namesFrom i (s :: specs)).Nodup ∧ ∀ n ∈ namesFrom i (s :: specs), n ∉ used) ↔
      s.nameAt i ∉ used ∧ (namesFrom (i + 1) specs).Nodup ∧
        ∀ n ∈ namesFrom (i + 1) specs, n ∉ s.nameAt i :: used := by
  simp only [namesFrom, List.nodup_cons, List.mem_cons, forall_eq_or_imp, not_or]
  constructor
  · rintro ⟨⟨unseen, distinct⟩, fresh, restFresh⟩
    exact ⟨fresh, distinct, fun n member => ⟨fun same => unseen (same ▸ member), restFresh n member⟩⟩
  · rintro ⟨fresh, distinct, restFresh⟩
    exact ⟨⟨fun met => (restFresh _ met).1 rfl, distinct⟩, fresh, fun n member => (restFresh n member).2⟩

theorem completeEntries_cons_some (d : Defaults) (i : Nat) (s : SessionSpec)
    (rest : List (Option SessionSpec)) (used : List String) :
    completeEntries d i (some s :: rest) used =
      if s.nameAt i ∈ used then .error s!"duplicate session name {Text.quote (s.nameAt i)}"
      else (completeEntries d (i + 1) rest (s.nameAt i :: used)).map
        ({ s with name := s.nameAt i }.withDefaults d :: ·) := by
  simp only [completeEntries, List.contains_iff_mem]
  split
  · rfl
  · cases completeEntries d (i + 1) rest (s.nameAt i :: used) <;> rfl

theorem completeEntries_map_some
    (d : Defaults)
    {i : Nat}
    {used : List String}
    {specs : List SessionSpec}
    (distinct : (namesFrom i specs).Nodup)
    (fresh : ∀ n ∈ namesFrom i specs, n ∉ used) :
    completeEntries d i (specs.map some) used = .ok (completedFrom d i specs) := by
  induction specs generalizing i used with
  | nil => rfl
  | cons s rest inductionHypothesis =>
      obtain ⟨unused, restDistinct, restFresh⟩ := fresh_namesFrom_cons.1 ⟨distinct, fresh⟩
      rw [List.map_cons, completeEntries_cons_some, if_neg unused,
        inductionHypothesis restDistinct restFresh]
      rfl

theorem completeEntries_eq_ok
    {d : Defaults}
    {i : Nat}
    {entries : List (Option SessionSpec)}
    {used : List String}
    {out : List SessionSpec}
    (passed : completeEntries d i entries used = .ok out) :
    ∃ specs, entries = specs.map some ∧ (namesFrom i specs).Nodup ∧
      (∀ n ∈ namesFrom i specs, n ∉ used) ∧ out = completedFrom d i specs := by
  induction entries generalizing i used out with
  | nil =>
      cases passed
      exact ⟨[], rfl, List.nodup_nil, by simp [namesFrom], rfl⟩
  | cons entry rest inductionHypothesis =>
      cases entry with
      | none => simp [completeEntries] at passed
      | some s =>
          rw [completeEntries_cons_some] at passed
          split at passed
          · cases passed
          · next fresh =>
              obtain ⟨tail, restPassed, rfl⟩ := Except.exists_of_map_eq_ok passed
              obtain ⟨specs, rfl, distinct, restFresh, rfl⟩ := inductionHypothesis restPassed
              obtain ⟨allDistinct, allFresh⟩ := fresh_namesFrom_cons.2 ⟨fresh, distinct, restFresh⟩
              exact ⟨s :: specs, rfl, allDistinct, allFresh, rfl⟩

theorem completeEntries_eq_error
    {d : Defaults}
    {i : Nat}
    {entries : List (Option SessionSpec)}
    {used : List String}
    {message : String}
    (failed : completeEntries d i entries used = .error message) :
    FirstRefused i used entries message := by
  induction entries generalizing i used with
  | nil => cases failed
  | cons entry rest inductionHypothesis =>
      cases entry with
      | none =>
          simp only [completeEntries, Except.error.injEq] at failed
          exact ⟨[], rest, List.nodup_nil, by simp [namesFrom], .inl ⟨rfl, by simp [← failed]⟩⟩
      | some s =>
          rw [completeEntries_cons_some] at failed
          split at failed
          · -- this entry's name is taken
            next taken =>
              cases failed
              exact ⟨[], rest, List.nodup_nil, by simp [namesFrom],
                .inr ⟨s, rfl, .inr (by simpa using taken), by simp⟩⟩
          · -- a later entry is in the way: it follows this one, whose name is new
            next fresh =>
              obtain ⟨specs, rest', distinct, restFresh, refused⟩ :=
                inductionHypothesis (Except.eq_error_of_map_eq_error failed)
              have position : i + (s :: specs).length = i + 1 + specs.length := by
                simp only [List.length_cons]
                omega
              obtain ⟨allDistinct, allFresh⟩ := fresh_namesFrom_cons.2 ⟨fresh, distinct, restFresh⟩
              refine ⟨s :: specs, rest', allDistinct, allFresh, ?_⟩
              rw [position]
              rcases refused with ⟨rfl, rfl⟩ | ⟨t, rfl, taken, rfl⟩
              · exact .inl ⟨rfl, rfl⟩
              · refine .inr ⟨t, rfl, ?_, rfl⟩
                simp only [namesFrom, List.mem_cons] at taken ⊢
                rcases taken with earlier | same | old
                · exact .inl (.inr earlier)
                · exact .inl (.inl same)
                · exact .inr old

/-! ## Validating a configuration -/

theorem Decoded.validate_eq (d : Defaults) (c : Decoded) :
    c.validate d =
      if c.entries = [] then .error "at least one session is required"
      else (completeEntries d 1 c.entries []).map fun sessions =>
        { workers := if c.workers < 1 then defaultWorkers else c.workers, sessions } := by
  simp only [Decoded.validate, List.isEmpty_iff]
  split
  · rfl
  · cases completeEntries d 1 c.entries [] <;> rfl

theorem Decoded.validate_eq_ok_iff {d : Defaults} {c : Decoded} {b : BatchSpec} :
    c.validate d = .ok b ↔
      c.entries ≠ [] ∧ ∃ specs, c.entries = specs.map some ∧ (namesFrom 1 specs).Nodup ∧
        b = { workers := if c.workers < 1 then defaultWorkers else c.workers,
              sessions := completedFrom d 1 specs } := by
  rw [Decoded.validate_eq]
  constructor
  · intro passed
    split at passed
    · cases passed
    · next given =>
        obtain ⟨sessions, checked, rfl⟩ := Except.exists_of_map_eq_ok passed
        obtain ⟨specs, listed, distinct, -, rfl⟩ := completeEntries_eq_ok checked
        exact ⟨given, specs, listed, distinct, rfl⟩
  · rintro ⟨given, specs, listed, distinct, rfl⟩
    rw [if_neg given, listed, completeEntries_map_some d distinct (by simp)]
    rfl

theorem Decoded.validate_eq_error
    {d : Defaults}
    {c : Decoded}
    {message : String}
    (failed : c.validate d = .error message) :
    (c.entries = [] ∧ message = "at least one session is required") ∨
      FirstRefused 1 [] c.entries message := by
  rw [Decoded.validate_eq] at failed
  split at failed
  · next empty =>
      cases failed
      exact .inl ⟨empty, rfl⟩
  · exact .inr (completeEntries_eq_error (Except.eq_error_of_map_eq_error failed))

/-- The check of a decoded configuration passes exactly when there is at least one entry, no
entry is empty and the names, an unnamed entry called by its position, are distinct; a
refusal is about the first entry in the way; and a configuration that passes keeps the
number of workers asked for, four when it is less than one, and complete sessions with
distinct names. -/
theorem validate_checks_entries
    (d : Defaults)
    (rooted : Path.isAbsolute d.user.home = true)
    (c : Decoded) :
    ((∃ b, c.validate d = .ok b) ↔
      c.entries ≠ [] ∧ ∃ specs, c.entries = specs.map some ∧ (namesFrom 1 specs).Nodup) ∧
    (∀ message, c.validate d = .error message →
      (c.entries = [] ∧ message = "at least one session is required") ∨
        FirstRefused 1 [] c.entries message) ∧
    (∀ b, c.validate d = .ok b →
      (1 ≤ c.workers → b.workers = c.workers) ∧ (c.workers < 1 → b.workers = defaultWorkers) ∧
      (b.sessions.map (·.name)).Nodup ∧ ∀ s ∈ b.sessions, s.Complete) := by
  refine ⟨⟨?_, ?_⟩, fun _ failed => Decoded.validate_eq_error failed, ?_⟩
  · rintro ⟨b, passed⟩
    obtain ⟨given, specs, listed, distinct, -⟩ := Decoded.validate_eq_ok_iff.1 passed
    exact ⟨given, specs, listed, distinct⟩
  · rintro ⟨given, specs, listed, distinct⟩
    exact ⟨_, Decoded.validate_eq_ok_iff.2 ⟨given, specs, listed, distinct, rfl⟩⟩
  · intro b passed
    obtain ⟨-, specs, -, distinct, rfl⟩ := Decoded.validate_eq_ok_iff.1 passed
    refine ⟨fun enough => if_neg (by omega), fun few => if_pos few, ?_, ?_⟩
    · rwa [names_completedFrom]
    · intro s member
      exact complete_of_mem_completedFrom rooted member

/-- A named session and an unnamed one, with no workers asked for, checked for the
administrator. -/
theorem validate_checks_named_and_unnamed :
    Path.isAbsolute (default : Defaults).user.home = true ∧
    ((∃ b, Decoded.validate default ⟨0, [some { name := "greet" }, some {}]⟩ = .ok b) ↔
      ([some { name := "greet" }, some {}] : List (Option SessionSpec)) ≠ [] ∧
        ∃ specs, [some { name := "greet" }, some {}] = specs.map some ∧
          (namesFrom 1 specs).Nodup) ∧
    (∀ message, Decoded.validate default ⟨0, [some { name := "greet" }, some {}]⟩ =
        .error message →
      (([some { name := "greet" }, some {}] : List (Option SessionSpec)) = [] ∧
          message = "at least one session is required") ∨
        FirstRefused 1 [] [some { name := "greet" }, some {}] message) ∧
    (∀ b, Decoded.validate default ⟨0, [some { name := "greet" }, some {}]⟩ = .ok b →
      ((1 : Int) ≤ 0 → b.workers = 0) ∧ ((0 : Int) < 1 → b.workers = defaultWorkers) ∧
      (b.sessions.map (·.name)).Nodup ∧ ∀ s ∈ b.sessions, s.Complete) :=
  have rooted : Path.isAbsolute (default : Defaults).user.home = true := by
    have home : (default : Defaults).user.home = "/root" := rfl
    simp [home, Path.isAbsolute]
  ⟨rooted, validate_checks_entries default rooted ⟨0, [some { name := "greet" }, some {}]⟩⟩

/-! ## Selecting sessions -/

/-- The selection loop after the sessions `seen`: the sessions seen whose names were asked
for are kept, and the names asked for that none of them carries are still wanted. -/
def Selection.after (names : List String) (seen : List SessionSpec) : Selection :=
  ⟨seen.filter (·.name ∈ names), names.filter (· ∉ seen.map (·.name))⟩

theorem Selection.after_nil (names : List String) : Selection.after names [] = ⟨[], names⟩ := by
  simp [Selection.after]

/-- One visit keeps the loop's invariant, for a session whose name no session seen before
carries. -/
theorem Selection.visit_after
    {names : List String}
    {seen : List SessionSpec}
    {s : SessionSpec}
    (fresh : s.name ∉ seen.map (·.name)) :
    (Selection.after names seen).visit s = Selection.after names (seen ++ [s]) := by
  by_cases asked : s.name ∈ names
  · have wanted : s.name ∈ (Selection.after names seen).wanted :=
      List.mem_filter.mpr ⟨asked, by simpa using fresh⟩
    rw [Selection.visit, if_pos wanted]
    simp only [Selection.after, List.filter_append, List.filter_filter, List.map_append]
    congr 1
    · simp [asked]
    · apply List.filter_congr
      intro n _
      by_cases same : n = s.name <;> simp [same]
  · have unwanted : s.name ∉ (Selection.after names seen).wanted :=
      fun wanted => asked (List.mem_of_mem_filter wanted)
    rw [Selection.visit, if_neg unwanted]
    simp only [Selection.after, List.filter_append, List.map_append]
    congr 1
    · simp [asked]
    · apply List.filter_congr
      intro n member
      have other : n ≠ s.name := fun same => asked (same ▸ member)
      simp [other]

/-- The loop over sessions with distinct names, from any point on, ends where the
invariant says for all of them. -/
theorem Selection.foldl_after
    {names : List String}
    (seen rest : List SessionSpec)
    (distinct : ((seen ++ rest).map (·.name)).Nodup) :
    rest.foldl Selection.visit (Selection.after names seen) = Selection.after names (seen ++ rest) := by
  induction rest generalizing seen with
  | nil => simp
  | cons s rest inductionHypothesis =>
      have fresh : s.name ∉ seen.map (·.name) := by
        rw [List.map_append, List.nodup_append] at distinct
        exact fun seenBefore => distinct.2.2 _ seenBefore _ (by simp) rfl
      rw [List.foldl_cons, Selection.visit_after fresh,
        inductionHypothesis (seen ++ [s]) (by simpa using distinct)]
      simp

theorem BatchSpec.select_loop
    {b : BatchSpec}
    (names : List String)
    (distinct : (b.sessions.map (·.name)).Nodup) :
    b.sessions.foldl Selection.visit ⟨[], names⟩ = Selection.after names b.sessions := by
  rw [← Selection.after_nil names, Selection.foldl_after [] b.sessions (by simpa using distinct)]
  rfl

theorem BatchSpec.select_nil (b : BatchSpec) : b.select [] = .ok b := rfl

theorem BatchSpec.select_of_known
    {b : BatchSpec}
    {names : List String}
    (distinct : (b.sessions.map (·.name)).Nodup)
    (given : names ≠ [])
    (known : ∀ n ∈ names, n ∈ b.sessions.map (·.name)) :
    b.select names = .ok { b with sessions := b.sessions.filter fun s => s.name ∈ names } := by
  have noneWanted : (Selection.after names b.sessions).wanted = [] := by
    rw [Selection.after, List.filter_eq_nil_iff]
    intro n member
    simpa using known n member
  simp only [BatchSpec.select, List.isEmpty_iff, given, if_false, BatchSpec.select_loop names distinct,
    noneWanted]
  rfl

theorem BatchSpec.select_of_unknown
    {b : BatchSpec}
    {names : List String}
    {n : String}
    (distinct : (b.sessions.map (·.name)).Nodup)
    (member : n ∈ names)
    (unknown : n ∉ b.sessions.map (·.name)) :
    ∃ f, b.select names = .error f := by
  have stillWanted : n ∈ (Selection.after names b.sessions).wanted :=
    List.mem_filter.mpr ⟨member, by simpa using unknown⟩
  simp only [BatchSpec.select, List.isEmpty_iff, List.ne_nil_of_mem member, if_false,
    BatchSpec.select_loop names distinct]
  split
  · exact ⟨_, rfl⟩
  · next noneWanted => simp [noneWanted] at stillWanted

theorem BatchSpec.afterSelect_of_ok
    {b b' : BatchSpec}
    {names : List String}
    (selected : b.select names = .ok b') :
    b.afterSelect names = b' := by
  simp [BatchSpec.afterSelect, selected]

theorem BatchSpec.afterSelect_of_error
    {b : BatchSpec}
    {names : List String}
    {f : Fault}
    (failed : b.select names = .error f) :
    b.afterSelect names = b := by
  simp [BatchSpec.afterSelect, failed]

theorem BatchSpec.known_of_select_eq_ok
    {b b' : BatchSpec}
    {names : List String}
    (distinct : (b.sessions.map (·.name)).Nodup)
    (selected : b.select names = .ok b') :
    ∀ n ∈ names, n ∈ b.sessions.map (·.name) := by
  intro n member
  by_contra unknown
  obtain ⟨f, failed⟩ := BatchSpec.select_of_unknown distinct member unknown
  rw [selected] at failed
  cases failed

theorem mem_names_filter_named
    {sessions : List SessionSpec}
    {names : List String}
    (known : ∀ n ∈ names, n ∈ sessions.map (·.name))
    (n : String) :
    n ∈ (sessions.filter fun s => s.name ∈ names).map (·.name) ↔ n ∈ names := by
  simp only [List.mem_map, List.mem_filter, decide_eq_true_eq]
  constructor
  · rintro ⟨s, ⟨-, named⟩, rfl⟩
    exact named
  · intro member
    obtain ⟨s, present, rfl⟩ := List.mem_map.mp (known n member)
    exact ⟨s, ⟨present, member⟩, rfl⟩

/-- Among sessions with distinct names, those named in a list of known names are as many as
the distinct names of the list. -/
theorem length_filter_named
    {sessions : List SessionSpec}
    {names : List String}
    (distinct : (sessions.map (·.name)).Nodup)
    (known : ∀ n ∈ names, n ∈ sessions.map (·.name)) :
    (sessions.filter fun s => s.name ∈ names).length = names.toFinset.card := by
  have keptDistinct : ((sessions.filter fun s => s.name ∈ names).map (·.name)).Nodup :=
    distinct.sublist ((List.filter_sublist).map _)
  have sameNames : ((sessions.filter fun s => s.name ∈ names).map (·.name)).toFinset =
      names.toFinset := by
    ext n
    simp only [List.mem_toFinset]
    exact mem_names_filter_named known n
  rw [← sameNames, List.toFinset_card_of_nodup keptDistinct, List.length_map]

/-- After a selection that narrowed the configuration, a second selection succeeds exactly
when its names were all selected, and then leaves what it would have left from the start. -/
theorem BatchSpec.select_afterSelect
    {b : BatchSpec}
    {first : List String}
    (distinct : (b.sessions.map (·.name)).Nodup)
    (givenFirst : first ≠ [])
    (knownFirst : ∀ n ∈ first, n ∈ b.sessions.map (·.name))
    (second : List String) :
    ((∃ b₂, (b.afterSelect first).select second = .ok b₂) ↔ ∀ n ∈ second, n ∈ first) ∧
    (second ≠ [] → ∀ b₂, (b.afterSelect first).select second = .ok b₂ →
      b.select second = .ok b₂) := by
  have narrowed := BatchSpec.afterSelect_of_ok (BatchSpec.select_of_known distinct givenFirst knownFirst)
  have narrowedDistinct : ((b.afterSelect first).sessions.map (·.name)).Nodup :=
    narrowed ▸ distinct.sublist ((List.filter_sublist).map _)
  have left := mem_names_filter_named knownFirst
  have selectedFirst : ∀ n ∈ second, n ∈ first → n ∈ (b.afterSelect first).sessions.map (·.name) :=
    fun n _ member => narrowed ▸ (left n).mpr member
  have succeeds : (∃ b₂, (b.afterSelect first).select second = .ok b₂) ↔
      ∀ n ∈ second, n ∈ first := by
    constructor
    · rintro ⟨b₂, selected⟩ n member
      have listed := BatchSpec.known_of_select_eq_ok narrowedDistinct selected n member
      rw [narrowed] at listed
      exact (left n).mp listed
    · intro within
      by_cases empty : second = []
      · exact ⟨_, empty ▸ BatchSpec.select_nil _⟩
      · exact ⟨_, BatchSpec.select_of_known narrowedDistinct empty fun n member =>
          selectedFirst n member (within n member)⟩
  refine ⟨succeeds, ?_⟩
  intro givenSecond b₂ selected
  have within := succeeds.mp ⟨b₂, selected⟩
  rw [BatchSpec.select_of_known narrowedDistinct givenSecond fun n member =>
    selectedFirst n member (within n member)] at selected
  cases selected
  have twice : ((b.sessions.filter fun s => s.name ∈ first).filter fun s => s.name ∈ second) =
      b.sessions.filter fun s => s.name ∈ second := by
    rw [List.filter_filter]
    apply List.filter_congr
    intro s _
    by_cases named : s.name ∈ second
    · simp [named, within _ named]
    · simp [named]
  rw [BatchSpec.select_of_known distinct givenSecond fun n member => knownFirst n (within n member),
    narrowed]
  simp only [twice]

theorem BatchSpec.select_afterSelect_of_unchanged
    {b : BatchSpec}
    {first : List String}
    (unchanged : first = [] ∨ ∃ f, b.select first = .error f)
    (second : List String) :
    (b.afterSelect first).select second = b.select second := by
  rcases unchanged with rfl | ⟨f, failed⟩
  · rw [BatchSpec.afterSelect_of_ok (BatchSpec.select_nil b)]
  · rw [BatchSpec.afterSelect_of_error failed]

/-- Selecting among sessions with distinct names: no names keep the configuration; other
names fail, leaving the configuration as it was, exactly when one of them matches no
session, and otherwise keep the named sessions in configuration order, as many as the
distinct names given.  A second selection after one that narrowed the configuration
succeeds exactly for names of the first and then selects as from the start; after one that
left the configuration as it was, it is the second selection alone. -/
theorem select_keeps_named_sessions
    (b : BatchSpec)
    (distinct : (b.sessions.map (·.name)).Nodup) :
    b.select [] = .ok b ∧
    (∀ names, names ≠ [] →
      ((∃ f, b.select names = .error f) ↔ ∃ n ∈ names, n ∉ b.sessions.map (·.name)) ∧
      (∀ f, b.select names = .error f → b.afterSelect names = b) ∧
      (∀ b', b.select names = .ok b' →
        b' = { b with sessions := b.sessions.filter fun s => s.name ∈ names } ∧
        b'.sessions.length = names.toFinset.card)) ∧
    (∀ first second, first ≠ [] → (∃ b₁, b.select first = .ok b₁) →
      ((∃ b₂, (b.afterSelect first).select second = .ok b₂) ↔ ∀ n ∈ second, n ∈ first) ∧
      (second ≠ [] → ∀ b₂, (b.afterSelect first).select second = .ok b₂ →
        b.select second = .ok b₂)) ∧
    (∀ first second, (first = [] ∨ ∃ f, b.select first = .error f) →
      (b.afterSelect first).select second = b.select second) := by
  refine ⟨BatchSpec.select_nil b, ?_, ?_, ?_⟩
  · intro names given
    refine ⟨⟨?_, ?_⟩, fun _ failed => BatchSpec.afterSelect_of_error failed, ?_⟩
    · rintro ⟨f, failed⟩
      by_contra noneUnknown
      have allKnown : ∀ n ∈ names, n ∈ b.sessions.map (·.name) := fun n member =>
        Classical.byContradiction fun unknown => noneUnknown ⟨n, member, unknown⟩
      rw [BatchSpec.select_of_known distinct given allKnown] at failed
      cases failed
    · rintro ⟨n, member, unknown⟩
      exact BatchSpec.select_of_unknown distinct member unknown
    · intro b' selected
      have allKnown := BatchSpec.known_of_select_eq_ok distinct selected
      rw [BatchSpec.select_of_known distinct given allKnown] at selected
      cases selected
      exact ⟨rfl, length_filter_named distinct allKnown⟩
  · rintro first second givenFirst ⟨b₁, selected⟩
    exact BatchSpec.select_afterSelect distinct givenFirst (BatchSpec.known_of_select_eq_ok distinct selected)
      second
  · intro first second unchanged
    exact BatchSpec.select_afterSelect_of_unchanged unchanged second

/-- Selecting no names after selecting one session keeps that session alone, while selecting
no names from the start keeps both. -/
theorem select_nothing_after_selection :
    ((BatchSpec.afterSelect { sessions := [{ name := "greet" }, { name := "session-2" }] }
        ["greet"]).select []).map (·.sessions) = .ok [{ name := "greet" }] ∧
    ((({ sessions := [{ name := "greet" }, { name := "session-2" }] } : BatchSpec).select
        []).map (·.sessions)) = .ok [{ name := "greet" }, { name := "session-2" }] :=
  ⟨rfl, rfl⟩

theorem select_keeps_named_sessions_two :
    (([{ name := "greet" }, { name := "session-2" }] : List SessionSpec).map (·.name)).Nodup ∧
    (({ sessions := [{ name := "greet" }, { name := "session-2" }] } : BatchSpec).select [] =
        .ok { sessions := [{ name := "greet" }, { name := "session-2" }] }) ∧
    (∀ names, names ≠ [] →
      ((∃ f, ({ sessions := [{ name := "greet" }, { name := "session-2" }] } : BatchSpec).select
          names = .error f) ↔
        ∃ n ∈ names, n ∉ ([{ name := "greet" }, { name := "session-2" }] : List SessionSpec).map
          (·.name)) ∧
      (∀ f, ({ sessions := [{ name := "greet" }, { name := "session-2" }] } : BatchSpec).select
          names = .error f →
        BatchSpec.afterSelect { sessions := [{ name := "greet" }, { name := "session-2" }] } names =
          { sessions := [{ name := "greet" }, { name := "session-2" }] }) ∧
      (∀ b', ({ sessions := [{ name := "greet" }, { name := "session-2" }] } : BatchSpec).select
          names = .ok b' →
        b' = { sessions := List.filter (fun s => s.name ∈ names)
                [{ name := "greet" }, { name := "session-2" }] } ∧
        b'.sessions.length = names.toFinset.card)) ∧
    (∀ first second, first ≠ [] →
      (∃ b₁, ({ sessions := [{ name := "greet" }, { name := "session-2" }] } : BatchSpec).select
        first = .ok b₁) →
      ((∃ b₂, (BatchSpec.afterSelect { sessions := [{ name := "greet" }, { name := "session-2" }] }
          first).select second = .ok b₂) ↔ ∀ n ∈ second, n ∈ first) ∧
      (second ≠ [] → ∀ b₂, (BatchSpec.afterSelect
          { sessions := [{ name := "greet" }, { name := "session-2" }] } first).select second =
          .ok b₂ →
        ({ sessions := [{ name := "greet" }, { name := "session-2" }] } : BatchSpec).select second =
          .ok b₂)) ∧
    (∀ first second, (first = [] ∨ ∃ f,
        ({ sessions := [{ name := "greet" }, { name := "session-2" }] } : BatchSpec).select first =
          .error f) →
      (BatchSpec.afterSelect { sessions := [{ name := "greet" }, { name := "session-2" }] }
        first).select second =
      ({ sessions := [{ name := "greet" }, { name := "session-2" }] } : BatchSpec).select second) :=
  ⟨by decide, select_keeps_named_sessions { sessions := [{ name := "greet" }, { name := "session-2" }] }
    (by decide)⟩

end Config

end PseudoTerm
