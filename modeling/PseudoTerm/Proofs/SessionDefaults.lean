import PseudoTerm.Proofs.BatchConfig

/-!
# Filling in a session's defaults

Filling in the defaults of a session specification sets exactly its unset fields: an empty
program becomes the user's shell, an empty name the program, a zero width or height 80 or
24, an empty terminal type `xterm-256color`; everything set before stays, and the two paths
are taken under the home directory when they start there.  Whatever `$SHELL` and the account
table say, the program, the name and the terminal type come out non-empty.

A complete specification (`SessionSpec.Complete`) is left as it is, and under an absolute
home directory the defaults make every specification complete.  Filling in the defaults a
second time therefore changes nothing, even where the shell variable, the account table and
the home directory differ between the two times (`withDefaults_fills_and_settles`).
-/

namespace PseudoTerm

theorem Account.expandHome_of_homeRelative_eq_false
    {path : String}
    (kept : Account.homeRelative path = false)
    (home : String) :
    Account.expandHome home path = path := by
  simp [Account.expandHome, kept]

namespace Config

/-- What filling in the defaults of `s` under the home directory `home` gives in `t`: the
program, name and terminal type are set and the window has at least one cell each way; every
field set in `s` keeps its value, an unnamed session is named after its final program, and
the paths are `s`'s taken under `home`. -/
structure SessionSpec.FilledFrom (home : String) (s t : SessionSpec) : Prop where
  runs : t.command ≠ ""
  named : t.name ≠ ""
  typed : t.term ≠ ""
  wide : 1 ≤ t.cols
  tall : 1 ≤ t.rows
  keepsCommand : s.command ≠ "" → t.command = s.command
  keepsName : s.name ≠ "" → t.name = s.name
  keepsTerm : s.term ≠ "" → t.term = s.term
  keepsCols : s.cols ≠ 0 → t.cols = s.cols
  keepsRows : s.rows ≠ 0 → t.rows = s.rows
  keepsArgs : t.args = s.args
  keepsEnv : t.env = s.env
  keepsCleanEnv : t.cleanEnv = s.cleanEnv
  keepsExecHelper : t.execHelper = s.execHelper
  namedAfterCommand : s.name = "" → t.name = t.command
  dirExpanded : t.dir = Account.expandHome home s.dir
  outputExpanded : t.output = Account.expandHome home s.output

theorem SessionSpec.withDefaults_filledFrom (d : Defaults) (s : SessionSpec) :
    SessionSpec.FilledFrom d.user.home s (s.withDefaults d) where
  runs := s.withDefaults_command_ne_empty d
  named := s.withDefaults_name_ne_empty d
  typed := s.withDefaults_term_ne_empty d
  wide := one_le_of_zero_default (by decide)
  tall := one_le_of_zero_default (by decide)
  keepsCommand := fun set => by simp [SessionSpec.withDefaults, set]
  keepsName := fun set => by simp [SessionSpec.withDefaults, set]
  keepsTerm := fun set => by simp [SessionSpec.withDefaults, set]
  keepsCols := fun set => by simp [SessionSpec.withDefaults, set]
  keepsRows := fun set => by simp [SessionSpec.withDefaults, set]
  keepsArgs := rfl
  keepsEnv := rfl
  keepsCleanEnv := rfl
  keepsExecHelper := rfl
  namedAfterCommand := fun unnamed => by simp [SessionSpec.withDefaults, unnamed]
  dirExpanded := rfl
  outputExpanded := rfl

/-- Filling in the defaults of a complete specification leaves it as it is, whatever the
defaults are. -/
theorem SessionSpec.withDefaults_of_complete
    {s : SessionSpec}
    (complete : s.Complete)
    (d : Defaults) :
    s.withDefaults d = s := by
  have dir := Account.expandHome_of_homeRelative_eq_false complete.dirExpanded d.user.home
  have output := Account.expandHome_of_homeRelative_eq_false complete.outputExpanded d.user.home
  have wide : s.cols ≠ 0 := Nat.pos_iff_ne_zero.mp complete.wide
  have tall : s.rows ≠ 0 := Nat.pos_iff_ne_zero.mp complete.tall
  cases s
  simp_all [SessionSpec.withDefaults, complete.runs, complete.named, complete.typed]

/-- Filling in the defaults sets the unset fields and keeps the set ones, and under an
absolute home directory a second filling in, with any shell variable, account table and
home directory, changes nothing. -/
theorem withDefaults_fills_and_settles (d : Defaults) (s : SessionSpec) :
    SessionSpec.FilledFrom d.user.home s (s.withDefaults d) ∧
      (Path.isAbsolute d.user.home = true → ∀ d' : Defaults, (s.withDefaults d).withDefaults d' = s.withDefaults d) := by
  refine ⟨SessionSpec.withDefaults_filledFrom d s, fun rooted d' => ?_⟩
  exact SessionSpec.withDefaults_of_complete (SessionSpec.withDefaults_complete d rooted s) d'

end Config

end PseudoTerm
