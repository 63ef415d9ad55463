import Mathlib
import PseudoTerm.Account

/-!
# Login shells from the account file

A user's login shell is the seventh field of the user's first entry in the account file,
an entry being a line of exactly seven `:`-separated fields whose first is the user's
name; the fallback shell stands in when that field is empty, when the user has no entry
and when the file cannot be opened.  `TableShell` states this rule of a table of lines
without any search, and `loginShell_eq_iff` shows that the lookup meets it and nothing
else: in particular the lines after the user's first entry play no part.

Read from a file, the table is what the line scanner yields.  When no line of the file is
too long for the scanner these are the file's lines less their carriage returns, so the
lookup follows the rule on the file itself (`userShell_reads_first_entry`); the shell of
the current user is `$SHELL` unless that is unset or empty, the file's otherwise, and it
is never empty.
-/

namespace PseudoTerm.Account

/-- `line` is an entry of `user` whose seventh field is `shell`: it splits on `:` into
exactly seven fields and the first is the user's name. -/
def EntryOf (user line shell : String) : Prop :=
  ∃ password uid gid gecos home, fields line = [user, password, uid, gid, gecos, home, shell]

/-- What an account table says a user's shell is. -/
inductive TableShell (user : String) (table : List String) : String → Prop where
  /-- The seventh field of the user's first entry, or the fallback when that field is
  empty; the lines after the entry play no part. -/
  | entry {before after : List String} {line shell : String}
      (split : table = before ++ line :: after)
      (earlier : ∀ l ∈ before, ∀ s, ¬ EntryOf user l s)
      (found : EntryOf user line shell) :
      TableShell user table (if shell = "" then fallbackShell else shell)
  /-- The fallback, when no line is an entry of the user. -/
  | missing (absent : ∀ l ∈ table, ∀ s, ¬ EntryOf user l s) :
      TableShell user table fallbackShell

theorem isEntryOf_iff {user line : String} :
    isEntryOf user line = true ↔ ∃ shell, EntryOf user line shell := by
  simp only [isEntryOf, EntryOf, Bool.and_eq_true, beq_iff_eq]
  generalize fields line = fs
  constructor
  · rintro ⟨seven, first⟩
    match fs, seven, first with
    | [_, password, uid, gid, gecos, home, shell], _, first =>
      obtain rfl : _ = user := Option.some.inj first
      exact ⟨shell, password, uid, gid, gecos, home, rfl⟩
  · rintro ⟨shell, password, uid, gid, gecos, home, rfl⟩
    simp

theorem EntryOf.shell_eq {user line shell : String} (found : EntryOf user line shell) :
    (fields line).getD 6 "" = shell := by
  obtain ⟨password, uid, gid, gecos, home, split⟩ := found
  simp [split]

theorem not_isEntryOf {user line : String} (never : ∀ s, ¬ EntryOf user line s) :
    isEntryOf user line = false := by
  by_contra entry
  obtain ⟨s, found⟩ := isEntryOf_iff.1 (by simpa using entry)
  exact never s found

theorem tableShell_loginShell (table : List String) (user : String) :
    TableShell user table (loginShell table user) := by
  unfold loginShell
  split
  · next line first =>
    obtain ⟨isEntry, before, after, split, earlier⟩ := List.find?_eq_some_iff_append.1 first
    obtain ⟨shell, found⟩ := isEntryOf_iff.1 isEntry
    have skipped : ∀ l ∈ before, ∀ s, ¬ EntryOf user l s := by
      intro l member s entry
      simpa [isEntryOf_iff.2 ⟨s, entry⟩] using earlier l member
    simpa only [found.shell_eq, String.isEmpty_iff] using TableShell.entry split skipped found
  · next absent =>
    refine .missing fun l member s found => ?_
    exact List.find?_eq_none.1 absent l member (isEntryOf_iff.2 ⟨s, found⟩)

theorem TableShell.eq_loginShell {table : List String} {user shell : String}
    (rule : TableShell user table shell) :
    shell = loginShell table user := by
  cases rule with
  | entry split earlier found =>
    have first : table.find? (isEntryOf user) = some _ :=
      List.find?_eq_some_iff_append.2 ⟨isEntryOf_iff.2 ⟨_, found⟩, _, _, split,
        fun l member => by simp [not_isEntryOf (earlier l member)]⟩
    simp only [loginShell, first, found.shell_eq, String.isEmpty_iff]
  | missing absent =>
    have none : table.find? (isEntryOf user) = none :=
      List.find?_eq_none.2 fun l member => by simp [not_isEntryOf (absent l member)]
    simp [loginShell, none]

theorem loginShell_eq_iff {table : List String} {user shell : String} :
    loginShell table user = shell ↔ TableShell user table shell :=
  ⟨fun looked => looked ▸ tableShell_loginShell table user, fun rule => rule.eq_loginShell.symm⟩

theorem loginShell_ignores_after_first_entry
    {before : List String}
    {line user shell : String}
    (earlier : ∀ l ∈ before, ∀ s, ¬ EntryOf user l s)
    (found : EntryOf user line shell)
    (after rest : List String) :
    loginShell (before ++ line :: after) user = loginShell (before ++ line :: rest) user := by
  have whole : TableShell user (before ++ line :: after) _ := .entry rfl earlier found
  have cut : TableShell user (before ++ line :: rest) _ := .entry rfl earlier found
  rw [← whole.eq_loginShell, ← cut.eq_loginShell]

theorem TableShell.ne_empty {table : List String} {user shell : String}
    (rule : TableShell user table shell) :
    shell ≠ "" := by
  cases rule with
  | entry =>
    split
    · simp [fallbackShell]
    · assumption
  | missing => simp [fallbackShell]

theorem loginShell_ne_empty (table : List String) (user : String) :
    loginShell table user ≠ "" :=
  (tableShell_loginShell table user).ne_empty

/-! ## The account file -/

/-- With no line too long for the scanner, it yields every line of the text less its
carriage return. -/
theorem scanLines_of_fits {text : String}
    (fits : ∀ line ∈ splitLines text, line.utf8ByteSize < maxLineBytes) :
    scanLines text = (splitLines text).map dropCR := by
  rw [scanLines, List.takeWhile_eq_self_iff.2 (by simpa using fits)]

/-- The scanner stops at the first line too long for it: the lines from there on are never
read, entries of the user among them included. -/
theorem scanLines_of_long_line
    {text long : String}
    {before after : List String}
    (split : splitLines text = before ++ long :: after)
    (fits : ∀ line ∈ before, line.utf8ByteSize < maxLineBytes)
    (tooLong : maxLineBytes ≤ long.utf8ByteSize) :
    scanLines text = before.map dropCR := by
  have kept : (before ++ long :: after).takeWhile (fun line => line.utf8ByteSize < maxLineBytes) =
      before := by
    rw [List.takeWhile_append_of_pos (by simpa using fits),
      List.takeWhile_cons_of_neg (by simpa using tooLong), List.append_nil]
  rw [scanLines, split, kept]

theorem userDefaultShell_eq_iff {text user shell : String} :
    userDefaultShell (some text) user = shell ↔ TableShell user (scanLines text) shell :=
  loginShell_eq_iff

theorem userDefaultShell_ne_empty (passwd : Option String) (user : String) :
    userDefaultShell passwd user ≠ "" := by
  cases passwd with
  | some text => exact loginShell_ne_empty _ _
  | none => simp [userDefaultShell, fallbackShell]

/-- The current user's shell is `$SHELL` unless that is unset or empty; otherwise the
account file's entry of the user the lookup found, and the fallback when it found none. -/
theorem currentShell_eq (u : Option User) (shellVariable : Option String) :
    currentShell u shellVariable =
      if shellVariable.getD "" = "" then u.elim fallbackShell fun me => userDefaultShell me.passwd me.name
      else shellVariable.getD "" := by
  have looked : lookedUpShell u = u.elim fallbackShell fun me => userDefaultShell me.passwd me.name := by
    cases u <;> rfl
  cases shellVariable with
  | none => exact looked
  | some s => simp [currentShell, String.isEmpty_iff, looked]

theorem currentShell_ne_empty (u : Option User) (shellVariable : Option String) :
    currentShell u shellVariable ≠ "" := by
  rw [currentShell_eq]
  split
  · cases u with
    | some me => exact userDefaultShell_ne_empty _ _
    | none => simp [fallbackShell]
  · assumption

/-- The login shell read from an account file whose lines all fit the scanner is the
table rule applied to the file's lines, the fallback when the file cannot be opened, and
the current user's shell is `$SHELL` or else that lookup for the user found (the fallback
when no user was found), never empty. -/
theorem userShell_reads_first_entry
    (text : String)
    (fits : ∀ line ∈ splitLines text, line.utf8ByteSize < maxLineBytes)
    (user : String)
    (me : Option User)
    (shellVariable : Option String) :
    (∀ shell, userDefaultShell (some text) user = shell ↔
      TableShell user ((splitLines text).map dropCR) shell) ∧
    userDefaultShell none user = fallbackShell ∧
    currentShell me shellVariable =
      (if shellVariable.getD "" = "" then me.elim fallbackShell fun u => userDefaultShell u.passwd u.name
       else shellVariable.getD "") ∧
    currentShell me shellVariable ≠ "" := by
  refine ⟨fun shell => ?_, rfl, currentShell_eq me shellVariable,
    currentShell_ne_empty me shellVariable⟩
  rw [← scanLines_of_fits fits]
  exact userDefaultShell_eq_iff

/-- A file with carriage returns, a short line of the user's, an entry with an empty
shell and a later entry with one. -/
theorem first_entry_shadows_later_shell :
    (∀ line ∈ splitLines
        "alice:x:1000\r\nalice:x:1000:1000::/home/alice:\r\nalice:x:1000:1000::/home/alice:/bin/zsh\n",
      line.utf8ByteSize < maxLineBytes) ∧
    (∀ shell, userDefaultShell (some
        "alice:x:1000\r\nalice:x:1000:1000::/home/alice:\r\nalice:x:1000:1000::/home/alice:/bin/zsh\n")
        "alice" = shell ↔
      TableShell "alice" ((splitLines
        "alice:x:1000\r\nalice:x:1000:1000::/home/alice:\r\nalice:x:1000:1000::/home/alice:/bin/zsh\n").map
        dropCR) shell) ∧
    userDefaultShell none "alice" = fallbackShell ∧
    currentShell none (some "") =
      (if (some "").getD "" = "" then (none : Option User).elim fallbackShell fun u =>
        userDefaultShell u.passwd u.name
       else (some "").getD "") ∧
    currentShell none (some "") ≠ "" :=
  have fits : ∀ line ∈ splitLines
      "alice:x:1000\r\nalice:x:1000:1000::/home/alice:\r\nalice:x:1000:1000::/home/alice:/bin/zsh\n",
      line.utf8ByteSize < maxLineBytes := by decide
  ⟨fits, userShell_reads_first_entry _ fits "alice" none (some "")⟩

end PseudoTerm.Account
