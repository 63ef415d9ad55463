import PseudoTerm.Programs.Tool
import PseudoTerm.Programs.Common
import PseudoTerm.Account

/-!
# Passing data and commands along: `tee`, `xargs`, `printenv`, `whoami`, `which`

* `tee` copies its input to its output and to each file (emptied first, or appended to
  with `-a`), a chunk at a time as it comes.
* `xargs` reads words from its input and runs a command (`echo` by default) with them
  after its own arguments: as many as fit, `-n` at most, or the words of `-L` lines.  Words
  are separated by blanks and line feeds, and quotes and backslashes protect them; `-0`
  and `-d` cut the input at a single byte instead.  With `-I`, each line is one word that
  replaces a string in the arguments, one command per line.  The commands read from
  `/dev/null`.  The status is 123 when a command failed, 124 when one exited with 255,
  125 when one was killed, 127 when the command could not be found.
* `printenv` prints the environment, or the values of the variables named.
* `whoami` prints the user's name.
* `which` prints where each command would be found on the search path.
-/

namespace PseudoTerm.Programs

open PseudoTerm.Machine PseudoTerm.Text Tool

variable {μ : Type}

/-! ## tee -/

/-- The options of `tee`. -/
def teeOptions : List OptionDef :=
  [letterOption 'a' .none (some "append"), letterOption 'i' .none (some "ignore-interrupts"),
   letterOption 'p', longOnly "output-error" .optional]

/-- Copy the input to the output and to descriptors until its end. -/
def teeCopy (fds : List Nat) : Nat → Prog μ (Option Errno)
  | 0 => pure none
  | fuel + 1 => do
    match ← Sys.read (μ := μ) 0 chunkSize with
    | .error e => pure (some e)
    | .ok chunk =>
      if chunk.size == 0 then pure none
      else
        for fd in 1 :: fds do
          let _ ← Sys.writeAll (μ := μ) fd chunk
        teeCopy fds fuel

/-- `tee`: copy the input to the output and to files. -/
def teeProgram (inv : Invocation) : Prog μ Unit := Tool.run inv do
  let c := readCommandLine teeOptions (inv.args.drop 1)
  checkOptions c
  let flags : OpenFlags :=
    if c.has "a" then { read := false, write := true, create := true, append := true }
    else { read := false, write := true, create := true, truncate := true }
  let mut fds : List Nat := []
  for f in c.operands do
    if f == "-" then
      fds := fds ++ [1]
      continue
    match ← Sys.openPath (μ := μ) f flags with
    | .ok fd => fds := fds ++ [fd]
    | .error e => complain s!"{f}: {e.sentence}"
  match ← teeCopy (μ := μ) fds pumpFuel with
  | some e => complain s!"read error: {e.sentence}"
  | none => pure ()

/-! ## xargs -/

/-- What stops reading the words of `xargs`. -/
inductive WordProblem where
  | unmatchedSingle
  | unmatchedDouble
  deriving DecidableEq, Inhabited

/-- The message of a problem with the words. -/
def WordProblem.message : WordProblem → String
  | .unmatchedSingle => "unmatched single quote; by default quotes are special to xargs unless you use the -0 option"
  | .unmatchedDouble => "unmatched double quote; by default quotes are special to xargs unless you use the -0 option"

/-- Whether a byte separates words. -/
def wordBlank (b : UInt8) : Bool := b == 32 || b == 9 || b == 10

/-- The words of an input line by line: each line's words, quotes and backslashes taken
away.  A line ending in a blank goes on to the next one. -/
def readWords (bytes : List UInt8) : Except WordProblem (List (List String)) :=
  go bytes none none false [] [] (bytes.length + 1)
where
  /-- The line with the word being read (reversed) added, when one was started. -/
  finishWord : Option (List UInt8) → List String → List String
    | none, line => line
    | some w, line => line ++ [String.fromUTF8? (ByteArray.mk w.reverse.toArray) |>.getD ""]
  /-- Byte after byte: the word being read, the quote being inside of, whether the last
  byte was a blank, the words of the line, the lines. -/
  go : List UInt8 → Option (List UInt8) → Option UInt8 → Bool → List String → List (List String) → Nat →
      Except WordProblem (List (List String))
    | _, _, _, _, _, _, 0 => .ok []
    | [], word, quote, _, line, lines, _ =>
      match quote with
      | some 39 => .error .unmatchedSingle
      | some _ => .error .unmatchedDouble
      | none =>
        let line := finishWord word line
        .ok (if line.isEmpty then lines else lines ++ [line])
    | b :: rest, word, quote, blank, line, lines, fuel + 1 =>
      match quote with
      | some q =>
        if b == q then go rest word none false line lines fuel
        else if b == 10 then .error (if q == 39 then .unmatchedSingle else .unmatchedDouble)
        else go rest (some (b :: word.getD [])) quote false line lines fuel
      | none =>
        if b == 39 || b == 34 then go rest (some (word.getD [])) (some b) false line lines fuel
        else if b == 92 then
          match rest with
          | c :: more => go more (some (c :: word.getD [])) none false line lines fuel
          | [] => go [] word none false line lines fuel
        else if b == 10 then
          let line := finishWord word line
          if line.isEmpty || blank then go rest none none false line lines fuel
          else go rest none none false [] (lines ++ [line]) fuel
        else if wordBlank b then go rest none none true (finishWord word line) lines fuel
        else go rest (some (b :: word.getD [])) none false line lines fuel

/-- The words of an input cut at a single byte. -/
def splitAtByte (sep : UInt8) (bytes : ByteArray) : List String :=
  let parts := (bytes.toList.splitOn sep)
  let parts := if parts.getLast? == some [] then parts.dropLast else parts
  parts.map fun p => String.fromUTF8? (ByteArray.mk p.toArray) |>.getD ""

/-- The options of `xargs`. -/
def xargsOptions : List OptionDef :=
  [letterOption '0' .none (some "null"), letterOption 'd' .required (some "delimiter"),
   letterOption 'n' .required (some "max-args"), letterOption 'L' .required (some "max-lines"),
   letterOption 'I' .required, letterOption 'i' .optional (some "replace"),
   letterOption 'r' .none (some "no-run-if-empty"), letterOption 't' .none (some "verbose"),
   letterOption 'p' .none (some "interactive"), letterOption 'x' .none (some "exit"),
   letterOption 's' .required (some "max-chars"), letterOption 'P' .required (some "max-procs"),
   letterOption 'E' .required, letterOption 'e' .optional (some "eof"),
   letterOption 'a' .required (some "arg-file"), letterOption 'o' .none (some "open-tty")]

/-- The byte a `-d` delimiter stands for. -/
def delimiterByte (text : String) : Option UInt8 :=
  match text.toList with
  | [c] => if c.toNat < 128 then some c.toNat.toUInt8 else none
  | ['\\', 'n'] => some 10
  | ['\\', 't'] => some 9
  | ['\\', '0'] => some 0
  | ['\\', '\\'] => some 92
  | _ => none

/-- Where a command would be found on the search path. -/
def findCommand (env : List String) (name : String) : Prog μ (Option String) := do
  if name.contains '/' then return some name
  for dir in searchPath env do
    let path := if dir.isEmpty then name else dir ++ "/" ++ name
    match ← Sys.status (μ := μ) path with
    | .ok st =>
      if st.kind != .directory && st.mode &&& 0o111 != 0 then return some path
    | .error _ => pure ()
  return none

/-- How a command run by `xargs` ended. -/
inductive CommandEnd where
  | success
  | failed
  | aborting (code : Nat)

/-- Run one command of `xargs` with its input from `/dev/null`. -/
def runWithWords (env : List String) (trace : Bool) (cmd : List String) : Tool μ CommandEnd := do
  let name := cmd.headD "echo"
  if trace then
    flush
    Sys.print (μ := μ) 2 (" ".intercalate cmd ++ "\n")
  match ← findCommand (μ := μ) env name with
  | none =>
    complain s!"{name}: No such file or directory" 127
    pure (.aborting 127)
  | some path =>
    flush
    let nullFd ← match ← Sys.openPath (μ := μ) "/dev/null" { closeOnExec := true } with
      | .ok fd => pure fd
      | .error _ => pure 0
    let plan : LaunchPlan := { path, args := cmd, env, files := [nullFd, 1, 2] }
    let launched ← Sys.launch (μ := μ) plan
    if nullFd != 0 then let _ ← Sys.close (μ := μ) nullFd
    match launched with
    | .error e =>
      complain s!"{name}: {e.sentence}" (if e == Errno.enoent then 127 else 126)
      pure (.aborting (if e == Errno.enoent then 127 else 126))
    | .ok (pid, handle) =>
      let status ← Sys.wait (μ := μ) (.child pid)
      let _ ← Sys.close (μ := μ) handle
      match status with
      | .ok (some (_, .exited 0)) => pure .success
      | .ok (some (_, .exited 255)) =>
        complain s!"{name}: exited with status 255; aborting" 124
        pure (.aborting 124)
      | .ok (some (_, .exited _)) => pure .failed
      | .ok (some (_, .killed sig)) =>
        complain s!"{name}: terminated by signal {sig}" 125
        pure (.aborting 125)
      | _ => pure .success

/-- Cut a list into pieces of at most `n`. -/
def pieces {α : Type} (n : Nat) (xs : List α) : List (List α) :=
  go xs (xs.length + 1)
where
  /-- Piece after piece. -/
  go : List α → Nat → List (List α)
    | [], _ => []
    | _, 0 => []
    | ys, fuel + 1 => ys.take (max n 1) :: go (ys.drop (max n 1)) fuel

/-- Replace every occurrence of a string in a text. -/
def replaceAll (text pattern replacement : String) : String :=
  if pattern.isEmpty then text else replacement.intercalate (text.splitOn pattern)

/-- `xargs`: run a command with words read from the input. -/
def xargsProgram (inv : Invocation) : Prog μ Unit := Tool.run inv do
  let c := readCommandLine xargsOptions (inv.args.drop 1) true
  checkOptions c
  let cmd := if c.operands.isEmpty then ["echo"] else c.operands
  let replace := match c.last? "I" with
    | some r => some r
    | none => if c.has "i" then some ((c.last? "i").getD "\x7b\x7d") else none
  let number (key : String) : Tool μ (Option Nat) := do
    match c.last? key with
    | none => pure none
    | some v =>
      match v.toNat? with
      | some n => if n ≥ 1 then pure (some n) else fail s!"value {v} for -{key} option should be >= 1" 1
      | none => fail s!"invalid number {mention v} for -{key} option" 1
  let maxArgs ← number "n"
  let maxLines ← number "L"
  let fd ← match c.last? "a" with
    | some f =>
      match ← openInput f with
      | .ok fd => pure fd
      | .error e => fail s!"Cannot open input file {mention f}: {e.sentence}" 1
    | none => pure 0
  let (data, _) ← readAll fd
  -- the input as lines of words
  let lines ← if c.has "0" then pure ((splitAtByte 0 data).map fun w => [w])
    else match c.last? "d" with
      | some d =>
        match delimiterByte d with
        | some b => pure ((splitAtByte b data).map fun w => [w])
        | none => fail s!"invalid input delimiter specification {d}: the delimiter must be either a single character or an escape sequence starting with \\." 1
      | none =>
        if replace.isSome then
          -- each line is one word, blanks at its start taken away
          pure ((splitAtByte 10 data).filterMap fun l =>
            let l := String.ofList (l.toList.dropWhile fun ch => ch == ' ' || ch == '\t')
            if l.isEmpty then none else some [l])
        else
          match readWords data.toList with
          | .ok ls => pure ls
          | .error p => fail p.message 1
  let trace := c.has "t" || c.has "p"
  let groups : List (List String) :=
    match replace with
    | some _ => lines
    | none =>
      match maxLines with
      | some n => (pieces n lines).map List.flatten
      | none =>
        let words := lines.flatten
        match maxArgs with
        | some n => pieces n words
        | none => if words.isEmpty then [] else [words]
  let groups := if groups.isEmpty && !c.has "r" && replace.isNone then [[]] else groups
  let mut failed := false
  for g in groups do
    let full := match replace with
      | some r => cmd.map fun a => replaceAll a r (g.headD "")
      | none => cmd ++ g
    match ← runWithWords inv.env trace full with
    | .success => pure ()
    | .failed => failed := true
    | .aborting code =>
      modify fun s => { s with status := code }
      return
  if failed then modify fun s => { s with status := 123 }

/-! ## printenv, whoami, which -/

/-- `printenv`: the environment, or the values of some variables. -/
def printenvProgram (inv : Invocation) : Prog μ Unit := Tool.run inv do
  let c := readCommandLine [letterOption '0' .none (some "null")] (inv.args.drop 1)
  checkOptions c
  let ending := if c.has "0" then "\x00" else "\n"
  if c.operands.isEmpty then
    for e in inv.env do say (e ++ ending)
  else
    let mut missing := false
    for n in c.operands do
      match (if n.contains '=' then none else lookupEnv inv.env n) with
      | some v => say (v ++ ending)
      | none => missing := true
    if missing then modify fun s => { s with status := 1 }

/-- `whoami`: the user's name. -/
def whoamiProgram (inv : Invocation) : Prog μ Unit := Tool.run inv do
  let c := readCommandLine [] (inv.args.drop 1)
  checkOptions c
  if let some extra := c.operands.head? then misuse s!"extra operand {mention extra}"
  -- every process of the machine runs as the administrator
  say (Account.administrator.name ++ "\n")

/-- `which`: where commands would be found. -/
def whichProgram (inv : Invocation) : Prog μ Unit := Tool.run inv do
  let args := inv.args.drop 1
  let all := args.head? == some "-a"
  let names := if all then args.drop 1 else args
  if names.isEmpty then
    modify fun s => { s with status := 1 }
    return
  let mut missing := false
  for name in names do
    let candidates := if name.contains '/' then [name]
      else (searchPath inv.env).map fun dir => (if dir.isEmpty then "." else dir) ++ "/" ++ name
    let mut found := false
    for path in candidates do
      match ← Sys.status (μ := μ) path with
      | .ok st =>
        if st.kind != .directory && st.mode &&& 0o111 != 0 then
          say (path ++ "\n")
          found := true
          if !all then break
      | .error _ => pure ()
    if !found then missing := true
  if missing then modify fun s => { s with status := 1 }

end PseudoTerm.Programs
