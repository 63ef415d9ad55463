import PseudoTerm.Programs.Tool
import PseudoTerm.Programs.Common

/-!
# Changing the file tree: `rm`, `rmdir`, `mv`, `cp`, `ln`, `chmod`, `readlink`, `realpath`

These utilities name what they act on between apostrophes in their messages, and go on
with the next operand after a failure, ending with status 1.

* `rm` removes files; a directory only with `-d` (when empty) or `-r` (with everything
  below it).  `-f` keeps quiet about missing files.  `.` and `..` are refused.
* `rmdir` removes empty directories (`-p`: then their parents).
* `mv` and `cp` take a source and a target, or sources and a directory to put them in.
  A directory replaces only a directory and a file only a file; a directory is neither
  moved nor copied below itself.  `cp` copies a directory only with `-r`; it follows
  symbolic links unless it copies recursively.
* `ln` makes hard links, or symbolic ones with `-s` (`-f` first removes what is there).
* `chmod` sets permission bits, in octal or as symbolic clauses `[ugoa]*[-+=][rwxXst]*`;
  without `ugoa` the bits of the mask `022` are left alone.
* `readlink` prints what a symbolic link holds; `-f` and `realpath` print the path with
  every link followed and `.` and `..` taken away.
-/

namespace PseudoTerm.Programs

open PseudoTerm.Machine PseudoTerm.Text Tool

variable {μ : Type}

/-- How much of a path must exist to resolve it. -/
inductive Existence where
  /-- Every element. -/
  | every
  /-- All but the last. -/
  | allButLast
  /-- None. -/
  | none
  deriving DecidableEq, Inhabited

/-- The most elements one resolution handles, links included. -/
def resolveLimit : Nat := 4096

/-- The absolute path a path stands for, every symbolic link followed and `.` and `..`
taken away; elements that do not exist are kept when allowed. -/
def resolvePath (need : Existence) (path : String) : Prog μ (Except Errno String) := do
  let cwd ← Sys.workingDirectory (μ := μ)
  let start := if Path.isAbsolute path then [] else (Path.elements cwd).reverse
  go start (Path.elements path) 0 resolveLimit
where
  /-- The elements resolved so far (innermost first), those left, the links followed. -/
  go (done : List String) (todo : List String) (links : Nat) : Nat → Prog μ (Except Errno String)
    | 0 => pure (.error ⟨40⟩)
    | fuel + 1 => do
      match todo with
      | [] => pure (.ok ("/" ++ "/".intercalate done.reverse))
      | part :: rest =>
        if part == "." then go done rest links fuel
        else if part == ".." then go (done.drop 1) rest links fuel
        else
          let here := "/" ++ "/".intercalate (part :: done).reverse
          match ← Sys.status (μ := μ) here false with
          | .ok st =>
            if st.kind == .symlink then
              if links ≥ 40 then return .error ⟨40⟩
              match ← Sys.readLink (μ := μ) here with
              | .ok target =>
                let done := if Path.isAbsolute target then [] else done
                go done (Path.elements target ++ rest) (links + 1) fuel
              | .error e => pure (.error e)
            else if !rest.isEmpty && st.kind != .directory then pure (.error Errno.enotdir)
            else go (part :: done) rest links fuel
          | .error e =>
            if e != Errno.enoent then pure (.error e)
            else
              match need with
              | .every => pure (.error e)
              | .allButLast => if rest.isEmpty then go (part :: done) rest links fuel else pure (.error e)
              | .none => go (part :: done) rest links fuel

/-- Whether two paths name the same thing: they resolve alike. -/
def samePlace (a b : String) : Prog μ Bool := do
  match ← resolvePath (μ := μ) .every a, ← resolvePath (μ := μ) .every b with
  | .ok x, .ok y => pure (x == y)
  | _, _ => pure false

/-- The path of `name` inside directory `dir`. -/
def pathInside (dir name : String) : String :=
  if dir.endsWith "/" then dir ++ name else dir ++ "/" ++ name

/-- The deepest a tree is walked. -/
def treeDepthLimit : Nat := 512

/-- Whether the path names a directory, links followed. -/
def namesDirectory (path : String) : Prog μ Bool := do
  match ← Sys.status (μ := μ) path with
  | .ok st => pure (st.kind == .directory)
  | .error _ => pure false

/-! ## rm and rmdir -/

/-- The options of `rm`. -/
def removeOptions : List OptionDef :=
  [letterOption 'f' .none (some "force"), letterOption 'r' .none (some "recursive"),
   letterOption 'R', letterOption 'd' .none (some "dir"), letterOption 'v' .none (some "verbose"),
   letterOption 'i', letterOption 'I', longOnly "interactive" .optional,
   longOnly "preserve-root" .optional, longOnly "no-preserve-root", longOnly "one-file-system"]

/-- Remove a directory and everything below it. -/
def removeTree (verbose : Bool) : Nat → String → Tool μ Bool
  | 0, _ => pure false
  | fuel + 1, path => do
    let names ← match ← Sys.listDirectory (μ := μ) path with
      | .ok names => pure names
      | .error e =>
        complain s!"cannot remove {mention path}: {e.sentence}"
        return false
    let mut ok := true
    for name in names do
      let sub := pathInside path name
      match ← Sys.status (μ := μ) sub false with
      | .ok st =>
        if st.kind == .directory then
          if !(← removeTree verbose fuel sub) then ok := false
        else
          match ← Sys.removeEntry (μ := μ) sub with
          | .ok () => if verbose then say s!"removed {mention sub}\n"
          | .error e => complain s!"cannot remove {mention sub}: {e.sentence}"; ok := false
      | .error e => complain s!"cannot remove {mention sub}: {e.sentence}"; ok := false
    if !ok then return false
    match ← Sys.removeEntry (μ := μ) path true with
    | .ok () =>
      if verbose then say s!"removed directory {mention path}\n"
      pure true
    | .error e =>
      complain s!"cannot remove {mention path}: {e.sentence}"
      pure false

/-- `rm`: remove files, and directories when asked. -/
def rmProgram (inv : Invocation) : Prog μ Unit := Tool.run inv do
  let c := readCommandLine removeOptions (inv.args.drop 1)
  checkOptions c
  let force := c.has "f"
  let recursive := c.has "r" || c.has "R"
  let verbose := c.has "v"
  if c.operands.isEmpty then
    if force then return
    misuse "missing operand"
  for path in c.operands do
    let last := (Path.elements path).getLast?
    if last == some "." || last == some ".." then
      complain s!"refusing to remove '.' or '..' directory: skipping {mention path}"
      continue
    match ← Sys.status (μ := μ) path false with
    | .error e =>
      if !(force && e == Errno.enoent) then complain s!"cannot remove {mention path}: {e.sentence}"
    | .ok st =>
      if st.kind == .directory then
        if recursive then
          if Path.elements path == [] then
            complain s!"it is dangerous to operate recursively on {mention path}"
            warn "use --no-preserve-root to override this failsafe"
          else
            let _ ← removeTree verbose treeDepthLimit path
        else if c.has "d" then
          match ← Sys.removeEntry (μ := μ) path true with
          | .ok () => if verbose then say s!"removed directory {mention path}\n"
          | .error e => complain s!"cannot remove {mention path}: {e.sentence}"
        else complain s!"cannot remove {mention path}: Is a directory"
      else
        match ← Sys.removeEntry (μ := μ) path with
        | .ok () => if verbose then say s!"removed {mention path}\n"
        | .error e => complain s!"cannot remove {mention path}: {e.sentence}"

/-- The options of `rmdir`. -/
def rmdirOptions : List OptionDef :=
  [letterOption 'p' .none (some "parents"), letterOption 'v' .none (some "verbose"),
   longOnly "ignore-fail-on-non-empty"]

/-- `rmdir`: remove empty directories. -/
def rmdirProgram (inv : Invocation) : Prog μ Unit := Tool.run inv do
  let c := readCommandLine rmdirOptions (inv.args.drop 1)
  checkOptions c
  if c.operands.isEmpty then misuse "missing operand"
  let quietNonEmpty := c.has "ignore-fail-on-non-empty"
  for path in c.operands do
    -- with -p, the path and then each of its parents
    let parts := Path.elements path
    let rooted := Path.isAbsolute path
    let count := if c.has "p" then parts.length else 1
    for k in List.range count do
      let p := (if rooted then "/" else "") ++ "/".intercalate (parts.take (parts.length - k))
      let p := if k == 0 then path else p
      if c.has "v" then say s!"rmdir: removing directory, {mention p}\n"
      match ← Sys.removeEntry (μ := μ) p true with
      | .ok () => pure ()
      | .error e =>
        if !(quietNonEmpty && e == ⟨39⟩) then complain s!"failed to remove {mention p}: {e.sentence}"
        break

/-! ## mv -/

/-- The options of `mv`. -/
def moveOptions : List OptionDef :=
  [letterOption 'f' .none (some "force"), letterOption 'i' .none (some "interactive"),
   letterOption 'n' .none (some "no-clobber"), letterOption 'v' .none (some "verbose"),
   letterOption 'T' .none (some "no-target-directory"),
   letterOption 't' .required (some "target-directory"), letterOption 'u' .none (some "update"),
   letterOption 'b', longOnly "backup" .optional, longOnly "strip-trailing-slashes"]

/-- The sources and where each goes, from the operands: one source and its target, or
sources and a directory. -/
def placements (c : CommandLine) : Tool μ (List (String × String)) := do
  match c.last? "t" with
  | some dir =>
    if !(← namesDirectory (μ := μ) dir) then fail s!"target directory {mention dir}: Not a directory"
    if c.operands.isEmpty then misuse s!"missing file operand"
    pure (c.operands.map fun s => (s, pathInside dir (Path.base s)))
  | none =>
    match c.operands with
    | [] => misuse "missing file operand"
    | [a] => misuse s!"missing destination file operand after {mention a}"
    | [a, b] =>
      if !c.has "T" && (← namesDirectory (μ := μ) b) then pure [(a, pathInside b (Path.base a))]
      else pure [(a, b)]
    | many =>
      let dir := many.getLast!
      let extra := many.getD 2 ""
      if c.has "T" then misuse s!"extra operand {mention extra}"
      match ← Sys.status (μ := μ) dir with
      | .ok st =>
        if st.kind != .directory then fail s!"target {mention dir} is not a directory"
      | .error e => fail s!"target {mention dir}: {e.sentence}"
      pure (many.dropLast.map fun s => (s, pathInside dir (Path.base s)))

/-- `mv`: move or rename. -/
def mvProgram (inv : Invocation) : Prog μ Unit := Tool.run inv do
  let c := readCommandLine moveOptions (inv.args.drop 1)
  checkOptions c
  for (src, dst) in ← placements c do
    let srcStatus ← match ← Sys.status (μ := μ) src false with
      | .ok st => pure st
      | .error e =>
        complain s!"cannot stat {mention src}: {e.sentence}"
        continue
    match ← Sys.status (μ := μ) dst false with
    | .ok dstStatus =>
      if ← samePlace (μ := μ) src dst then
        if srcStatus.kind == .directory && Path.base src != Path.base dst then pure ()
        else
          complain s!"{mention src} and {mention dst} are the same file"
          continue
      if c.has "n" then continue
      if srcStatus.kind == .directory && dstStatus.kind != .directory then
        complain s!"cannot overwrite non-directory {mention dst} with directory {mention src}"
        continue
      if srcStatus.kind != .directory && dstStatus.kind == .directory then
        complain s!"cannot overwrite directory {mention dst} with non-directory"
        continue
    | .error _ => pure ()
    match ← Sys.rename (μ := μ) src dst with
    | .ok () => if c.has "v" then say s!"renamed {mention src} -> {mention dst}\n"
    | .error e =>
      if e == Errno.einval then complain s!"cannot move {mention src} to a subdirectory of itself, {mention dst}"
      else complain s!"cannot move {mention src} to {mention dst}: {e.sentence}"

/-! ## cp -/

/-- The options of `cp`. -/
def copyOptions : List OptionDef :=
  [letterOption 'r' .none (some "recursive"), letterOption 'R', letterOption 'a' .none (some "archive"),
   letterOption 'p', letterOption 'd', letterOption 'P' .none (some "no-dereference"),
   letterOption 'L' .none (some "dereference"), letterOption 'H',
   letterOption 'f' .none (some "force"), letterOption 'i' .none (some "interactive"),
   letterOption 'n' .none (some "no-clobber"), letterOption 'v' .none (some "verbose"),
   letterOption 'l' .none (some "link"), letterOption 's' .none (some "symbolic-link"),
   letterOption 'u' .none (some "update"), letterOption 'T' .none (some "no-target-directory"),
   letterOption 't' .required (some "target-directory"), letterOption 'b',
   longOnly "preserve" .optional, longOnly "no-preserve" .required, longOnly "backup" .optional]

/-- How `cp` copies. -/
structure CopyMode where
  recursive : Bool
  follow : Bool
  keepMode : Bool
  noClobber : Bool
  verbose : Bool
  hardLink : Bool
  symbolic : Bool

/-- Copy a file's bytes to a target, made with the source's mode when new. -/
def copyFile (m : CopyMode) (src dst : String) (mode : Nat) : Tool μ Unit := do
  match ← Sys.openPath (μ := μ) src {} with
  | .error e => complain s!"cannot open {mention src} for reading: {e.sentence}"
  | .ok fd =>
    let (data, _) ← Sys.readToEnd (μ := μ) fd 100000000
    let _ ← Sys.close (μ := μ) fd
    match ← Sys.openPath (μ := μ) dst { read := false, write := true, create := true, truncate := true } mode with
    | .error e => complain s!"cannot create regular file {mention dst}: {e.sentence}"
    | .ok out =>
      let _ ← Sys.writeAll (μ := μ) out data
      let _ ← Sys.close (μ := μ) out
      if m.keepMode then let _ ← Sys.setMode (μ := μ) dst mode
      if m.verbose then say s!"{mention src} -> {mention dst}\n"

/-- Copy what a path names to a target path. -/
def copyPath (m : CopyMode) : Nat → Bool → String → String → Tool μ Unit
  | 0, _, _, _ => pure ()
  | fuel + 1, top, src, dst => do
    let follow := m.follow || (top && !m.recursive)
    let st ← match ← Sys.status (μ := μ) src follow with
      | .ok st => pure st
      | .error e =>
        complain s!"cannot stat {mention src}: {e.sentence}"
        return
    let existing ← match ← Sys.status (μ := μ) dst false with
      | .ok d => pure (some d)
      | .error _ => pure none
    if st.kind == .directory then
      if !m.recursive then
        complain s!"-r not specified; omitting directory {mention src}"
        return
      if let some d := existing then
        if d.kind != .directory then
          complain s!"cannot overwrite non-directory {mention dst} with directory {mention src}"
          return
      -- a directory is never copied below itself
      match ← resolvePath (μ := μ) .every src, ← resolvePath (μ := μ) .none dst with
      | .ok a, .ok b =>
        if b == a || b.startsWith (a ++ "/") then
          complain s!"cannot copy a directory, {mention src}, into itself, {mention dst}"
          return
      | _, _ => pure ()
      if existing.isNone then
        match ← Sys.makeDirectory (μ := μ) dst with
        | .ok () => if m.verbose then say s!"{mention src} -> {mention dst}\n"
        | .error e =>
          complain s!"cannot create directory {mention dst}: {e.sentence}"
          return
      match ← Sys.listDirectory (μ := μ) src with
      | .ok names =>
        for name in names do
          copyPath m fuel false (pathInside src name) (pathInside dst name)
      | .error e => complain s!"cannot access {mention src}: {e.sentence}"
      if m.keepMode || existing.isNone then let _ ← Sys.setMode (μ := μ) dst st.mode
    else
      if let some d := existing then
        if d.kind == .directory then
          complain s!"cannot overwrite directory {mention dst} with non-directory"
          return
        if ← samePlace (μ := μ) src dst then
          complain s!"{mention src} and {mention dst} are the same file"
          return
        if m.noClobber then return
      if m.hardLink || m.symbolic then
        if existing.isSome then let _ ← Sys.removeEntry (μ := μ) dst
        match ← Sys.makeLink (μ := μ) src dst m.symbolic with
        | .ok () => if m.verbose then say s!"{mention src} -> {mention dst}\n"
        | .error e =>
          let kind := if m.symbolic then "symbolic link" else "hard link"
          complain s!"cannot create {kind} {mention dst} to {mention src}: {e.sentence}"
      else if st.kind == .symlink then
        match ← Sys.readLink (μ := μ) src with
        | .ok target =>
          if existing.isSome then let _ ← Sys.removeEntry (μ := μ) dst
          match ← Sys.makeLink (μ := μ) target dst true with
          | .ok () => if m.verbose then say s!"{mention src} -> {mention dst}\n"
          | .error e => complain s!"cannot create symbolic link {mention dst}: {e.sentence}"
        | .error e => complain s!"cannot read symbolic link {mention src}: {e.sentence}"
      else copyFile m src dst st.mode

/-- `cp`: copy files, and directories with `-r`. -/
def cpProgram (inv : Invocation) : Prog μ Unit := Tool.run inv do
  let c := readCommandLine copyOptions (inv.args.drop 1)
  checkOptions c
  let archive := c.has "a"
  let m : CopyMode :=
    { recursive := archive || c.has "r" || c.has "R",
      follow := c.has "L",
      keepMode := archive || c.has "p" || c.has "preserve",
      noClobber := c.has "n", verbose := c.has "v",
      hardLink := c.has "l", symbolic := c.has "s" }
  for (src, dst) in ← placements c do
    copyPath m treeDepthLimit true src dst

/-! ## ln -/

/-- The options of `ln`. -/
def linkOptions : List OptionDef :=
  [letterOption 's' .none (some "symbolic"), letterOption 'f' .none (some "force"),
   letterOption 'n' .none (some "no-dereference"), letterOption 'v' .none (some "verbose"),
   letterOption 'T' .none (some "no-target-directory"),
   letterOption 't' .required (some "target-directory"), letterOption 'i' .none (some "interactive"),
   letterOption 'r' .none (some "relative"), letterOption 'L' .none (some "logical"),
   letterOption 'P' .none (some "physical"), letterOption 'b', longOnly "backup" .optional]

/-- `ln`: make links. -/
def lnProgram (inv : Invocation) : Prog μ Unit := Tool.run inv do
  let c := readCommandLine linkOptions (inv.args.drop 1)
  checkOptions c
  let symbolic := c.has "s"
  let pairs ← match c.operands, c.last? "t" with
    | [], none => misuse "missing file operand"
    | [a], none => pure [(a, Path.base a)]
    | _, _ => placements c
  for (target, link) in pairs do
    if !symbolic then
      match ← Sys.status (μ := μ) target false with
      | .ok st =>
        if st.kind == .directory then
          complain s!"{mention target}: hard link not allowed for directory"
          continue
      | .error e =>
        complain s!"failed to access {mention target}: {e.sentence}"
        continue
    if c.has "f" then
      match ← Sys.status (μ := μ) link false with
      | .ok st =>
        if st.kind == .directory then
          complain s!"cannot remove {mention link}: Is a directory"
          continue
        if !symbolic && (← samePlace (μ := μ) target link) then
          complain s!"{mention target} and {mention link} are the same file"
          continue
        let _ ← Sys.removeEntry (μ := μ) link
      | .error _ => pure ()
    match ← Sys.makeLink (μ := μ) target link symbolic with
    | .ok () =>
      let arrow := if symbolic then "->" else "=>"
      if c.has "v" then say s!"{mention link} {arrow} {mention target}\n"
    | .error e =>
      let kind := if symbolic then "symbolic link" else "hard link"
      complain s!"failed to create {kind} {mention link}: {e.sentence}"

/-! ## chmod -/

/-- One clause of a symbolic mode: who, and the operations. -/
structure ModeClause where
  who : Nat
  ops : List (Char × List Char)

/-- The bits of the permission letters of a class. -/
def classBits (mode : Nat) (cls : Char) : Nat :=
  let b := match cls with
    | 'u' => (mode / 64) % 8
    | 'g' => (mode / 8) % 8
    | _ => mode % 8
  b * 64 + b * 8 + b

/-- The bits a permission letter stands for. -/
def permissionBits (mode : Nat) (directory : Bool) (c : Char) : Nat :=
  match c with
  | 'r' => 0o444
  | 'w' => 0o222
  | 'x' => 0o111
  | 'X' => if directory || mode &&& 0o111 != 0 then 0o111 else 0
  | 's' => 0o6000
  | 't' => 0o1000
  | 'u' | 'g' | 'o' => classBits mode c
  | _ => 0

/-- The bits of a `who` letter. -/
def whoBits (c : Char) : Nat :=
  match c with
  | 'u' => 0o4700
  | 'g' => 0o2070
  | 'o' => 0o1007
  | _ => 0o7777

/-- Read a symbolic mode: clauses separated by commas. -/
def readModeClauses (text : String) : Option (List ModeClause) :=
  (text.splitOn ",").mapM fun clause =>
    let cs := clause.toList
    let whoLetters := cs.takeWhile fun c => c == 'u' || c == 'g' || c == 'o' || c == 'a'
    let rest := cs.drop whoLetters.length
    let who := whoLetters.foldl (fun acc c => acc ||| whoBits c) 0
    match readOps rest (rest.length + 1) with
    | some ops => if ops.isEmpty then none else some { who, ops }
    | none => none
where
  /-- Operator after operator, each with its letters. -/
  readOps : List Char → Nat → Option (List (Char × List Char))
    | [], _ => some []
    | _, 0 => none
    | op :: rest, fuel + 1 =>
      if op == '+' || op == '-' || op == '=' then
        let perms := rest.takeWhile fun c => "rwxXstugo".toList.contains c
        -- a class copied from is alone after its operator
        let classes := perms.filter fun c => c == 'u' || c == 'g' || c == 'o'
        if !classes.isEmpty && perms.length != 1 then none
        else (readOps (rest.drop perms.length) fuel).map fun more => (op, perms) :: more
      else none

/-- A mode applied to the bits a file has. -/
def applyClauses (clauses : List ModeClause) (mode : Nat) (directory : Bool) : Nat :=
  clauses.foldl (fun mode cl =>
    let (who, mask) := if cl.who == 0 then (0o7777, 0o022) else (cl.who, 0)
    cl.ops.foldl (fun mode (op, perms) =>
      let bits := perms.foldl (fun acc c => acc ||| permissionBits mode directory c) 0
      let affected := who &&& (0o7777 - mask)
      let change := bits &&& affected
      match op with
      | '+' => mode ||| change
      | '-' => mode &&& (0o7777 - change)
      | _ =>
        -- `=` clears the bits of who (the set-id bits of a directory stay)
        let cleared := if directory then affected &&& 0o1777 else affected
        (mode &&& (0o7777 - cleared)) ||| change) mode) mode

/-- A mode as `chmod` reads it: octal digits, or symbolic clauses. -/
inductive ModeChange where
  | octal (bits : Nat)
  | symbolic (clauses : List ModeClause)

/-- Read a mode operand. -/
def readModeChange (text : String) : Option ModeChange :=
  if !text.isEmpty && text.all fun c => '0' ≤ c && c ≤ '7' then
    let v := text.foldl (fun acc c => acc * 8 + (c.toNat - 48)) 0
    if v ≤ 0o7777 then some (.octal v) else none
  else (readModeClauses text).map .symbolic

/-- The permission bits as `ls` shows them, as in `rwxr-xr-x`. -/
def modeLetters (mode : Nat) : String :=
  let bit (b : Nat) (c : Char) : Char := if mode &&& b != 0 then c else '-'
  let special (x : Nat) (s : Nat) (on off : Char) : Char :=
    if mode &&& s != 0 then (if mode &&& x != 0 then on else off) else (if mode &&& x != 0 then 'x' else '-')
  String.ofList [bit 0o400 'r', bit 0o200 'w', special 0o100 0o4000 's' 'S',
    bit 0o40 'r', bit 0o20 'w', special 0o10 0o2000 's' 'S',
    bit 0o4 'r', bit 0o2 'w', special 0o1 0o1000 't' 'T']

/-- Four octal digits of a mode. -/
def octalMode (mode : Nat) : String :=
  let digits := (Nat.toDigits 8 mode)
  String.ofList (List.replicate (4 - min 4 digits.length) '0' ++ digits)

/-- Whether an argument of `chmod` is a mode rather than options. -/
def looksLikeMode (a : String) : Bool :=
  a.startsWith "-" && a.length > 1 && ((a.drop 1).all fun c => "rwxXst".toList.contains c)

/-- Change the mode of one path, and below it with `recursive`. -/
def changeMode (change : ModeChange) (verbose changes recursive quiet : Bool) : Nat → String → Tool μ Unit
  | 0, _ => pure ()
  | fuel + 1, path => do
    match ← Sys.status (μ := μ) path with
    | .error e => if !quiet then complain s!"cannot access {mention path}: {e.sentence}"
    | .ok st =>
      let old := st.mode % 0o10000
      let directory := st.kind == .directory
      let new := match change with
        | .octal bits => if directory then bits ||| (old &&& 0o6000) else bits
        | .symbolic cl => applyClauses cl old directory
      let _ ← Sys.setMode (μ := μ) path new
      if verbose || (changes && new != old) then
        if new != old then
          say s!"mode of {mention path} changed from {octalMode old} ({modeLetters old}) to {octalMode new} ({modeLetters new})\n"
        else say s!"mode of {mention path} retained as {octalMode old} ({modeLetters old})\n"
      if recursive && directory then
        match ← Sys.listDirectory (μ := μ) path with
        | .ok names =>
          for name in names do
            let sub := pathInside path name
            match ← Sys.status (μ := μ) sub false with
            | .ok s => if s.kind != .symlink then changeMode change verbose changes recursive quiet fuel sub
            | .error _ => pure ()
        | .error _ => pure ()

/-- The options of `chmod`. -/
def modeOptions : List OptionDef :=
  [letterOption 'R' .none (some "recursive"), letterOption 'v' .none (some "verbose"),
   letterOption 'c' .none (some "changes"), letterOption 'f' .none (some "silent"),
   longOnly "quiet", longOnly "reference" .required, longOnly "preserve-root", longOnly "no-preserve-root"]

/-- `chmod`: set permission bits. -/
def chmodProgram (inv : Invocation) : Prog μ Unit := Tool.run inv do
  -- a mode such as -x looks like options; it is taken as the mode
  let args := inv.args.drop 1
  let modeArg := args.find? looksLikeMode
  let c := readCommandLine modeOptions (args.filter fun a => !looksLikeMode a)
  checkOptions c
  let (modeText, files) ← match modeArg, c.operands with
    | some m, files => pure (m, files)
    | none, m :: files => pure (m, files)
    | none, [] => misuse "missing operand"
  if files.isEmpty then misuse s!"missing operand after {mention modeText}"
  let change ← match readModeChange modeText with
    | some ch => pure ch
    | none => misuse s!"invalid mode: {mention modeText}"
  let quiet := c.has "f" || c.has "quiet"
  for f in files do
    changeMode change (c.has "v") (c.has "c") (c.has "R") quiet treeDepthLimit f

/-! ## readlink and realpath -/

/-- The options of `readlink`. -/
def readlinkOptions : List OptionDef :=
  [letterOption 'f' .none (some "canonicalize"), letterOption 'e' .none (some "canonicalize-existing"),
   letterOption 'm' .none (some "canonicalize-missing"), letterOption 'n' .none (some "no-newline"),
   letterOption 'q' .none (some "quiet"), letterOption 's' .none (some "silent"),
   letterOption 'v' .none (some "verbose"), letterOption 'z' .none (some "zero")]

/-- `readlink`: what symbolic links hold, or with `-f`, `-e`, `-m` resolved paths. -/
def readlinkProgram (inv : Invocation) : Prog μ Unit := Tool.run inv do
  let c := readCommandLine readlinkOptions (inv.args.drop 1)
  checkOptions c
  if c.operands.isEmpty then misuse "missing operand"
  let ending := if c.has "z" then "\x00" else if c.has "n" && c.operands.length == 1 then "" else "\n"
  let need : Option Existence :=
    if c.has "e" then some .every else if c.has "m" then some .none
    else if c.has "f" then some .allButLast else none
  for path in c.operands do
    let r ← match need with
      | some n => resolvePath (μ := μ) n path
      | none => Sys.readLink (μ := μ) path
    match r with
    | .ok text => say (text ++ ending)
    | .error e =>
      if c.has "v" then complain s!"{path}: {e.sentence}"
      else modify fun s => { s with status := 1 }

/-- The options of `realpath`. -/
def realpathOptions : List OptionDef :=
  [letterOption 'e' .none (some "canonicalize-existing"), letterOption 'm' .none (some "canonicalize-missing"),
   letterOption 'q' .none (some "quiet"), letterOption 's' .none (some "strip"),
   letterOption 'z' .none (some "zero"), letterOption 'L' .none (some "logical"),
   letterOption 'P' .none (some "physical"), longOnly "relative-to" .required, longOnly "relative-base" .required]

/-- `realpath`: paths resolved. -/
def realpathProgram (inv : Invocation) : Prog μ Unit := Tool.run inv do
  let c := readCommandLine realpathOptions (inv.args.drop 1)
  checkOptions c
  if c.operands.isEmpty then misuse "missing operand"
  let need := if c.has "e" then Existence.every else if c.has "m" then .none else .allButLast
  let ending := if c.has "z" then "\x00" else "\n"
  for path in c.operands do
    let r ← if c.has "s" then
        let cwd ← Sys.workingDirectory (μ := μ)
        pure (Except.ok (Path.clean (Path.absolute cwd path)))
      else resolvePath (μ := μ) need path
    match r with
    | .ok text => say (text ++ ending)
    | .error e => if !c.has "q" then complain s!"{path}: {e.sentence}" else modify fun s => { s with status := 1 }

end PseudoTerm.Programs
