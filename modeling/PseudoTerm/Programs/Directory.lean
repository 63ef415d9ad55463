import PseudoTerm.Programs.Tool
import PseudoTerm.Programs.Sorting
import PseudoTerm.Programs.Common
import PseudoTerm.Text.Quantity

/-!
# Listing directories: `ls`

`ls` lists the names its operands stand for (the working directory when there is none):
first the operands that are not directories, then the names in each directory, under a
header `path:` when there is more than one thing to list, with a blank line between
parts.  With `-R` it goes down into every directory it lists, depth first, in the order
of the listing; the names `.` and `..` are never entered.

Names are sorted by their bytes (`-S` by size, largest first, `-X` by extension, `-v`
as versions, `-U` not at all; `-r` turns the order round).  Names starting with a dot are
left out unless `-a` (which adds `.` and `..`) or `-A` is given.

On a terminal the names stand in columns filling the width of the window: the most
columns whose widths (each the longest name in it plus two, the last without the two)
add up to less than the width; each column is reached with tabs to the stops eight
columns apart and spaces after them.  Names a shell would need quoted are quoted, and
when one name of a listing is, the others get a blank in front of them so that they
line up.  Elsewhere the names stand one a line, as they are.
-/

namespace PseudoTerm.Programs

open PseudoTerm.Machine PseudoTerm.Text Tool

variable {μ : Type}

namespace Directory

/-- How the names of a listing are laid out. -/
inductive Layout where
  /-- One name a line. -/
  | single
  /-- In columns, down each column first. -/
  | columns
  /-- In columns, across each row first. -/
  | across
  /-- On lines, separated by commas. -/
  | commas
  deriving DecidableEq, Repr, Inhabited

/-- The order of a listing. -/
inductive Order where
  | name
  | size
  | extension
  | version
  | unsorted
  deriving DecidableEq, Repr, Inhabited

/-- How names are written. -/
inductive Quoting where
  /-- As they are. -/
  | literal
  /-- As they are, with a question mark for each byte a terminal cannot show. -/
  | marked
  /-- As a shell would need them. -/
  | shell
  /-- Between double quotes, with backslash escapes. -/
  | quoted
  /-- With backslash escapes only. -/
  | escaped
  deriving DecidableEq, Repr, Inhabited

/-- Which names are left out. -/
inductive Hidden where
  /-- Those that start with a dot. -/
  | dotted
  /-- Only `.` and `..`. -/
  | dots
  /-- None; `.` and `..` are listed too. -/
  | nothing
  deriving DecidableEq, Repr, Inhabited

/-- What mark follows a name. -/
inductive Marks where
  | none
  /-- A slash after a directory. -/
  | slash
  /-- The kind of file: `/`, `@`, `|`, or `*` for a program. -/
  | kind
  deriving DecidableEq, Repr, Inhabited

/-- What `ls` was asked. -/
structure Request where
  layout : Layout
  order : Order := .name
  reverse : Bool := false
  hidden : Hidden := .dotted
  itself : Bool := false
  recursive : Bool := false
  marks : Marks := .none
  quoting : Quoting
  width : Option Nat := none
  tabSize : Option Nat := none
  deriving Repr, Inhabited

/-- A name to list, with what is known of its file. -/
structure Entry where
  name : String
  status : Option FileStatus := none
  deriving Repr, Inhabited

/-- Whether an entry is a directory. -/
def Entry.isDirectory (e : Entry) : Bool := e.status.map (·.kind == .directory) |>.getD false

/-- The bytes of a name as escapes; `inQuotes` also escapes the double quote, else the
blank. -/
def escapeName (s : String) (inQuotes : Bool) : String :=
  String.join (s.toUTF8.toList.map fun b =>
    if b == 92 then "\\\\"
    else if b == 34 && inQuotes then "\\\""
    else if b == 32 && !inQuotes then "\\ "
    else if bytePrints b then (Char.ofNat b.toNat).toString
    else match escapeLetter b with
      | some c => "\\" ++ c.toString
      | none => "\\" ++ octalByte b)

/-- A name as a quoting writes it. -/
def Quoting.write (q : Quoting) (s : String) : String :=
  match q with
  | .literal => s
  | .marked => String.ofList (s.toUTF8.toList.map fun b => if bytePrints b then Char.ofNat b.toNat else '?')
  | .shell => mentionFile s
  | .quoted => "\"" ++ escapeName s true ++ "\""
  | .escaped => escapeName s false

/-- The mark after an entry. -/
def Marks.after (m : Marks) (e : Entry) : String :=
  match m, e.status with
  | .none, _ => ""
  | _, Option.none => ""
  | .slash, some st => if st.kind == .directory then "/" else ""
  | .kind, some st =>
    match st.kind with
    | .directory => "/"
    | .symlink => "@"
    | .pipe => "|"
    | .regular => if st.mode &&& 0o111 != 0 then "*" else ""
    | .characterDevice => ""

/-- The extension of a name: from its last dot, or nothing. -/
def nameExtension (s : String) : String :=
  match (s.splitOn ".") with
  | [_] => ""
  | parts => "." ++ parts.getLast!

/-- Whether one entry comes before another in an order. -/
def Order.before (o : Order) (a b : Entry) : Bool :=
  let byName := compare a.name b.name != .gt
  match o with
  | .size =>
    let sa := a.status.map (·.size) |>.getD 0
    let sb := b.status.map (·.size) |>.getD 0
    if sa != sb then sa > sb else byName
  | .extension =>
    let ea := nameExtension a.name
    let eb := nameExtension b.name
    if ea != eb then compare ea eb == .lt else byName
  | .version =>
    let v := Sorting.versionOrder a.name.toUTF8.toList b.name.toUTF8.toList
    if v != 0 then v < 0 else byName
  | _ => byName

/-- Entries in the order of a request. -/
def Request.arrange (r : Request) (es : List Entry) : List Entry :=
  if r.order == .unsorted then es
  else
    let sorted := es.mergeSort r.order.before
    if r.reverse then sorted.reverse else sorted

/-- Whether a name is listed. -/
def Hidden.shows (h : Hidden) (name : String) : Bool :=
  match h with
  | .nothing => true
  | .dots => name != "." && name != ".."
  | .dotted => !name.startsWith "."

/-- A directory's path joined with a name in it. -/
def join (dir name : String) : String :=
  if dir.endsWith "/" then dir ++ name else dir ++ "/" ++ name

/-- Reach column `target` from column `start` with tabs to the stops `tab` columns apart
(none when `tab` is zero) and blanks. -/
def indent (tab start target : Nat) : String :=
  go (target - start) start ""
where
  /-- One tab or blank at a time. -/
  go : Nat → Nat → String → String
    | 0, _, out => out
    | fuel + 1, col, out =>
      if target ≤ col then out
      else if tab != 0 && target / tab > (col + 1) / tab then go fuel (col + tab - col % tab) (out.push '\t')
      else go fuel (col + 1) (out.push ' ')

/-- The widths of the columns when names of these widths stand in `cols` columns: each the
widest name in it plus two, the last without the two, and three at the least. -/
def columnWidths (widths : List Nat) (cols : Nat) (downFirst : Bool) : Array Nat :=
  let rows := (widths.length + cols - 1) / cols
  widths.zipIdx.foldl (fun acc (w, i) =>
    let col := if downFirst then i / rows else i % cols
    let need := if col + 1 == cols then w else w + 2
    if col < acc.size && acc[col]! < need then acc.set! col need else acc) (Array.replicate cols 3)

/-- The number of columns for names of these widths in a line of `line` columns: the most,
up to one a name and one every three columns, whose widths add up to less than the line. -/
def columnCount (widths : List Nat) (line : Nat) (downFirst : Bool) : Nat :=
  let n := widths.length
  let most := line / 3 + (if line % 3 != 0 then 1 else 0)
  let most := if 0 < most && most < n then most else n
  let fits (cols : Nat) : Bool := (columnWidths widths cols downFirst).foldl (· + ·) 0 < line
  ((List.range most).reverse.map (· + 1)).find? fits |>.getD 1

/-- Names with their widths in columns, down each column first. -/
def downColumns (tab line : Nat) (items : List (String × Nat)) : String :=
  let n := items.length
  if n == 0 then "" else
  let cols := columnCount (items.map (·.2)) line true
  let widths := columnWidths (items.map (·.2)) cols true
  let rows := n / cols + (if n % cols != 0 then 1 else 0)
  let arr := items.toArray
  String.join ((List.range rows).map fun row =>
    let idxs := (List.range cols).map (fun c => row + c * rows) |>.filter (· < n)
    let (text, _) := idxs.zipIdx.foldl (fun (acc : String × Nat) (i, c) =>
      let (text, pos) := acc
      let (name, w) := arr[i]!
      if i + rows < n then
        (text ++ name ++ indent tab (pos + w) (pos + widths[c]!), pos + widths[c]!)
      else (text ++ name, pos)) ("", 0)
    text ++ "\n")

/-- Names with their widths in columns, across each row first. -/
def acrossRows (tab line : Nat) (items : List (String × Nat)) : String :=
  if items.isEmpty then "" else
  let cols := columnCount (items.map (·.2)) line false
  let widths := columnWidths (items.map (·.2)) cols false
  let (text, _) := items.zipIdx.foldl (fun (acc : String × Nat) ((name, w), i) =>
    let (text, pos) := acc
    let col := i % cols
    let text := text ++ name
    if i + 1 == items.length then (text, pos)
    else if (i + 1) % cols == 0 then (text ++ "\n", 0)
    else (text ++ indent tab (pos + w) (pos + widths[col]!), pos + widths[col]!)) ("", 0)
  text ++ "\n"

/-- Names with their widths separated by `sep` and a blank, a line broken before a name
that would reach the end of the line (never, for a line of width zero). -/
def separated (sep : String) (line : Nat) (items : List (String × Nat)) : String :=
  let (text, _) := items.zipIdx.foldl (fun (acc : String × Nat) ((name, w), i) =>
    let (text, pos) := acc
    if i == 0 then (text ++ name, w)
    else if line == 0 || pos + w + 2 < line then (text ++ sep ++ " " ++ name, pos + 2 + w)
    else (text ++ sep ++ "\n" ++ name, w)) ("", 0)
  text ++ "\n"

/-- The text of a listing. -/
def Request.render (r : Request) (line : Nat) (es : List Entry) : String :=
  if es.isEmpty then "" else
  let written := es.map fun e => (r.quoting.write e.name, r.marks.after e)
  -- when a name is quoted, the others get a blank in front of them
  let aligned := r.quoting == .shell && (r.layout == .columns || r.layout == .across) && line != 0 &&
    (es.zip written).any fun (e, (q, _)) => q != e.name
  let items := (es.zip written).map fun (e, (q, mark)) =>
    let pad := if aligned && q == e.name then " " else ""
    let text := pad ++ q ++ mark
    (text, text.length)
  let tab := r.tabSize.getD 8
  match r.layout with
  | .single => String.join (items.map (·.1 ++ "\n"))
  | .commas => separated "," line items
  | .columns => if line == 0 then separated " " 0 items else downColumns tab line items
  | .across => if line == 0 then separated " " 0 items else acrossRows tab line items

/-- The options of `ls`. -/
def options : List OptionDef :=
  [letterOption 'a' .none (some "all"), letterOption 'A' .none (some "almost-all"),
   letterOption '1', letterOption 'C', letterOption 'x', letterOption 'm', letterOption 'l',
   letterOption 'g', letterOption 'o', letterOption 'n' .none (some "numeric-uid-gid"),
   letterOption 'd' .none (some "directory"), letterOption 'R' .none (some "recursive"),
   letterOption 'r' .none (some "reverse"), letterOption 'F' .none (some "classify"),
   letterOption 'p', letterOption 'S', letterOption 't', letterOption 'U', letterOption 'f',
   letterOption 'v', letterOption 'X', letterOption 'c', letterOption 'u',
   letterOption 'w' .required (some "width"), letterOption 'T' .required (some "tabsize"),
   letterOption 'Q' .none (some "quote-name"), letterOption 'N' .none (some "literal"),
   letterOption 'b' .none (some "escape"), letterOption 'q' .none (some "hide-control-chars"),
   letterOption 'h' .none (some "human-readable"), letterOption 'i' .none (some "inode"),
   letterOption 's' .none (some "size"), letterOption 'G' .none (some "no-group"),
   letterOption 'L' .none (some "dereference"), letterOption 'H',
   longOnly "color" .optional, longOnly "group-directories-first",
   longOnly "format" .required, longOnly "sort" .required, longOnly "quoting-style" .required,
   longOnly "indicator-style" .required]

/-- A count of columns given as an option's value. -/
def columnsValue (v : String) : Option Nat :=
  match readQuantity v [] false true with
  | .value n false => some n
  | _ => none

/-- The request of a command line, from what suits the output: columns and quoting on a
terminal.  The last of options that contradict each other wins. -/
def Request.ofCommandLine (c : CommandLine) (terminal : Bool) : Except String Request :=
  let base : Request :=
    { layout := if terminal then .columns else .single, quoting := if terminal then .shell else .literal }
  c.options.foldlM (fun (r : Request) o =>
    let v := o.value.getD ""
    match o.key with
    | "a" => pure { r with hidden := .nothing }
    | "A" => pure { r with hidden := .dots }
    | "f" => pure { r with hidden := .nothing, order := .unsorted }
    | "1" | "l" | "g" | "o" | "n" => pure { r with layout := .single }
    | "C" => pure { r with layout := .columns }
    | "x" => pure { r with layout := .across }
    | "m" => pure { r with layout := .commas }
    | "d" => pure { r with itself := true }
    | "R" => pure { r with recursive := true }
    | "r" => pure { r with reverse := true }
    | "F" => pure { r with marks := .kind }
    | "p" => pure { r with marks := .slash }
    | "S" => pure { r with order := .size }
    | "U" => pure { r with order := .unsorted }
    | "v" => pure { r with order := .version }
    | "X" => pure { r with order := .extension }
    | "t" => pure { r with order := .name }
    | "Q" => pure { r with quoting := .quoted }
    | "N" => pure { r with quoting := if terminal then .marked else .literal }
    | "b" => pure { r with quoting := .escaped }
    | "q" => pure { r with quoting := .marked }
    | "w" =>
      match columnsValue v with
      | some n => pure { r with width := some n }
      | none => throw s!"invalid line width: {mention v}"
    | "T" =>
      match columnsValue v with
      | some n => pure { r with tabSize := some n }
      | none => throw s!"invalid tab size: {mention v}"
    | "format" =>
      match v with
      | "verbose" | "long" | "single-column" => pure { r with layout := .single }
      | "vertical" => pure { r with layout := .columns }
      | "horizontal" | "across" => pure { r with layout := .across }
      | "commas" => pure { r with layout := .commas }
      | _ => throw s!"invalid argument {mention v} for '--format'"
    | "sort" =>
      match v with
      | "none" => pure { r with order := .unsorted }
      | "size" => pure { r with order := .size }
      | "extension" => pure { r with order := .extension }
      | "version" => pure { r with order := .version }
      | "name" | "time" | "width" => pure { r with order := .name }
      | _ => throw s!"invalid argument {mention v} for '--sort'"
    | "quoting-style" =>
      match v with
      | "literal" => pure { r with quoting := if terminal then .marked else .literal }
      | "shell" | "shell-escape" | "shell-always" | "shell-escape-always" => pure { r with quoting := .shell }
      | "c" => pure { r with quoting := .quoted }
      | "escape" => pure { r with quoting := .escaped }
      | _ => throw s!"invalid argument {mention v} for '--quoting-style'"
    | "indicator-style" =>
      match v with
      | "none" => pure { r with marks := .none }
      | "slash" => pure { r with marks := .slash }
      | "classify" | "file-type" => pure { r with marks := .kind }
      | _ => throw s!"invalid argument {mention v} for '--indicator-style'"
    | _ => pure r) base

/-- A directory still to list: its path and whether it was an operand. -/
structure Pending where
  path : String
  operand : Bool
  deriving Repr, Inhabited

/-- The most directories one run lists. -/
def directoryLimit : Nat := 100000

end Directory

open Directory in
/-- The entries of a directory, with their files' status. -/
def Directory.entriesOf (r : Request) (path : String) (names : List String) : Tool μ (List Entry) := do
  let names := if r.hidden == .nothing then "." :: ".." :: names else names
  let names := names.filter r.hidden.shows
  let mut out := #[]
  for n in names do
    let st ← Sys.status (μ := μ) (join path n) false
    out := out.push { name := n, status := st.toOption }
  pure out.toList

open Directory in
/-- `ls`. -/
def lsProgram (inv : Invocation) : Prog μ Unit := Tool.run inv do
  let c := readCommandLine options (inv.args.drop 1)
  checkOptions c 2
  let terminal := (← get).lineOutput
  let r ← match Request.ofCommandLine c terminal with
    | .ok r => pure r
    | .error msg => misuse msg 2
  let line ← match r.width with
    | some w => pure w
    | none => monadLift (outputWidth (μ := μ) inv.env)
  let operands := if c.operands.isEmpty then ["."] else c.operands
  let mut found : List Entry := []
  for p in operands do
    match ← Sys.status (μ := μ) p true with
    | .error e => complain s!"cannot access {mentionFile p true}: {e.sentence}" 2
    | .ok st => found := found ++ [{ name := p, status := some st }]
  let given := r.arrange found
  let files := if r.itself then given else given.filter (!·.isDirectory)
  let dirs := if r.itself then [] else given.filter (·.isDirectory)
  say (r.render line files)
  if !files.isEmpty && !dirs.isEmpty then say "\n"
  let headers := r.recursive || !(files.isEmpty && operands.length ≤ 1 && dirs.length == 1)
  let mut stack : List Pending := dirs.map fun d => { path := d.name, operand := true }
  let mut first := true
  for _ in [0:directoryLimit] do
    match stack with
    | [] => break
    | d :: rest =>
      stack := rest
      match ← Sys.listDirectory (μ := μ) d.path with
      | .error e =>
        complain s!"cannot open directory {mentionFile d.path true}: {e.sentence}" (if d.operand then 2 else 1)
      | .ok names =>
        if headers then
          if !first then say "\n"
          first := false
          say (r.quoting.write d.path ++ ":\n")
        let entries := r.arrange (← Directory.entriesOf r d.path names)
        if r.recursive then
          let below := entries.filter fun e => e.isDirectory && e.name != "." && e.name != ".."
          stack := below.map (fun e => { path := join d.path e.name, operand := false }) ++ stack
        say (r.render line entries)

end PseudoTerm.Programs
