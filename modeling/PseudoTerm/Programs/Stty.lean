import PseudoTerm.Programs.Common
import PseudoTerm.Terminal.Modes
import PseudoTerm.Text.Mention
import PseudoTerm.Text.Quantity

/-!
# `stty`: the settings of the input's terminal

The options come first in meaning, wherever they stand: `-a` (`--all`) lists all settings,
`-g` (`--save`) prints them in the form `stty` reads back, `-F DEVICE` (`--file`) works on
another terminal.  Every other argument is a setting; with none, the settings that
differ from the sane ones are listed.  Asking for a listing together with settings is an
error, as is asking for both listings.

Each setting is a mode (`echo`, `-echo`, `cs7`, …), a combination (`raw`, `sane`, …), a
special character and its value (`intr ^C`), `min N` or `time N`, a speed, `ispeed N` or
`ospeed N`, `rows N`, `cols N`, `line N`, the saved form of all settings, or one of the
reports `size` and `speed`.  The window size changes at once; the other settings are
kept and made together at the end, and it is an error when the terminal did not take
all of them.  Listings fill lines up to the width of the output's terminal, else of
`COLUMNS`, else 80 columns.
-/

namespace PseudoTerm.Programs

open PseudoTerm.Machine PseudoTerm.Terminal PseudoTerm.Text

variable {μ : Type}

namespace Stty

/-- The line that follows a misuse. -/
def tryHelp : String := "Try 'stty --help' for more information.\n"

/-- What the options of a command line ask for. -/
structure Request where
  /-- List all settings. -/
  all : Bool := false
  /-- Print the settings in their saved form. -/
  saved : Bool := false
  /-- The terminal to work on, instead of the input. -/
  device : Option String := none
  /-- Two devices were named. -/
  twoDevices : Bool := false
  /-- No settings were given. -/
  noSettings : Bool := true
  /-- The arguments left for the settings, in order. -/
  settings : List String := []
  deriving Repr, Inhabited

/-- The long options, by full name. -/
def longOptions : List String := ["all", "save", "file", "help", "version"]

/-- The long option a name stands for: its full name or a prefix of only one. -/
def longOption (name : String) : Option String :=
  if longOptions.contains name then some name
  else
    match longOptions.filter (name.isPrefixOf ·) with
    | [full] => some full
    | _ => none

/-- Note an argument that the options do not take: it is a setting, and it counts as one
unless it is `drain`. -/
def Request.keep (r : Request) (a : String) : Request :=
  { r with settings := r.settings ++ [a], noSettings := r.noSettings && (a == "drain" || a == "-drain") }

/-- Name the device. -/
def Request.name (r : Request) (d : String) : Request :=
  if r.device.isSome then { r with twoDevices := true } else { r with device := some d }

/-- Read the letters of a cluster of short options, answering the request and the
arguments left; an unknown letter leaves the whole argument as a setting. -/
def shortCluster (whole : String) : List Char → List String → Request → Request × List String
  | [], rest, r => (r, rest)
  | 'a' :: more, rest, r => shortCluster whole more rest { r with all := true }
  | 'g' :: more, rest, r => shortCluster whole more rest { r with saved := true }
  | 'F' :: more, rest, r =>
    if !more.isEmpty then (r.name (String.ofList more), rest)
    else
      match rest with
      | d :: rest' => (r.name d, rest')
      | [] => (r.keep whole, rest)
  | _ :: _, rest, r => (r.keep whole, rest)

/-- Read the command line's options. -/
def readOptions (args : List String) : Request :=
  go args.length args {}
where
  /-- One argument at a time. -/
  go : Nat → List String → Request → Request
    | 0, _, r => r
    | _, [], r => r
    | fuel + 1, a :: rest, r =>
      if a == "--" then { r with settings := r.settings ++ a :: rest }
      else if a.startsWith "--" then
        let body := (a.drop 2).toString
        let (name, value) := match body.splitOn "=" with
          | n :: v :: more => (n, some ("=".intercalate (v :: more)))
          | _ => (body, none)
        match longOption name with
        | some "all" => go fuel rest { r with all := true }
        | some "save" => go fuel rest { r with saved := true }
        | some "file" =>
          match value with
          | some d => go fuel rest (r.name d)
          | none =>
            match rest with
            | d :: rest' => go fuel rest' (r.name d)
            | [] => go fuel rest (r.keep a)
        | _ => go fuel rest (r.keep a)
      else if a.startsWith "-" && a.length > 1 then
        let (r, rest) := shortCluster a (a.toList.drop 1) rest r
        go fuel rest r
      else go fuel rest (r.keep a)

/-- A control word's field code for a speed written as `stty` takes it. -/
def speedCode (s : String) : Option UInt32 :=
  if s == "134.5" then some 4
  else if s == "exta" then some 14
  else if s == "extb" then some 15
  else
    match s.toNat? with
    | some n => if s.all Char.isDigit then (speedTable.find? (·.1 == n)).map (·.2) else none
    | none => none

/-- Why a number argument was refused, as the words after its mention. -/
def numberTrouble (n : Nat) (overflow : Bool) : String :=
  if overflow || n > 1073741823 then ": Value too large for defined data type"
  else ": Numerical result out of range"

/-- A number argument of at most `limit`: decimal, `0x` hexadecimal or `0` octal, with an
optional `b` (512) or `B` (1024) suffix; or the message refusing it. -/
def integerArg (s : String) (limit : Nat) : Except String Nat :=
  match readQuantity s ['b', 'B'] false true with
  | .value n false =>
    if n ≤ limit then .ok n
    else .error s!"stty: invalid integer argument: {mention s}{numberTrouble n false}\n"
  | .value n true => .error s!"stty: invalid integer argument: {mention s}{numberTrouble n true}\n"
  | _ => .error s!"stty: invalid integer argument: {mention s}\n"

/-- The value of a special character: a character alone, `^-` or `undef` for none, `^?`
for delete, `^X` for a control character, else a number. -/
def controlValue (v : String) : Except String UInt8 :=
  let bs := v.toUTF8.toList
  match bs with
  | [] => .ok 0
  | [b] => .ok b
  | _ =>
    if v == "^-" || v == "undef" then .ok 0
    else
      match bs with
      | 94 :: 63 :: _ => .ok 127
      | 94 :: b :: _ => .ok (b &&& ~~~0x60)
      | _ => (integerArg v 255).map Nat.toUInt8

/-- What the settings arguments asked for: the settings to make, whether any was given,
and whether a speed was set. -/
structure Outcome where
  settings : Settings
  changed : Bool := false

end Stty

open Stty in
/-- `stty`. -/
def sttyProgram (inv : Invocation) : Prog μ Unit := do
  let r := readOptions (inv.args.drop 1)
  if r.twoDevices then die "stty: only one device may be specified\n" 1
  if r.all && r.saved then
    die "stty: the options for verbose and stty-readable output styles are\nmutually exclusive\n" 1
  if !r.noSettings && (r.all || r.saved) then
    die "stty: when specifying an output style, modes may not be set\n" 1
  let deviceName := r.device.getD "standard input"
  if let some d := r.device then
    match ← Sys.openPath (μ := μ) d { nonBlocking := true } with
    | .ok fd =>
      if fd != 0 then
        let _ ← Sys.duplicateTo (μ := μ) fd 0
        let _ ← Sys.close (μ := μ) fd
    | .error e => die s!"stty: {mentionFile d}: {e.sentence}\n" 1
  let failed {α : Type} (e : Errno) : Prog μ α := die s!"stty: {mentionFile deviceName}: {e.sentence}\n" 1
  let settings ← match ← Sys.settingsOf (μ := μ) 0 with
    | .ok s => pure s
    | .error e => failed e
  if r.all || r.saved || r.noSettings then
    let width ← outputWidth inv.env
    if r.saved then Sys.print (μ := μ) 1 (savedForm settings ++ "\n")
    else if r.all then
      let window ← match ← Sys.windowOf (μ := μ) 0 with
        | .ok w => pure (some (w.rows, w.cols))
        | .error e => if e == Errno.einval then pure none else failed e
      Sys.print (μ := μ) 1 (listAll settings window width)
    else Sys.print (μ := μ) 1 (listChanged settings width)
    Sys.exit 0
  let misuse {α : Type} (msg : String) : Prog μ α := die (msg ++ tryHelp) 1
  let needValue (a : String) (rest : List String) : Prog μ (String × List String) :=
    match rest with
    | v :: more => pure (v, more)
    | [] => misuse s!"stty: missing argument to {mention a}\n"
  let number (v : String) (limit : Nat) : Prog μ Nat :=
    match integerArg v limit with
    | .ok n => pure n
    | .error msg => die msg 1
  let resize (rows cols : Option Nat) : Prog μ Unit := do
    let w ← match ← Sys.windowOf (μ := μ) 0 with
      | .ok w => pure w
      | .error e => if e == Errno.einval then pure {} else failed e
    let w := match rows with
      | some n => { w with rows := n % 65536 }
      | none => w
    let w := match cols with
      | some n => { w with cols := n % 65536 }
      | none => w
    match ← Sys.setWindow (μ := μ) 0 w with
    | .ok () => pure ()
    | .error e => failed e
  let rec go : Nat → List String → Outcome → Prog μ Outcome
    | 0, _, o => pure o
    | _, [], o => pure o
    | fuel + 1, a :: rest, o => do
      let (name, off) := if a.startsWith "-" then ((a.drop 1).toString, true) else (a, false)
      let s := o.settings
      if name == "drain" then go fuel rest o
      else if let some m := modeTable.find? (·.name == name) then
        if off && !m.reversible then misuse s!"stty: invalid argument {mention a}\n"
        else go fuel rest { o with settings := m.apply s off, changed := true }
      else if let some (_, reversible) := combinationModes.find? (·.1 == name) then
        if off && !reversible then misuse s!"stty: invalid argument {mention a}\n"
        else go fuel rest { o with settings := s.combine name off, changed := true }
      else if off then misuse s!"stty: invalid argument {mention a}\n"
      else if let some (_, slot, _) := controlTable.find? (·.1 == name) then
        let (v, rest) ← needValue a rest
        let c ← if name == "min" || name == "time" then
            (fun n => n.toUInt8) <$> number v 255
          else
            match controlValue v with
            | .ok c => pure c
            | .error msg => die msg 1
        go fuel rest { o with settings := { s with controls := s.controls.set slot c }, changed := true }
      else if name == "ispeed" || name == "ospeed" then
        let (v, rest) ← needValue a rest
        match speedCode v with
        | some code =>
          let s := if name == "ispeed" && code == 0 then s else s.withSpeed code
          go fuel rest { o with settings := s, changed := true }
        | none => misuse s!"stty: invalid {name} {mention v}\n"
      else if name == "rows" then
        let (v, rest) ← needValue a rest
        resize (some (← number v 2147483647)) none
        go fuel rest o
      else if name == "cols" || name == "columns" then
        let (v, rest) ← needValue a rest
        resize none (some (← number v 2147483647))
        go fuel rest o
      else if name == "size" then
        match ← Sys.windowOf (μ := μ) 0 with
        | .ok w => Sys.print (μ := μ) 1 s!"{w.rows} {w.cols}\n"
        | .error e =>
          if e == Errno.einval then die s!"stty: {mentionFile deviceName}: no size information for this device\n" 1
          else failed e
        go fuel rest o
      else if name == "line" then
        let (v, rest) ← needValue a rest
        let _ ← number v quantityMax
        go fuel rest { o with changed := true }
      else if name == "speed" then
        Sys.print (μ := μ) 1 s!"{s.speed}\n"
        go fuel rest o
      else if let some code := speedCode name then
        go fuel rest { o with settings := s.withSpeed code, changed := true }
      else
        match readSavedForm name with
        | some saved => go fuel rest { o with settings := saved, changed := true }
        | none => misuse s!"stty: invalid argument {mention a}\n"
  let o ← go (r.settings.length + 1) r.settings { settings }
  if o.changed then
    match ← Sys.setSettings (μ := μ) 0 o.settings with
    | .error e => failed e
    | .ok () =>
      match ← Sys.settingsOf (μ := μ) 0 with
      | .error e => failed e
      | .ok now =>
        if now != o.settings then
          die s!"stty: {mentionFile deviceName}: unable to perform all requested operations\n" 1
  Sys.exit 0

end PseudoTerm.Programs
