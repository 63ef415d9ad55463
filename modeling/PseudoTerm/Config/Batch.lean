import PseudoTerm.Config.Session
import PseudoTerm.Yaml.Decode
import PseudoTerm.Fault

/-!
# Batch configuration files

A batch configuration is a YAML mapping with the number of workers and the list of
sessions.  Only known fields are accepted.  After decoding, the configuration is
checked: fewer than one worker means the default four, at least one session is needed,
no entry may be empty, an unnamed session is called `session-<position>`, names must be
distinct, and every session gets its defaults.

Selecting sessions by name keeps the selected ones in configuration order; a name that
matches no session is an error and leaves the configuration as it was.
-/

namespace PseudoTerm.Config

open PseudoTerm.Yaml

/-- The default number of sessions run at once. -/
def defaultWorkers : Int := 4

/-- A batch of sessions and how many run at once. -/
structure BatchSpec where
  workers : Int := defaultWorkers
  sessions : List SessionSpec := []
  deriving Repr, Inhabited

/-- The shape of a session entry. -/
def sessionShape : Shape :=
  .record "conf.SessionConf"
    [("name", .text), ("command", .text), ("args", .list .text), ("env", .list .text),
     ("clean_env", .bool), ("dir", .text), ("cols", .uint32), ("rows", .uint32),
     ("term", .text), ("output", .text), ("exec_helper", .bool)]

/-- The shape of a configuration file. -/
def batchShape : Shape :=
  .record "conf.Config" [("workers", .int), ("sessions", .list (.optional sessionShape))]

/-- A session specification from its decoded record. -/
def SessionSpec.ofDatum (d : Datum) : SessionSpec :=
  { name := (d.field "name").textD, command := (d.field "command").textD,
    args := (d.field "args").textsD, env := (d.field "env").textsD,
    cleanEnv := (d.field "clean_env").boolD, dir := (d.field "dir").textD,
    cols := (d.field "cols").intD.toNat, rows := (d.field "rows").intD.toNat,
    term := (d.field "term").textD, output := (d.field "output").textD,
    execHelper := (d.field "exec_helper").boolD }

/-- A decoded configuration: the workers and the entries, an empty entry as nothing. -/
structure Decoded where
  workers : Int
  entries : List (Option SessionSpec)

/-- The configuration a decoded record describes. -/
def Decoded.ofDatum (d : Datum) : Decoded :=
  { workers := (d.field "workers").intD,
    entries := match d.field "sessions" with
      | .list items => items.map fun
          | .none => none
          | r => some (SessionSpec.ofDatum r)
      | _ => [] }

/-- The name of the entry at 1-based position `i`: its own, or `session-i` when it has none. -/
def SessionSpec.nameAt (i : Nat) (s : SessionSpec) : String :=
  if s.name.isEmpty then s!"session-{i}" else s.name

/-- Name, check and complete the decoded entries, in order. -/
def completeEntries (d : Defaults) : Nat → List (Option SessionSpec) → List String →
    Except String (List SessionSpec)
  | _, [], _ => .ok []
  | i, none :: _, _ => .error s!"session #{i} is empty"
  | i, some s :: rest, names =>
    let name := s.nameAt i
    if names.contains name then .error s!"duplicate session name {Text.quote name}"
    else do
      let tail ← completeEntries d (i + 1) rest (name :: names)
      pure ({ s with name }.withDefaults d :: tail)

/-- Check a decoded configuration and fill in its defaults. -/
def Decoded.validate (d : Defaults) (c : Decoded) : Except String BatchSpec := do
  let workers := if c.workers < 1 then defaultWorkers else c.workers
  if c.entries.isEmpty then throw "at least one session is required"
  let sessions ← completeEntries d 1 c.entries []
  pure { workers, sessions }

/-- Read a configuration from the characters a file supplies. -/
def BatchSpec.read (d : Defaults) (supply : Yaml.Supply) : Except Fault BatchSpec :=
  let init : Datum := .record [("workers", .int defaultWorkers), ("sessions", .list [])]
  match decodeText supply batchShape init with
  | .error e => .error (.wrap "error while parsing config file" (.text e))
  | .ok datum =>
    match (Decoded.ofDatum datum).validate d with
    | .ok b => .ok b
    | .error e => .error (.text e)

/-- Where a selection stands after some of the sessions: those kept so far, in order, and
the names still wanted. -/
structure Selection where
  kept : List SessionSpec
  wanted : List String

/-- Visit one session: keep it when its name is still wanted, and want that name no more. -/
def Selection.visit (sel : Selection) (s : SessionSpec) : Selection :=
  if s.name ∈ sel.wanted then ⟨sel.kept ++ [s], sel.wanted.filter (· != s.name)⟩ else sel

/-- Keep only the named sessions, in configuration order: the sessions are visited in turn,
and a name still wanted after the last one is an error that names it (the first such name
given stands for whichever one a scan of the wanted set meets first). -/
def BatchSpec.select (b : BatchSpec) (names : List String) : Except Fault BatchSpec :=
  if names.isEmpty then .ok b
  else
    let sel := b.sessions.foldl Selection.visit ⟨[], names⟩
    match sel.wanted with
    | n :: _ => .error (.text s!"unknown session {Text.quote n}")
    | [] => .ok { b with sessions := sel.kept }

/-- The configuration after a selection: the selected one, or the same when it fails. -/
def BatchSpec.afterSelect (b : BatchSpec) (names : List String) : BatchSpec :=
  match b.select names with
  | .ok selected => selected
  | .error _ => b

end PseudoTerm.Config
