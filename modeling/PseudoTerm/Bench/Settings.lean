import PseudoTerm.Bench.Stage
import PseudoTerm.Bench.Request
import PseudoTerm.Bench.Answer
import PseudoTerm.Config.Batch
import PseudoTerm.Config.Flags
import PseudoTerm.Config.File
import PseudoTerm.Yaml.Reader
import PseudoTerm.Batch.Report

/-!
# Bench requests about configuration

Session specifications with their defaults, command-line session flags, configuration
files, completion of session names and batch reports.

The value of `$SHELL` is the driver's (`/bin/sh`) unless a request gives `shell`; an
empty `shell` unsets it, so the user's login shell is used.
-/

namespace PseudoTerm.Bench

open PseudoTerm.Config

/-- The environment the driver runs with. -/
def driverEnvironment : List String :=
  ["PATH=/usr/local/sbin:/usr/local/bin:/usr/sbin:/usr/bin:/sbin:/bin", "SHELL=/bin/sh"]

/-- A complete answer carrying a result. -/
def resultValue (v : Value) : Value := .obj [("result", v)]

/-- A path under the user's home shown with the home as `<HOME>`. -/
def maskHome (s : String) : String :=
  let home := Account.administrator.home
  if s.startsWith home then "<HOME>" ++ String.ofList (s.toList.drop home.length) else s

/-- Where a request's defaults come from. -/
def defaultsOf (req : Value) : Decode Defaults := do
  match opt req "shell" with
  | some v =>
    let s ← textOf "shell" v
    pure { shellVariable := if s.isEmpty then none else some s }
  | none => pure {}

/-- A session specification from its object. -/
def sessionOf (v : Value) : Decode SessionSpec := do
  pure { name := ← textFieldD v "name", command := ← textFieldD v "command",
         args := ← textsFieldD v "args", env := ← textsFieldD v "env",
         cleanEnv := ← boolFieldD v "clean_env", dir := ← textFieldD v "dir",
         cols := ← uint32FieldD v "cols", rows := ← uint32FieldD v "rows",
         term := ← textFieldD v "term", output := ← textFieldD v "output",
         execHelper := ← boolFieldD v "exec_helper" }

/-- A session specification as an answer object. -/
def sessionValue (s : SessionSpec) : Value :=
  .obj [("args", Value.strs s.args), ("clean_env", .bool s.cleanEnv), ("cols", .nat s.cols),
    ("command", .str s.command), ("dir", .str (maskHome s.dir)), ("env", Value.strs s.env),
    ("exec_helper", .bool s.execHelper), ("name", .str s.name),
    ("output", .str (maskHome s.output)), ("rows", .nat s.rows), ("term", .str s.term)]

/-- A batch configuration as an answer object. -/
def batchValue (b : BatchSpec) : Value :=
  .obj [("sessions", .arr (b.sessions.map sessionValue)), ("workers", .int b.workers)]

/-- Load a configuration file of a bench machine. -/
def loadHostConfig (d : Defaults) (path : String) : Except Fault BatchSpec :=
  match (runBench (benchWorld []) (readBatchFile (μ := Control.Memory) d path)).1 with
  | some loaded => loaded
  | none => .error (.text "the configuration file could not be read")

/-- Load a configuration from the bytes of a file. -/
def loadConfigText (d : Defaults) (bytes : List UInt8) : Except Fault BatchSpec :=
  BatchSpec.ofBytes d bytes

/-- The answer to a loaded configuration, selecting sessions if the request asks. -/
def loadedAnswer (req : Value) (loaded : Except Fault BatchSpec) : Decode Value := do
  match loaded with
  | .error f => pure (faultValue {} f)
  | .ok b =>
    match opt req "select" with
    | none => pure (resultValue (.obj [("config", batchValue b)]))
    | some v =>
      let names ← textsOf "select" v
      let err := match b.select names with
        | .ok _ => Value.null
        | .error f => faultValue {} f
      pure (resultValue (.obj [("after_select", batchValue (b.afterSelect names)),
        ("config", batchValue b),
        ("select_error", err)]))

/-- One outcome of a report request. -/
def outcomeOf (v : Value) : Decode Batch.Outcome := do
  let fault ← match opt v "err" with
    | some spec => some <$> faultOf "err" spec 64
    | none => pure none
  pure { name := ← textFieldD v "name", exitCode := ← int64FieldD v "exit_code" 0,
         bytes := ← int64FieldD v "bytes" 0, duration := ← int64FieldD v "duration_ns" 0,
         fault }

/-- The session names a completion offers, with cobra's directive. -/
def completeSessions (loaded : Option (Except Fault BatchSpec)) (typed : String) : Value :=
  match loaded with
  | none => .obj [("directive", .nat 4), ("names", .arr [])]
  | some (.error _) => .obj [("directive", .nat 1), ("names", .arr [])]
  | some (.ok b) =>
    let names := (b.sessions.map (·.name)).filter (·.startsWith typed)
    .obj [("directive", .nat 4), ("names", Value.strs names)]

/-- The complete answer of a configuration request, when its operation is one of them. -/
def settingsAnswer (op : String) (req : Value) : Option (Decode Value) :=
  match op with
  | "new_session_conf" => some do
    let d ← defaultsOf req
    let s := SessionSpec.forCommand d (← textFieldD req "command") (← textsFieldD req "args")
    pure (resultValue (sessionValue s))
  | "apply_defaults" => some do
    let d ← defaultsOf req
    let s ← sessionOf (← need req "conf")
    pure (resultValue (sessionValue (s.withDefaults d)))
  | "build_env" => some do
    let s ← sessionOf (← need req "conf")
    let raw ← boolFieldD req "raw"
    let s := if s.term.isEmpty && !raw then { s with term := defaultTerm } else s
    pure (resultValue (Value.strs (s.environment driverEnvironment)))
  | "session_flags" => some do
    let d ← defaultsOf req
    match parseFlags (← textsFieldD req "argv") with
    | .ok v => pure (resultValue (sessionValue (sessionOfFlags d v)))
    | .error message => pure (faultValue {} (.text message))
  | "load_config" => some do
    let d ← defaultsOf req
    loadedAnswer req (loadConfigText d (← bytesField req "yaml"))
  | "load_config_path" => some do
    loadedAnswer req (loadHostConfig {} (← textField req "path"))
  | "complete_sessions" => some do
    let typed ← textFieldD req "to_complete"
    let loaded ← match opt req "yaml", opt req "path" with
      | some y, _ => do pure (some (loadConfigText {} (← bytesOf "yaml" y)))
      | none, some p => do
        let path ← textOf "path" p
        pure (if path.isEmpty then none else some (loadHostConfig {} path))
      | none, none => pure none
    pure (resultValue (completeSessions loaded typed))
  | "complete_config" => some do
    pure (resultValue (.obj [("directive", .nat 8), ("names", Value.strs ["yaml", "yml"])]))
  | "report" => some do
    let items ← match ← need req "results" with
      | .arr xs => pure xs
      | _ => throw "field \"results\" must be a list"
    let outcomes ← items.mapM outcomeOf
    let (text, failed) := Batch.report outcomes
    pure (resultValue (.obj [("failed", .nat failed), ("text", .str text)]))
  | _ => none

end PseudoTerm.Bench
