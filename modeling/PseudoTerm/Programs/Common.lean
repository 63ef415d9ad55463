import PseudoTerm.Machine.World
import PseudoTerm.Machine.Interface
import PseudoTerm.Text.Quantity

/-!
# What the standard programs share

Messages on the error output and ending with a status, copying a descriptor's bytes
to the output a chunk at a time, finding a program on the search path and starting
it in place of the caller, and reading the options of a command line.
-/

namespace PseudoTerm.Programs

open PseudoTerm.Machine PseudoTerm.Text

variable {μ : Type}

/-- Write a message on the error output and end with a status. -/
def die {α : Type} (msg : String) (code : Nat) : Prog μ α := do
  Sys.print (μ := μ) 2 msg
  Sys.exit code

/-- The largest chunk a program reads at once. -/
def chunkSize : Nat := 131072

/-- Copy descriptor `fd` to the output until its end, changing each chunk by
`transform`; answers the error that stopped it, and whether it came from reading. -/
def pump (fd : Nat) (transform : ByteArray → ByteArray) : Nat → Prog μ (Option (Errno × Bool))
  | 0 => pure none
  | fuel + 1 => do
    match ← Sys.read (μ := μ) fd chunkSize with
    | .error e => pure (some (e, true))
    | .ok chunk =>
      if chunk.size == 0 then pure none
      else
        let (_, err) ← Sys.writeAll (μ := μ) 1 (transform chunk)
        match err with
        | some e => pure (some (e, false))
        | none => pump fd transform fuel

/-- How many chunks a program copies at most. -/
def pumpFuel : Nat := 10000000

/-- The value of a variable in an environment list. -/
def lookupEnv (env : List String) (name : String) : Option String :=
  env.findSome? fun e =>
    if e.startsWith (name ++ "=") then some (e.drop (name.length + 1)).toString else none

/-- The directories of the search path of an environment. -/
def searchPath (env : List String) : List String :=
  ((lookupEnv env "PATH").getD "/usr/local/bin:/usr/bin:/bin").splitOn ":"

/-- Start a program in place of the caller, searching the path for a name without a
slash; answers the error when it could not be started (the most telling one found). -/
def execSearching (name : String) (args env : List String) : Prog μ Errno := do
  if name.contains '/' then Sys.exec (μ := μ) name args env
  else
    let mut err := Errno.enoent
    for dir in searchPath env do
      let path := if dir.isEmpty then name else dir ++ "/" ++ name
      let e ← Sys.exec (μ := μ) path args env
      if e != Errno.enoent && e != Errno.enotdir then err := e
    pure err

/-- Split a command line into single-letter options and operands: options come first,
`--` ends them, and `-` alone is an operand. -/
def splitOptions (args : List String) : List Char × List String :=
  let rec go : List String → List Char → List Char × List String
    | [], acc => (acc, [])
    | "--" :: rest, acc => (acc, rest)
    | a :: rest, acc =>
      if a.startsWith "-" && a.length > 1 && !a.startsWith "--" then go rest (acc ++ a.toList.drop 1)
      else (acc, a :: rest)
  go args []

/-- The width of listings on the output: the output's terminal's columns, else `COLUMNS` when it is a
number from 1 on, else 80. -/
def outputWidth (env : List String) : Prog μ Nat := do
  match ← Sys.windowOf (μ := μ) 1 with
  | .ok w => if w.cols > 0 then return w.cols
  | .error _ => pure ()
  match lookupEnv env "COLUMNS" with
  | some c =>
    match readQuantity c [] false true with
    | .value n false => if 0 < n && n < Nat.pow 2 31 then pure n else pure 80
    | _ => pure 80
  | none => pure 80

end PseudoTerm.Programs
