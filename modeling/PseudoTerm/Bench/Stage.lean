import PseudoTerm.Programs.Catalog
import PseudoTerm.Pty.Helper
import PseudoTerm.Control.Memory
import PseudoTerm.Machine.Run
import PseudoTerm.Bench.Answer
import PseudoTerm.Bench.Request

/-!
# The machine a bench request runs on

Requests that start programs run on a fresh machine: the standard file tree, the
bench's own image (which is also the setup helper), a working directory holding the
request's files, and the bench process, which has its standard streams on `/dev/null`,
the driver's environment, and belongs to a session it does not lead.  The request
runs as an outside task of the bench process, within a time limit on the machine's
clock.

The files of the working directory are listed by path, in text order, a directory
with a slash after its name and no contents.
-/

namespace PseudoTerm.Bench

open PseudoTerm.Machine PseudoTerm.Control

/-- The path of the bench's own image. -/
def driverPath : String := "/opt/bench/driver"

/-- The image name of the bench. -/
def driverImage : String := "bench-driver"

/-- The number of the bench process. -/
def benchPid : Nat := 10

/-- The working directory of a request. -/
def workDirectory : String := "/tmp/bench"

/-- The latest clock time a request may run to, in microseconds. -/
def timeLimit : Nat := 60000000

/-- The most requests the machine carries out for one bench request. -/
def stepBudget : Nat := 50000000

/-- What the bench image does when it is not the setup helper: read its input to the
end and end. -/
def driverProgram (inv : Invocation) : Prog Memory Unit :=
  Pty.withSetupHelper inv do
    let _ ← Sys.readToEnd (μ := Memory) 0
    Sys.exit 0

/-- The images of a bench machine. -/
def benchImages (name : String) : Option (Invocation → Prog Memory Unit) :=
  if name == driverImage then some driverProgram else Programs.standardImage name

/-- The catalog of a bench machine. -/
def benchCatalog : Catalog Memory := { initial := {}, image := benchImages }

/-- A file of a request: its path under the working directory and its contents, or
nothing for a directory (given with a slash after its name). -/
abbrev RequestFile := String × Option ByteArray

/-- The tree of a bench machine with the request's files and further program images
by path. -/
def benchTree (files : List RequestFile) (extra : List (String × String) := []) : Tree :=
  let t := Tree.standard ((driverPath, driverImage) :: extra)
  let t := (t.ensureDirectory workDirectory).1
  files.foldl (fun t (name, content) =>
    let path := workDirectory ++ "/" ++ name
    match content with
    | none => (t.ensureDirectory path).1
    | some data => t.place path (.file data 0o644)) t

/-- A fresh bench machine holding the request's files. -/
def benchWorld (files : List RequestFile) (limit : Option Nat := none) (extra : List (String × String) := []) :
    World Memory :=
  let bench : Process Memory :=
    { pid := benchPid, ppid := 1, pgid := benchPid, sid := 1, memory := {}, cwd := workDirectory,
      image := driverPath, fileLimit := limit.getD 1024 }
  let w : World Memory := { tree := benchTree files extra, processes := [bench] }
  let nullFlags : OpenFlags := { read := true, write := true }
  [0, 1, 2].foldl (fun w _ =>
    match w.openPath benchPid "/dev/null" nullFlags 0 with
    | .ok (_, w') => w'
    | .error _ => w) w

/-- Run a task as the bench process; answers its result, or nothing when it could not
finish. -/
def runBench {α : Type} (w : World Memory) (task : Prog Memory α) (cat : Catalog Memory := benchCatalog) :
    Option α × World Memory :=
  match w.runTask cat benchPid timeLimit stepBudget task with
  | (w', .finished a) => (some a, w')
  | (w', _) => (none, w')

/-- The files under directory node `n`, with paths after `pathPrefix`. -/
def filesUnder (t : Tree) : Nat → String → Nat → List RequestFile
  | 0, _, _ => []
  | fuel + 1, pathPrefix, n =>
    match t.get? n with
    | some (.directory entries _) =>
      entries.flatMap fun (name, m) =>
        match t.get? m with
        | some (.directory ..) =>
          (pathPrefix ++ name ++ "/", none) :: filesUnder t fuel (pathPrefix ++ name ++ "/") m
        | some (.file data _) => [(pathPrefix ++ name, some data)]
        | _ => []
    | _ => []

/-- The files of the working directory, sorted by path. -/
def workFiles (w : World Memory) : List RequestFile :=
  match w.tree.locate "/" workDirectory with
  | .ok (.node n) =>
    (filesUnder w.tree (w.tree.nodes.size + 1) "" n).mergeSort fun a b => decide (a.1 ≤ b.1)
  | _ => []

/-- The files of a request: names with contents, a name ending in a slash a directory. -/
def requestFiles (req : Value) : Decode (List RequestFile) := do
  match opt req "files" with
  | none => pure []
  | some (.obj fields) =>
    fields.mapM fun (name, v) => do
      match v with
      | .null => pure ((if name.endsWith "/" then (name.dropEnd 1).toString else name), none)
      | other => pure (name, some ⟨(← bytesOf name other).toArray⟩)
  | some _ => throw "field \"files\" must be an object"

/-- The listing of files as an answer value. -/
def filesValue (m : Mask) (files : List RequestFile) : Value :=
  .arr (files.map fun (path, content) =>
    .arr [.str path, match content with
      | some data => bytesValue m data
      | none => .null])

end PseudoTerm.Bench
