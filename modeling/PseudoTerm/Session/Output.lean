import PseudoTerm.Control.Writer
import PseudoTerm.Config.Session
import PseudoTerm.Path

/-!
# Where a session's output goes

A session's output goes to the file its specification names, or nowhere when it names
none.  The file is created (or emptied) for writing after its directory is made with
every missing directory above it.

Making a directory that exists does nothing, a path that exists and is not a
directory is `ENOTDIR`, and otherwise the parent is made first (the text before the
last slash, trailing slashes aside), then the directory itself; a failure names the
directory being made.
-/

namespace PseudoTerm.Control

open PseudoTerm.Machine PseudoTerm.Config

/-- The parent of a path for making directories: the text before its last slash, after
trailing slashes; empty when there is none. -/
def parentForMaking (path : String) : String :=
  let cs := path.toList.reverse.dropWhile (· == '/')
  let rest := cs.dropWhile (· != '/')
  String.ofList (rest.drop 1).reverse

/-- Make a directory and every missing directory above it. -/
def makeDirectories (path : String) : Nat → Prog Memory (Except Fault Unit)
  | 0 => pure (.ok ())
  | fuel + 1 => do
    match ← Sys.status (μ := Memory) path with
    | .ok st =>
      if st.kind == .directory then pure (.ok ())
      else pure (.error (.path "mkdir" path (.errno Errno.enotdir)))
    | .error _ =>
      let parent := parentForMaking path
      let made ← if parent.isEmpty then pure (.ok ()) else makeDirectories parent fuel
      match made with
      | .error f => pure (.error f)
      | .ok () =>
        match ← Sys.makeDirectory (μ := Memory) path 0o755 with
        | .ok () => pure (.ok ())
        | .error e =>
          match ← Sys.status (μ := Memory) path false with
          | .ok st => if st.kind == .directory then pure (.ok ()) else pure (.error (.path "mkdir" path (.errno e)))
          | .error _ => pure (.error (.path "mkdir" path (.errno e)))

/-- Create or empty the file at `path` for writing, making its directory first. -/
def createOutput (path : String) : Prog Memory (Except Fault Writer) := do
  match ← makeDirectories (Path.dir path) (path.length + 1) with
  | .error f => pure (.error f)
  | .ok () =>
    let flags : OpenFlags := { read := true, write := true, create := true, truncate := true, closeOnExec := true }
    match ← Sys.openPath (μ := Memory) path flags 0o666 with
    | .ok fd => pure (.ok (Writer.descriptor fd path))
    | .error e => pure (.error (.path "open" path (.errno e)))

/-- The writer of a session's output: its file, or nothing. -/
def openSessionOutput (spec : SessionSpec) : Prog Memory (Except Fault Writer) :=
  if spec.output.isEmpty then pure (.ok .discard) else createOutput spec.output

end PseudoTerm.Control
