import PseudoTerm.Shell.Expand

/-!
# Redirections

A redirection points a descriptor elsewhere: at a file opened for reading, writing,
appending or both, at a copy of another descriptor (`>&2`), nowhere (`>&-`), or at a
pipe holding a here-document.  For a command that runs in the shell itself the
former file of each descriptor is first kept in a copy numbered 10 or more (closed when
an image is replaced), and put back afterwards; a descriptor that was closed is closed
again.

A file that cannot be opened is reported as `cannot open` (reading) or `cannot
create` (writing), with `No such file` or `Directory nonexistent` for a missing
path; copying from a closed descriptor is a `Bad file descriptor`.
-/

namespace PseudoTerm.Shell

open PseudoTerm.Machine

/-- Where a descriptor's former file is kept while a redirection is in force; `none`
when the descriptor was closed. -/
structure SavedFd where
  fd : Nat
  copy : Option Nat
  deriving Repr, Inhabited

variable {μ : Type}

namespace Redirect

open ShellM

/-- How the file of a redirection is opened. -/
def flagsOf : RedirKind → OpenFlags
  | .input => { read := true }
  | .output | .clobber => { read := false, write := true, create := true, truncate := true }
  | .append => { read := false, write := true, create := true, append := true }
  | .readWrite => { read := true, write := true, create := true }
  | _ => {}

/-- The shell's words for a failed open, reading or writing. -/
def openMessage (e : Errno) (creating : Bool) : String :=
  if e == Errno.enoent || e == Errno.enotdir then
    if creating then "Directory nonexistent" else "No such file"
  else e.sentence

/-- Keep a copy of descriptor `fd` unless it is kept already. -/
def keep (fd : Nat) (saved : List SavedFd) : ShellM μ (List SavedFd) := do
  if saved.any (·.fd == fd) then return saved
  match ← sys (Sys.duplicate (μ := μ) fd 10 true) with
  | .ok k => return ⟨fd, some k⟩ :: saved
  | .error _ => return ⟨fd, none⟩ :: saved

/-- Move the file of descriptor `k` to descriptor `fd`. -/
def place (k fd : Nat) : ShellM μ Unit := do
  if k != fd then
    let _ ← sys (Sys.duplicateTo (μ := μ) k fd)
    let _ ← sys (Sys.close (μ := μ) k)

/-- Carry out one redirection whose target has been expanded; answers whether it
worked, having reported a failure. -/
def perform (r : Redirect) (target : String) : ShellM μ Bool := do
  match r.kind with
  | .dupInput | .dupOutput =>
    if target == "-" then
      let _ ← sys (Sys.close (μ := μ) r.fd)
      return true
    else if !target.isEmpty && target.all Char.isDigit then
      let src := target.toNat!
      if src == r.fd then return true
      match ← sys (Sys.duplicateTo (μ := μ) src r.fd) with
      | .ok () => return true
      | .error e =>
        complain s!"{src}: {e.sentence}"
        return false
    else
      complain "Syntax error: Bad fd number"
      return false
  | .hereDoc _ =>
    match ← sys (Sys.makePipe (μ := μ)) with
    | .error e =>
      complain s!"pipe: {e.sentence}"
      return false
    | .ok (rd, wr) =>
      let data := target.toUTF8
      let _ ← sys (Sys.writeAll (μ := μ) wr (data.extract 0 (min data.size 65536)))
      let _ ← sys (Sys.close (μ := μ) wr)
      place rd r.fd
      return true
  | kind =>
    match ← sys (Sys.openPath (μ := μ) target (flagsOf kind)) with
    | .ok k =>
      place k r.fd
      return true
    | .error e =>
      let creating := kind != .input
      let verb := if creating then "create" else "open"
      let why := openMessage e creating
      complain s!"cannot {verb} {target}: {why}"
      return false

/-- Put back the kept descriptors. -/
def restore (saved : List SavedFd) : ShellM μ Unit := do
  for s in saved do
    match s.copy with
    | some k =>
      let _ ← sys (Sys.duplicateTo (μ := μ) k s.fd)
      let _ ← sys (Sys.close (μ := μ) k)
    | none =>
      let _ ← sys (Sys.close (μ := μ) s.fd)

end Redirect

/-- Carry out redirections, keeping the former files when `save`; answers the kept
copies and whether all worked.  The targets are expanded by `expand`. -/
def applyRedirects (expand : Word → ShellM μ String) (save : Bool) :
    List Redirect → List SavedFd → ShellM μ (List SavedFd × Bool)
  | [], saved => pure (saved, true)
  | r :: rs, saved => do
    let target ← expand r.target
    let saved ← if save then Redirect.keep r.fd saved else pure saved
    if ← Redirect.perform r target then applyRedirects expand save rs saved
    else pure (saved, false)

end PseudoTerm.Shell
