import PseudoTerm.Programs.Tool
import PseudoTerm.Programs.Common
import PseudoTerm.Text.Digest

/-!
# Checksums: `md5sum`, `sha1sum`, `sha224sum`, `sha256sum`, `sha384sum`, `sha512sum`, `cksum`

The digest utilities print a line `digest  name` for each file (`-` is the standard
input, read when there is no file), or `NAME (name) = digest` with `--tag`.  With `-c`
they read such lines and check each file, printing `name: OK` or `name: FAILED`, with a
warning at the end about the ones that failed.

`cksum` prints the check, the size and the name (no name for the standard input).
-/

namespace PseudoTerm.Programs

open PseudoTerm.Machine PseudoTerm.Text Tool

variable {μ : Type}

/-- A digest: its name in `--tag` lines and its function. -/
structure DigestKind where
  tag : String
  digest : ByteArray → String

/-- The digest a utility computes, by its name. -/
def digestOf (name : String) : DigestKind :=
  match name with
  | "sha1sum" => ⟨"SHA1", Digest.sha1⟩
  | "sha224sum" => ⟨"SHA224", Digest.sha224⟩
  | "sha256sum" => ⟨"SHA256", Digest.sha256⟩
  | "sha384sum" => ⟨"SHA384", Digest.sha384⟩
  | "sha512sum" => ⟨"SHA512", Digest.sha512⟩
  | _ => ⟨"MD5", Digest.md5⟩

/-- The options of the digest utilities. -/
def digestOptions : List OptionDef :=
  [letterOption 'b' .none (some "binary"), letterOption 'c' .none (some "check"),
   letterOption 't' .none (some "text"), letterOption 'z' .none (some "zero"),
   longOnly "tag", longOnly "quiet", longOnly "status", longOnly "strict",
   letterOption 'w' .none (some "warn"), longOnly "ignore-missing"]

/-- Read all of a file (`-` the standard input). -/
def readWhole (path : String) : Tool μ (Except Errno ByteArray) := do
  match ← openInput path with
  | .error e => pure (.error e)
  | .ok fd =>
    let (data, err) ← readAll fd
    closeInput fd
    match err with
    | some e => pure (.error e)
    | none => pure (.ok data)

/-- The name and digest of a check line, `digest  name`, `digest *name` or the tagged
form. -/
def readCheckLine (kind : DigestKind) (line : String) : Option (String × String) :=
  let tagged := kind.tag ++ " ("
  if line.startsWith tagged then
    match (line.drop tagged.length).toString.splitOn ") = " with
    | [name, digest] => some (name, digest)
    | _ => none
  else
    let digest := line.takeWhile Char.isAlphanum |>.toString
    let rest := (line.drop digest.length).toString
    if digest.isEmpty then none
    else if rest.startsWith "  " || rest.startsWith " *" then some ((rest.drop 2).toString, digest.toLower)
    else none

/-- A digest utility, by the name it was called by. -/
def digestProgram (inv : Invocation) : Prog μ Unit := Tool.run inv do
  let c := readCommandLine digestOptions (inv.args.drop 1)
  checkOptions c
  let kind := digestOf (Path.base (inv.args.headD "md5sum"))
  let files := if c.operands.isEmpty then ["-"] else c.operands
  let ending := if c.has "z" then "\x00" else "\n"
  if c.has "c" then
    let mut failed := 0
    let mut unreadable := 0
    let mut malformed := 0
    for list in files do
      match ← readWhole list with
      | .error e => complain s!"{list}: {e.sentence}"
      | .ok data =>
        let text := String.fromUTF8? data |>.getD ""
        let lines := (text.splitOn "\n").filter (!·.isEmpty)
        let mut good := 0
        for line in lines do
          match readCheckLine kind line with
          | none => malformed := malformed + 1
          | some (name, digest) =>
            good := good + 1
            match ← readWhole name with
            | .error e =>
              complain s!"{name}: {e.sentence}"
              if !c.has "status" then say s!"{name}: FAILED open or read\n"
              unreadable := unreadable + 1
            | .ok bytes =>
              if kind.digest bytes == digest then
                if !c.has "quiet" && !c.has "status" then say s!"{name}: OK\n"
              else
                if !c.has "status" then say s!"{name}: FAILED\n"
                failed := failed + 1
        if good == 0 then
          complain s!"{list}: no properly formatted checksum lines found"
    if malformed > 0 && !c.has "status" then
      let lines := if malformed == 1 then "line is" else "lines are"
      warn s!"WARNING: {malformed} {lines} improperly formatted"
    if unreadable > 0 && !c.has "status" then
      let files := if unreadable == 1 then "file" else "files"
      warn s!"WARNING: {unreadable} listed {files} could not be read"
    if failed > 0 then
      if !c.has "status" then
        let sums := if failed == 1 then "checksum" else "checksums"
        warn s!"WARNING: {failed} computed {sums} did NOT match"
      modify fun s => { s with status := 1 }
    if unreadable > 0 then modify fun s => { s with status := 1 }
  else
    for f in files do
      match ← readWhole f with
      | .error e => complain s!"{f}: {e.sentence}"
      | .ok data =>
        let d := kind.digest data
        if c.has "tag" then say s!"{kind.tag} ({f}) = {d}{ending}"
        else
          let mark := if c.has "b" then "*" else " "
          say s!"{d} {mark}{f}{ending}"

/-- `cksum`: the check and size of each file. -/
def cksumProgram (inv : Invocation) : Prog μ Unit := Tool.run inv do
  let c := readCommandLine [] (inv.args.drop 1)
  checkOptions c
  let files := if c.operands.isEmpty then ["-"] else c.operands
  for f in files do
    match ← readWhole f with
    | .error e => complain s!"{f}: {e.sentence}"
    | .ok data =>
      let check := Digest.cksum data
      let named := if c.operands.isEmpty then "" else " " ++ f
      say s!"{check.toNat} {data.size}{named}\n"

end PseudoTerm.Programs
