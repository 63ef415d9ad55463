import PseudoTerm.Config.Batch
import PseudoTerm.Yaml.Reader
import PseudoTerm.Machine.Interface

/-!
# Batch configuration files

A configuration is read from the bytes of its file, decoded as YAML text and read as a
batch.  A file that cannot be opened is an error of reading the file; one that opens but
cannot be read (a directory) fails while the text is parsed, when the parser first needs
its bytes.  The file is read only as far as the parser can get: up to its end, a read
error, or a block the reader cannot decode (so an endless device ends too).
-/

namespace PseudoTerm.Config

open PseudoTerm.Machine

/-- The batch held by the bytes of a configuration file, after which reading fails with
`readError` if given. -/
def BatchSpec.ofBytes (d : Defaults) (bytes : List UInt8) (readError : Option String := none) :
    Except Fault BatchSpec :=
  BatchSpec.read d (Yaml.Supply.ofBytes bytes readError)

/-- Whether the reader stops inside `bytes` whatever follows them. -/
def stopsWithin (bytes : ByteArray) : Bool :=
  match (Yaml.Supply.ofBytes bytes.toList).fault with
  | some problem => !problem.startsWith "incomplete"
  | none => false

/-- How many reads a configuration file takes at most. -/
def configReads : Nat := 1 <<< 20

/-- Read a descriptor as far as the parser can get: the bytes, and the error of the read
that failed. -/
def readConfigBytes {μ : Type} (fd : Nat) : Nat → ByteArray → Prog μ (ByteArray × Option Errno)
  | 0, acc => pure (acc, none)
  | fuel + 1, acc => do
    match ← Sys.read (μ := μ) fd 4096 with
    | .error e => pure (acc, some e)
    | .ok chunk =>
      if chunk.size == 0 then pure (acc, none)
      else
        let acc := acc ++ chunk
        if stopsWithin acc then pure (acc, none) else readConfigBytes fd fuel acc

/-- Read the batch configuration file at `path`. -/
def readBatchFile {μ : Type} (d : Defaults) (path : String) : Prog μ (Except Fault BatchSpec) := do
  match ← Sys.openPath (μ := μ) path { read := true } 0 with
  | .error e => pure (.error (.wrap "error while reading config file" (.path "open" path (.errno e))))
  | .ok fd =>
    let (data, err) ← readConfigBytes (μ := μ) fd configReads .empty
    let _ ← Sys.close (μ := μ) fd
    pure (BatchSpec.ofBytes d data.toList (err.map fun e => "input error: read " ++ path ++ ": " ++ e.text))

end PseudoTerm.Config
