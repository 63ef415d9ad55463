import PseudoTerm.Bench.Cli

/-!
# The command line

`main` runs `ptyrun` with the given arguments on a fresh machine of the model: the
program's working directory is empty, its standard input is what this process reads
from its own, and what it writes to standard output and error is written to this
process's.  The exit code is the program's.
-/

open PseudoTerm.Bench

/-- Read a stream to its end. -/
partial def readStream (s : IO.FS.Stream) (acc : ByteArray) : IO ByteArray := do
  let chunk ← s.read 65536
  if chunk.isEmpty then pure acc else readStream s (acc ++ chunk)

/-- Run the program on the model with this process's arguments and input. -/
def main (args : List String) : IO UInt32 := do
  let input ← readStream (← IO.getStdin) .empty
  let world := benchWorld [] none [(programPath, programImage)]
  match (runBench world (runProgram args (some input) false none []) programCatalog).1 with
  | some (.ok run) =>
    let out ← IO.getStdout
    out.write run.output
    out.flush
    let err ← IO.getStderr
    err.write (run.errors.getD .empty)
    err.flush
    pure (run.exitCode % 256).toNat.toUInt32
  | some (.error f) =>
    IO.eprintln f.message
    pure 1
  | none =>
    IO.eprintln "the program did not finish"
    pure 1
