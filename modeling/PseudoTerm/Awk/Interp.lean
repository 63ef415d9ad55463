import Std.Data.HashMap
import PseudoTerm.Awk.Parser
import PseudoTerm.Awk.Value
import PseudoTerm.Awk.Table
import PseudoTerm.Programs.Tool
import PseudoTerm.Pattern.Search

/-!
# Running awk programs

The interpreter keeps the variables (global, and the parameters of the function being
called), the arrays, the record and its fields, the inputs being read and the outputs
being written.

A record is split into fields by `FS`: a single blank splits at runs of blanks, tabs and
line feeds and drops them at both ends; another single character splits at each of its
occurrences; anything longer is a pattern.  Changing a field or `NF` rebuilds the record
with `OFS` between the fields; changing the record splits it again.

The main input is read from the operands left in `ARGV` when it is needed (an operand
`name=value` assigns instead), else from the standard input, a record at a time as `RS`
cuts it: at a character, at blank lines when it is empty, or at a pattern.

Output to a file or a command is gathered and written when it is closed or at the end;
`system` and commands read by `getline` run through the shell.
-/

namespace PseudoTerm.Awk

open PseudoTerm.Machine PseudoTerm.Pattern PseudoTerm.Programs PseudoTerm.Text Tool

variable {μ : Type}

/-- What a variable holds. -/
inductive Cell where
  | scalar (v : Value)
  | array (id : Nat)
  deriving Inhabited

/-- How output to a name is written. -/
inductive OutKind where
  | file
  | append
  | pipe
  deriving DecidableEq, Inhabited

/-- An output being gathered. -/
structure Output where
  name : String
  kind : OutKind
  /-- The descriptor written to. -/
  fd : Nat
  /-- The command reading the output, and the handle on it. -/
  child : Option (Nat × Nat) := none
  /-- Bytes not yet written. -/
  data : ByteArray := .empty
  deriving Inhabited

/-- How a statement ended. -/
inductive Flow where
  | normal
  | brk
  | cont
  | next
  | nextFile
  | exit
  | ret (v : Value)
  deriving Inhabited

/-- Input being read a record at a time: its bytes and how far they are read. -/
structure InputText where
  bytes : ByteArray
  pos : Nat := 0
  deriving Inhabited

/-- The state of a running program. -/
structure Interp where
  globals : Std.HashMap String Cell := {}
  /-- The parameters of the function being called, if any. -/
  frame : Option (Std.HashMap String Cell) := none
  arrays : Array Table := #[]
  record : String := ""
  fields : Array String := #[]
  functions : List Function := []
  ranges : Array Bool := #[]
  /-- The next operand of `ARGV` to look at. -/
  argIndex : Nat := 1
  /-- The rest of the main input being read, if one is open. -/
  current : Option InputText := none
  /-- Whether an operand named an input (else the standard input is read). -/
  namedInput : Bool := false
  mainDone : Bool := false
  readers : List (String × InputText) := []
  outputs : Array Output := #[]
  exitCode : Nat := 0
  /-- Set when `exit` ran inside a function, so that the statements around the call stop. -/
  exiting : Bool := false
  seed : Float := 0
  randState : Nat := 1
  env : List String := []
  patterns : List (String × Compiled) := []
  deriving Inhabited

/-- A running program. -/
abbrev Run (μ : Type) := StateT Interp (Tool μ)

/-- The deepest nesting of evaluation. -/
def depthLimit : Nat := 20000

/-- The most rounds of one loop. -/
def loopLimit : Nat := 100000000

/-- Whether a string names a variable. -/
def isName (s : String) : Bool :=
  match s.toList with
  | c :: rest => (c.isAlpha || c == '_') && rest.all fun x => x.isAlphanum || x == '_'
  | [] => false

/-- Split a record at runs of blanks, tabs and line feeds. -/
def splitBlank (s : String) : List String :=
  (s.split fun c => c == ' ' || c == '\t' || c == '\n').toList.map (·.toString) |>.filter (!·.isEmpty)

/-- Split a string at each occurrence of a character. -/
def splitChar (c : Char) (s : String) : List String :=
  if s.isEmpty then [] else (s.splitOn c.toString)

/-- Split a string at the matches of a pattern (an empty string has no parts). -/
def splitPattern (p : Compiled) (s : String) : List String :=
  if s.isEmpty then []
  else
    let bytes := toBytes s
    go bytes 0 0 [] (bytes.size + 2)
where
  /-- From a position, the current part starting at `start`. -/
  go (bytes : ByteArray) (start pos : Nat) (acc : List String) : Nat → List String
    | 0 => (acc ++ [ofBytes (bytes.extract start bytes.size)])
    | fuel + 1 =>
      match p.search { bytes } pos with
      | some f =>
        if f.stop == f.start then
          if f.start ≥ bytes.size then acc ++ [ofBytes (bytes.extract start bytes.size)]
          else go bytes start (f.start + 1) acc fuel
        else go bytes f.stop f.stop (acc ++ [ofBytes (bytes.extract start f.start)]) fuel
      | none => acc ++ [ofBytes (bytes.extract start bytes.size)]

/-- Split a string by a field separator; `paragraph` also splits at line feeds. -/
def splitBy (fs : String) (pat : Option Compiled) (paragraph : Bool) (s : String) : List String :=
  if fs == " " then splitBlank s
  else
    let parts := match pat with
      | some p => splitPattern p s
      | none =>
        match fs.toList with
        | [] => s.toList.map toString
        | [c] => splitChar c s
        | _ => [s]
    if paragraph then parts.flatMap fun part => part.splitOn "\n" else parts

/-- Replace matches of a pattern in a string: the first, or all; `&` in the replacement
stands for the match, `\&` for `&` and `\\` for `\`.  Answers the result and how many were
replaced. -/
def replaceMatches (p : Compiled) (repl : String) (s : String) (global : Bool) : String × Nat :=
  let bytes := toBytes s
  let expand (m : ByteArray) : List UInt8 :=
    let rec walk : List Char → Nat → List UInt8
      | _, 0 => []
      | [], _ => []
      | '\\' :: '\\' :: rest, fuel + 1 => 92 :: walk rest fuel
      | '\\' :: '&' :: rest, fuel + 1 => 38 :: walk rest fuel
      | '&' :: rest, fuel + 1 => m.toList ++ walk rest fuel
      | c :: rest, fuel + 1 => c.toNat.toUInt8 :: walk rest fuel
    walk repl.toList (repl.length + 1)
  let rec go (pos : Nat) (lastEnd : Option Nat) (count : Nat) (out : List UInt8) : Nat → List UInt8 × Nat
    | 0 => (out ++ (bytes.extract pos bytes.size).toList, count)
    | fuel + 1 =>
      if pos > bytes.size then (out, count) else
      match p.search { bytes } pos with
      | none => (out ++ (bytes.extract pos bytes.size).toList, count)
      | some f =>
        if f.stop == f.start && lastEnd == some f.start then
          if f.start < bytes.size then go (f.start + 1) none count (out ++ (bytes.extract pos (f.start + 1)).toList) fuel
          else (out ++ (bytes.extract pos bytes.size).toList, count)
        else
          let out := out ++ (bytes.extract pos f.start).toList ++ expand (bytes.extract f.start f.stop)
          if !global then (out ++ (bytes.extract f.stop bytes.size).toList, count + 1)
          else if f.stop == f.start then
            if f.start < bytes.size then go (f.start + 1) none (count + 1) (out ++ [bytes.get! f.start]) fuel
            else (out, count + 1)
          else go f.stop (some f.stop) (count + 1) out fuel
  let (out, n) := go 0 none 0 [] (bytes.size + 2)
  (ofBytes (ByteArray.mk out.toArray), n)

/-- The first position at or after `start` holding a byte. -/
def findByte (b : ByteArray) (c : UInt8) (start : Nat) : Option Nat :=
  go start (b.size - start)
where
  /-- Position after position. -/
  go (i : Nat) : Nat → Option Nat
    | 0 => none
    | fuel + 1 => if b.get! i == c then some i else go (i + 1) fuel

/-- The first position at or after `start` that is not a line feed. -/
def skipLineFeeds (b : ByteArray) (start : Nat) : Nat :=
  go start (b.size - start)
where
  /-- Position after position. -/
  go (i : Nat) : Nat → Nat
    | 0 => i
    | fuel + 1 => if b.get! i == 10 then go (i + 1) fuel else i

/-- The first blank line (two line feeds) at or after `start`. -/
def findBlankLine (b : ByteArray) (start : Nat) : Option Nat :=
  go start (b.size - start)
where
  /-- Line feed after line feed. -/
  go (i : Nat) : Nat → Option Nat
    | 0 => none
    | fuel + 1 =>
      match findByte b 10 i with
      | some j => if j + 1 < b.size && b.get! (j + 1) == 10 then some j else go (j + 1) fuel
      | none => none

/-- Where the line feeds at the end of a stretch of bytes begin. -/
def trimLineFeeds (b : ByteArray) (start stop : Nat) : Nat :=
  go stop (stop - start)
where
  /-- Position before position. -/
  go (i : Nat) : Nat → Nat
    | 0 => i
    | fuel + 1 => if i > start && b.get! (i - 1) == 10 then go (i - 1) fuel else i

/-- Take the next record of input by a record separator: a character, a blank line when
it is empty, or a pattern; none when the input holds no more. -/
def takeRecord (rs : String) (pat : Option Compiled) (p : InputText) : Option (String × InputText) :=
  let b := p.bytes
  if rs.isEmpty then
    let start := skipLineFeeds b p.pos
    if start ≥ b.size then none
    else
      match findBlankLine b start with
      | some j => some (ofBytes (b.extract start j), { p with pos := skipLineFeeds b j })
      | none => some (ofBytes (b.extract start (trimLineFeeds b start b.size)), { p with pos := b.size })
  else if p.pos ≥ b.size then none
  else
    match pat with
    | some c =>
      match c.search { bytes := b } p.pos with
      | some f =>
        if f.stop > f.start then
          some (ofBytes (b.extract p.pos f.start), { p with pos := f.stop })
        else some (ofBytes (b.extract p.pos b.size), { p with pos := b.size })
      | none => some (ofBytes (b.extract p.pos b.size), { p with pos := b.size })
    | none =>
      let c := ((rs.toList.head?).getD '\n').toNat.toUInt8
      match findByte b c p.pos with
      | some i => some (ofBytes (b.extract p.pos i), { p with pos := i + 1 })
      | none => some (ofBytes (b.extract p.pos b.size), { p with pos := b.size })

namespace Interp

/-- The value of a global that is a scalar. -/
def globalValue (st : Interp) (name : String) : Value :=
  match st.globals.get? name with
  | some (.scalar v) => v
  | _ => .uninit

/-- The string of a global. -/
def globalText (st : Interp) (name : String) : String :=
  (st.globalValue name).toStr ((st.globalValue "CONVFMT").toStr "%.6g")

end Interp

/-- The conversion format. -/
def convfmt : Run μ String := do
  pure (((← get).globalValue "CONVFMT").toStr "%.6g")

/-- A value's string, numbers written with `CONVFMT`. -/
def textOf (v : Value) : Run μ String := do
  pure (v.toStr (← convfmt))

/-- A value's string for output, numbers written with `OFMT`. -/
def outputText (v : Value) : Run μ String := do
  let ofmt := ((← get).globalValue "OFMT").toStr "%.6g"
  pure (v.toStr ofmt)

/-- Stop with an error at run time. -/
def runtimeError {α : Type} (msg : String) : Run μ α := do
  let st ← get
  let file := st.globalText "FILENAME"
  let fnr := st.globalText "FNR"
  let nr := st.globalText "NR"
  let where_ := s!"\tFILENAME=\"{file}\" FNR={fnr} NR={nr}"
  monadLift (fail (μ := μ) s!"run time error: {msg}\n{where_}" 2)

/-- A pattern given as text, compiled once. -/
def dynamicPattern (source : String) : Run μ Compiled := do
  match (← get).patterns.find? (·.1 == source) with
  | some (_, p) => pure p
  | none =>
    match compile Dialect.extendedLoose (toBytes source).toList with
    | .ok p =>
      modify fun st => { st with patterns := (source, p) :: st.patterns.take 50 }
      pure p
    | .error e => runtimeError s!"regular expression compile failed ({e.message})\n{source}"

/-- The field separator as a pattern, when it is one. -/
def separatorPattern (fs : String) : Run μ (Option Compiled) := do
  if fs.length ≤ 1 then pure none else some <$> dynamicPattern fs

/-- Set a global scalar. -/
def setGlobal (name : String) (v : Value) : Run μ Unit :=
  modify fun st => { st with globals := st.globals.insert name (.scalar v) }

/-- Rebuild the record from the fields, with `OFS` between them. -/
def rebuildRecord : Run μ Unit := do
  let st ← get
  let ofs := st.globalText "OFS"
  set { st with record := ofs.intercalate st.fields.toList }

/-- Split the record into fields by `FS`. -/
def splitRecord : Run μ Unit := do
  let st ← get
  let fs := st.globalText "FS"
  let paragraph := st.globalText "RS" == ""
  let pat ← separatorPattern fs
  let parts := splitBy fs pat paragraph st.record
  modify fun st => { st with fields := parts.toArray }
  setGlobal "NF" (.num (ofInt parts.length))

/-- Set the record and split it. -/
def setRecord (s : String) : Run μ Unit := do
  modify fun st => { st with record := s }
  splitRecord

/-- The value of a field. -/
def getField (i : Nat) : Run μ Value := do
  let st ← get
  if i == 0 then pure (.strnum st.record)
  else match st.fields[i - 1]? with
    | some f => pure (.strnum f)
    | none => pure .uninit

/-- Set a field (the record for 0). -/
def setField (i : Nat) (s : String) : Run μ Unit := do
  if i == 0 then setRecord s
  else
    let st ← get
    let fields := if st.fields.size < i then st.fields ++ Array.replicate (i - st.fields.size) "" else st.fields
    set { st with fields := fields.set! (i - 1) s }
    setGlobal "NF" (.num (ofInt fields.size))
    rebuildRecord

/-- Set the number of fields, dropping or adding empty ones. -/
def setFieldCount (n : Nat) : Run μ Unit := do
  let st ← get
  let fields := if st.fields.size < n then st.fields ++ Array.replicate (n - st.fields.size) ""
    else st.fields.extract 0 n
  set { st with fields }
  rebuildRecord

/-- The cell of a variable: a parameter of the current function, else a global. -/
def cellOf (name : String) : Run μ (Option Cell) := do
  let st ← get
  match st.frame with
  | some f =>
    match f.get? name with
    | some c => pure (some c)
    | none => pure (st.globals.get? name)
  | none => pure (st.globals.get? name)

/-- Store a cell for a variable, where it lives. -/
def storeCell (name : String) (c : Cell) : Run μ Unit := do
  let st ← get
  match st.frame with
  | some f =>
    if f.contains name then set { st with frame := some (f.insert name c) }
    else set { st with globals := st.globals.insert name c }
  | none => set { st with globals := st.globals.insert name c }

/-- The value of a variable. -/
def getVar (name : String) : Run μ Value := do
  match ← cellOf name with
  | some (.scalar v) => pure v
  | some (.array _) => runtimeError s!"can't use array {name} in scalar context"
  | none => pure .uninit

/-- Set a variable; `NF` also changes the fields. -/
def setVar (name : String) (v : Value) : Run μ Unit := do
  match ← cellOf name with
  | some (.array _) => runtimeError s!"can't assign to array {name}"
  | _ =>
    storeCell name (.scalar v)
    if name == "NF" && (← get).frame.all (!·.contains "NF") then
      let n := clampInt v.toNum
      setFieldCount (if n < 0 then 0 else n.toNat)

/-- The array of a variable, made when it has none yet. -/
def arrayOf (name : String) : Run μ Nat := do
  match ← cellOf name with
  | some (.array id) => pure id
  | some (.scalar .uninit) | none =>
    let id := (← get).arrays.size
    modify fun st => { st with arrays := st.arrays.push {} }
    storeCell name (.array id)
    pure id
  | some (.scalar _) => runtimeError s!"can't use scalar {name} as array"

/-- Work on an array, taken out of the state meanwhile so that it changes in place. -/
def withTable {α : Type} (id : Nat) (f : Table → Table × α) : Run μ α :=
  modifyGet fun st =>
    let arrays := st.arrays
    let st := { st with arrays := #[] }
    let a := arrays[id]!
    let arrays := arrays.set! id {}
    let (a, x) := f a
    (x, { st with arrays := arrays.set! id a })

/-- An element of an array (a reference makes it). -/
def getElement (id : Nat) (key : Key) : Run μ Value :=
  withTable id fun a => a.get key

/-- Set an element of an array. -/
def setElement (id : Nat) (key : Key) (v : Value) : Run μ Unit :=
  withTable id fun a => (a.set key v, ())

/-- Write out what an output holds. -/
def writeOutput (o : Output) : Run μ Output := do
  if o.data.size > 0 then
    let _ ← Sys.writeAll (μ := μ) o.fd o.data
  pure { o with data := .empty }

/-- Write out what every output holds, the standard output first. -/
def flushOutputs : Run μ Unit := do
  monadLift (flush (μ := μ))
  let outs ← (← get).outputs.mapM writeOutput
  modify fun st => { st with outputs := outs }

/-- Wait for a child to end: its exit status, or 256 and the signal that ended it. -/
def waitChild (pid handle : Nat) : Run μ Nat := do
  let status ← match ← Sys.wait (μ := μ) (.child pid) with
    | .ok (some (_, .exited c)) => pure c
    | .ok (some (_, .killed s)) => pure (256 + s)
    | _ => pure 0
  let _ ← Sys.close (μ := μ) handle
  pure status

/-- Start a command through the shell with the given standard input and output. -/
def startCommand (cmd : String) (stdin stdout : Nat) : Run μ (Option (Nat × Nat)) := do
  let env := (← get).env
  let plan : LaunchPlan := { path := "/bin/sh", args := ["sh", "-c", toText cmd], env, files := [stdin, stdout, 2] }
  match ← Sys.launch (μ := μ) plan with
  | .ok child => pure (some child)
  | .error _ => pure none

/-- Open an output: a file emptied or appended to, or a command started with a pipe to
its input. -/
def openOutput (kind : OutKind) (name : String) : Run μ Output := do
  match kind with
  | .pipe =>
    flushOutputs
    match ← Sys.makePipe (μ := μ) true with
    | .error e => runtimeError s!"cannot open pipe \"{name}\" ({e.sentence})"
    | .ok (r, w) =>
      let child ← startCommand name r 1
      let _ ← Sys.close (μ := μ) r
      pure { name, kind, fd := w, child }
  | _ =>
    let flags : OpenFlags := if kind == .append then { read := false, write := true, create := true, append := true, closeOnExec := true }
      else { read := false, write := true, create := true, truncate := true, closeOnExec := true }
    match ← Sys.openPath (μ := μ) (toText name) flags with
    | .ok fd => pure { name, kind, fd }
    | .error _ => runtimeError s!"cannot open \"{name}\" for output"

/-- Write text to the output, a file or a command. -/
def emitTo (dest : Option (OutKind × String)) (text : String) : Run μ Unit := do
  match dest with
  | none => monadLift (emit (μ := μ) (toBytes text))
  | some (kind, name) =>
    if name == "/dev/stdout" || name == "-" then monadLift (emit (μ := μ) (toBytes text))
    else if name == "/dev/stderr" then
      let _ ← Sys.writeAll (μ := μ) 2 (toBytes text)
    else
      let o ← match (← get).outputs.find? (·.name == name) with
        | some o => pure o
        | none =>
          let o ← openOutput kind name
          modify fun st => { st with outputs := st.outputs.push o }
          pure o
      let o := { o with data := o.data ++ toBytes text }
      let o ← if o.data.size ≥ blockSize then writeOutput o else pure o
      modify fun st => { st with outputs := st.outputs.map fun x => if x.name == name then o else x }

/-- Run a command through the shell and wait for it, its output gathered when asked;
answers its status and what it wrote. -/
def runCommand (cmd : String) (capture : Bool) : Run μ (Nat × ByteArray) := do
  flushOutputs
  if capture then
    match ← Sys.makePipe (μ := μ) true with
    | .error _ => pure (127, .empty)
    | .ok (r, w) =>
      let child ← startCommand cmd 0 w
      let _ ← Sys.close (μ := μ) w
      let (data, _) ← Sys.readToEnd (μ := μ) r 100000000
      let _ ← Sys.close (μ := μ) r
      match child with
      | some (pid, handle) => pure (← waitChild pid handle, data)
      | none => pure (127, data)
  else
    match ← startCommand cmd 0 1 with
    | some (pid, handle) => pure (← waitChild pid handle, .empty)
    | none => pure (127, .empty)

/-- Finish an output: write what it holds and close it, waiting for its command; answers
the command's status. -/
def finishOutput (o : Output) : Run μ Nat := do
  let o ← writeOutput o
  let _ ← Sys.close (μ := μ) o.fd
  match o.child with
  | some (pid, handle) => waitChild pid handle
  | none => pure 0

/-- Close an output or input by name: answers its status, -1 when none is open. -/
def closeNamed (name : String) : Run μ Int := do
  let st ← get
  match st.outputs.findIdx? (·.name == name) with
  | some i =>
    let o := st.outputs[i]!
    set { st with outputs := st.outputs.eraseIdx! i }
    let s ← finishOutput o
    pure s
  | none =>
    if st.readers.any (·.1 == name) then
      set { st with readers := st.readers.filter (·.1 != name) }
      pure 0
    else pure (-1)

/-- Finish every output still open. -/
def closeAll : Run μ Unit := do
  let outs := (← get).outputs
  modify fun st => { st with outputs := #[] }
  for o in outs do
    let _ ← finishOutput o

/-- The pattern cutting records, when `RS` is one. -/
def recordPattern : Run μ (Option Compiled) := do
  let rs := (← get).globalText "RS"
  if rs.length ≤ 1 then pure none else some <$> dynamicPattern rs

/-- Take the next record of the main input, opening the operands as needed. -/
def nextMainRecord : Nat → Run μ (Option String)
  | 0 => pure none
  | fuel + 1 => do
    let st ← get
    let rs := st.globalText "RS"
    let pat ← recordPattern
    match st.current with
    | some data =>
      match takeRecord rs pat data with
      | some (r, rest) =>
        modify fun st => { st with current := some rest }
        pure (some r)
      | none =>
        modify fun st => { st with current := none }
        nextMainRecord fuel
    | none =>
      if st.mainDone then return none
      -- the next operand of ARGV
      let argc := clampInt (st.globalValue "ARGC").toNum
      if (st.argIndex : Int) ≥ argc then
        if st.namedInput then
          modify fun st => { st with mainDone := true }
          return none
        modify fun st => { st with namedInput := true }
        let (data, _) ← Sys.readToEnd (μ := μ) 0 100000000
        modify fun st => { st with current := some { bytes := data } }
        setGlobal "FNR" (.num 0)
        nextMainRecord fuel
      else
        let i := st.argIndex
        modify fun st => { st with argIndex := i + 1 }
        let argvId ← arrayOf "ARGV"
        let arg ← textOf (← getElement argvId (.int i))
        if arg.isEmpty then nextMainRecord fuel
        else
          match arg.splitOn "=" with
          | name :: value :: more =>
            if isName name then
              let v := String.intercalate "=" (value :: more)
              setVar name (.strnum (unescapeValue v.toList (v.length + 1)))
              nextMainRecord fuel
            else openOperand arg fuel
          | _ => openOperand arg fuel
where
  /-- Open an operand naming an input. -/
  openOperand (arg : String) (fuel : Nat) : Run μ (Option String) := do
    modify fun st => { st with namedInput := true }
    let fd ← if arg == "-" || arg == "/dev/stdin" then pure (Except.ok 0) else Sys.openPath (μ := μ) (toText arg) {}
    match fd with
    | .error e => monadLift (fail (μ := μ) s!"cannot open {arg} ({e.sentence})" 2)
    | .ok fd =>
      let (data, _) ← Sys.readToEnd (μ := μ) fd 100000000
      if fd != 0 then let _ ← Sys.close (μ := μ) fd
      modify fun st => { st with current := some { bytes := data } }
      setGlobal "FILENAME" (.str arg)
      setGlobal "FNR" (.num 0)
      nextMainRecord fuel

/-- Count a record read from the main input. -/
def countRecord : Run μ Unit := do
  let st ← get
  setGlobal "NR" (.num ((st.globalValue "NR").toNum + 1))
  setGlobal "FNR" (.num ((st.globalValue "FNR").toNum + 1))

/-- Take a record from a file or command read by `getline`; none at its end, an error
when it cannot be opened. -/
def readFrom (source : Source) (name : String) : Run μ (Option (Option String)) := do
  let st ← get
  let rs := st.globalText "RS"
  let pat ← recordPattern
  let data : Option InputText ← match st.readers.find? (·.1 == name) with
    | some (_, d) => pure (some d)
    | none =>
      match source with
      | .command =>
        let (_, out) ← runCommand name true
        pure (some { bytes := out })
      | _ =>
        let fd ← if name == "-" || name == "/dev/stdin" then pure (Except.ok 0)
          else Sys.openPath (μ := μ) (toText name) {}
        match fd with
        | .error _ => pure none
        | .ok fd =>
          let (data, _) ← Sys.readToEnd (μ := μ) fd 100000000
          if fd != 0 then let _ ← Sys.close (μ := μ) fd
          pure (some { bytes := data })
  match data with
  | none => pure none
  | some d =>
    match takeRecord rs pat d with
    | some (r, rest) =>
      modify fun st => { st with readers := (name, rest) :: st.readers.filter (·.1 != name) }
      pure (some (some r))
    | none =>
      modify fun st => { st with readers := (name, { d with pos := d.bytes.size }) :: st.readers.filter (·.1 != name) }
      pure (some none)

/-- The key a subscript value stands for: an integral number is an integer key. -/
def keyOfValue (v : Value) : Run μ Key := do
  match v with
  | .num d => if integral d then pure (.int (truncate d)) else pure (.text (← textOf v))
  | other => pure (.text (← textOf other))

/-- The key of an array element: one subscript's own, or the subscripts joined with
`SUBSEP`. -/
def keyOf (subs : List Value) : Run μ Key := do
  match subs with
  | [v] => keyOfValue v
  | _ =>
    let sep := (← get).globalText "SUBSEP"
    let parts ← subs.mapM textOf
    pure (.text (sep.intercalate parts))

/-- The next pseudo-random number in `[0, 1)`. -/
def nextRandom : Run μ Float := do
  let st ← get
  let next := (st.randState * 1103515245 + 12345) % 2147483648
  set { st with randState := next }
  pure (Float.ofNat next / 2147483648)

/-- Arithmetic on numbers; division follows the floating-point rules, so dividing by
zero gives an infinity or not-a-number. -/
def arithmetic (op : Arith) (x y : Float) : Float :=
  match op with
  | .add => x + y
  | .sub => x - y
  | .mul => x * y
  | .div => x / y
  | .mod => remainder x y
  | .pow => Float.pow x y

mutual

/-- Evaluate an expression. -/
def eval : Expr → Nat → Run μ Value
  | _, 0 => runtimeError "function call nesting too deep"
  | e, fuel + 1 => do
    match e with
    | .num v => pure (.num v)
    | .str s => pure (.str s)
    | .regex _ p => do
      let r := (← get).record
      pure (.num (if p.found (toBytes r) then 1 else 0))
    | .var n => getVar n
    | .field i => do
      let n := clampInt (← eval i fuel).toNum
      if n < 0 then runtimeError s!"negative field index ${n}"
      getField n.toNat
    | .index n subs => do
      let id ← arrayOf n
      let key ← keyOf (← evalList subs fuel)
      getElement id key
    | .group e => eval e fuel
    | .grouping es => do
      let vs ← evalList es fuel
      pure (.str (← keyOf vs).toText)
    | .assign op target value => do
      let v ← eval value fuel
      let v ← match op with
        | none => pure v
        | some op => do
          let old ← eval target fuel
          pure (.num (arithmetic op old.toNum v.toNum))
      let v := match v with
        | .uninit => Value.uninit
        | other => other
      assignTo target v fuel
      pure v
    | .cond c a b => do
      if (← eval c fuel).truth then eval a fuel else eval b fuel
    | .and a b => do
      if (← eval a fuel).truth then pure (.num (if (← eval b fuel).truth then 1 else 0)) else pure (.num 0)
    | .or a b => do
      if (← eval a fuel).truth then pure (.num 1) else pure (.num (if (← eval b fuel).truth then 1 else 0))
    | .arith op a b => do
      let x := (← eval a fuel).toNum
      let y := (← eval b fuel).toNum
      pure (.num (arithmetic op x y))
    | .compare rel a b => do
      let x ← eval a fuel
      let y ← eval b fuel
      let o := Value.compareWith (← convfmt) x y
      let r : Bool := match rel with
        | .lt => o == .lt
        | .le => o != .gt
        | .eq => o == .eq
        | .ne => o != .eq
        | .gt => o == .gt
        | .ge => o != .lt
      pure (.num (if r then 1 else 0))
    | .concat a b => do
      let x ← textOf (← eval a fuel)
      let y ← textOf (← eval b fuel)
      pure (.str (x ++ y))
    | .not a => do pure (.num (if (← eval a fuel).truth then 0 else 1))
    | .neg a => do pure (.num (-(← eval a fuel).toNum))
    | .plus a => do pure (.num (← eval a fuel).toNum)
    | .matches negated subject pat => do
      let s ← textOf (← eval subject fuel)
      let p ← patternOf pat fuel
      let hit := p.found (toBytes s)
      pure (.num (if hit != negated then 1 else 0))
    | .step pre delta target => do
      let old := (← eval target fuel).toNum
      assignTo target (.num (old + delta)) fuel
      pure (.num (if pre then old + delta else old))
    | .inArray subs name => do
      let id ← arrayOf name
      let key ← keyOf (← evalList subs fuel)
      let found ← withTable id fun a => a.holds key
      pure (.num (if found then 1 else 0))
    | .builtin f args => callBuiltin f args fuel
    | .call name args => callFunction name args fuel
    | .getline source target from_ => do
      match source with
      | .main =>
        match ← nextMainRecord 1000000 with
        | none => pure (.num 0)
        | some r =>
          countRecord
          match target with
          | some t => assignTo t (.strnum r) fuel
          | none => setRecord r
          pure (.num 1)
      | _ =>
        let name ← match from_ with
          | some f => textOf (← eval f fuel)
          | none => pure ""
        match ← readFrom source name with
        | none => pure (.num (-1))
        | some none => pure (.num 0)
        | some (some r) =>
          if source == .command then countRecord
          match target with
          | some t => assignTo t (.strnum r) fuel
          | none => setRecord r
          pure (.num 1)

/-- Evaluate expressions in order. -/
def evalList : List Expr → Nat → Run μ (List Value)
  | [], _ => pure []
  | _, 0 => pure []
  | e :: rest, fuel + 1 => do
    let v ← eval e fuel
    let vs ← evalList rest fuel
    pure (v :: vs)

/-- The pattern an expression stands for: a written pattern, or its value as text. -/
def patternOf : Expr → Nat → Run μ Compiled
  | _, 0 => runtimeError "function call nesting too deep"
  | e, fuel + 1 => do
    match e with
    | .regex _ p => pure p
    | other => dynamicPattern (← textOf (← eval other fuel))

/-- Assign to a variable, a field or an element. -/
def assignTo : Expr → Value → Nat → Run μ Unit
  | _, _, 0 => pure ()
  | target, v, fuel + 1 => do
    match target with
    | .var n => setVar n v
    | .field i =>
      let n := clampInt (← eval i fuel).toNum
      if n < 0 then runtimeError s!"negative field index ${n}"
      setField n.toNat (← textOf v)
    | .index n subs =>
      let id ← arrayOf n
      let key ← keyOf (← evalList subs fuel)
      setElement id key v
    | .group e => assignTo e v fuel
    | _ => pure ()

/-- A built-in function. -/
def callBuiltin : Builtin → List Expr → Nat → Run μ Value
  | _, _, 0 => runtimeError "function call nesting too deep"
  | f, args, fuel + 1 => do
    let num (i : Nat) : Run μ Float := do
      match args[i]? with
      | some a => pure (← eval a fuel).toNum
      | none => pure 0
    let text (i : Nat) : Run μ String := do
      match args[i]? with
      | some a => textOf (← eval a fuel)
      | none => pure ""
    match f with
    | .length =>
      match args with
      | [] => pure (.num (ofInt (← get).record.length))
      | [.var n] =>
        match ← cellOf n with
        | some (.array id) => pure (.num (ofInt ((((← get).arrays[id]?).map (·.size)).getD 0)))
        | _ => pure (.num (ofInt (← textOf (← getVar n)).length))
      | _ => pure (.num (ofInt (← text 0).length))
    | .substr =>
      let s ← text 0
      let m ← num 1
      let len := s.length
      let start : Int := truncate (Float.floor (m + 0.5))
      let stop : Int ← if args.length ≥ 3 then do
          let n ← num 2
          if n.isNaN then pure start else
          pure (if n.isInf then (if n > 0 then (len : Int) + 1 else start) else start + truncate (Float.floor (n + 0.5)))
        else pure ((len : Int) + 1)
      let a := max start 1
      let b := min stop ((len : Int) + 1)
      if b ≤ a then pure (.str "")
      else pure (.str (String.ofList ((s.toList.drop (a - 1).toNat).take (b - a).toNat)))
    | .index =>
      let s ← text 0
      let t ← text 1
      if t.isEmpty then pure (.num 0)
      else
        let sl := s.toList
        let tl := t.toList
        let pos := (List.range (sl.length + 1)).find? fun i => (sl.drop i).take tl.length == tl
        pure (.num (ofInt (match pos with
          | some i => if i + tl.length ≤ sl.length then i + 1 else 0
          | none => 0)))
    | .split =>
      let s ← text 0
      match (args[1]? : Option Expr) with
      | some (.var name) =>
        let (fs, pat) ← match (args[2]? : Option Expr) with
          | some (.regex _ p) => pure ("  ", some p)
          | some e => do
            let fs ← textOf (← eval e fuel)
            pure (fs, ← separatorPattern fs)
          | none => do
            let fs := (← get).globalText "FS"
            pure (fs, ← separatorPattern fs)
        let parts := splitBy fs pat false s
        let id ← arrayOf name
        withTable id fun _ => (Table.ofParts parts, ())
        pure (.num (ofInt parts.length))
      | _ => runtimeError "split: second argument is not an array"
    | .sub | .gsub =>
      let p ← match args[0]? with
        | some e => patternOf e fuel
        | none => runtimeError "sub: missing arguments"
      let repl ← text 1
      let target := (args[2]?).getD (.field (.num 0))
      let s ← textOf (← eval target fuel)
      let (out, n) := replaceMatches p repl s (f == .gsub)
      if n > 0 then assignTo target (.str out) fuel
      pure (.num (ofInt n))
    | .match =>
      let s ← text 0
      let p ← match args[1]? with
        | some e => patternOf e fuel
        | none => runtimeError "match: missing arguments"
      match p.search { bytes := toBytes s } 0 with
      | some f =>
        setGlobal "RSTART" (.num (ofInt (f.start + 1)))
        setGlobal "RLENGTH" (.num (ofInt (f.stop - f.start)))
        pure (.num (ofInt (f.start + 1)))
      | none =>
        setGlobal "RSTART" (.num 0)
        setGlobal "RLENGTH" (.num (-1))
        pure (.num 0)
    | .sprintf =>
      let vs ← evalList args fuel
      match vs with
      | [] => pure (.str "")
      | fmtV :: rest =>
        let fmt ← textOf fmtV
        match format fmt (← convfmt) rest with
        | .ok s => pure (.str s)
        | .error _ => runtimeError s!"not enough arguments passed to sprintf(\"{fmt}\")"
    | .sin => pure (.num (Float.sin (← num 0)))
    | .cos => pure (.num (Float.cos (← num 0)))
    | .atan2 => pure (.num (Float.atan2 (← num 0) (← num 1)))
    | .exp => pure (.num (Float.exp (← num 0)))
    | .log => pure (.num (Float.log (← num 0)))
    | .sqrt => pure (.num (Float.sqrt (← num 0)))
    | .int =>
      let x ← num 0
      pure (.num (if x.isNaN || x.isInf then x else ofInt (truncate x)))
    | .rand => pure (.num (← nextRandom))
    | .srand =>
      let old := (← get).seed
      let s ← if args.isEmpty then pure (Float.ofNat (← Sys.now (μ := μ)) / 1000000) else num 0
      modify fun st => { st with seed := s, randState := (truncate s).natAbs % 2147483648 }
      pure (.num old)
    | .tolower => pure (.str (String.ofList ((← text 0).toList.map Char.toLower)))
    | .toupper => pure (.str (String.ofList ((← text 0).toList.map Char.toUpper)))
    | .system =>
      let cmd ← text 0
      let (status, _) ← runCommand cmd false
      pure (.num (ofInt status))
    | .close =>
      let name ← text 0
      pure (.num (ofInt (← closeNamed name)))
    | .fflush =>
      flushOutputs
      pure (.num 0)

/-- Call a function defined by the program. -/
def callFunction : String → List Expr → Nat → Run μ Value
  | _, _, 0 => runtimeError "function call nesting too deep"
  | name, args, fuel + 1 => do
    match (← get).functions.find? (·.name == name) with
    | none => runtimeError s!"function {name} never defined"
    | some fn =>
      -- arrays are passed by reference, everything else by value
      let mut frame : Std.HashMap String Cell := {}
      for (p, i) in fn.params.zipIdx do
        match args[i]? with
        | some (.var n) =>
          match ← cellOf n with
          | some (.array id) => frame := frame.insert p (.array id)
          | _ => frame := frame.insert p (.scalar (← getVar n))
        | some a => frame := frame.insert p (.scalar (← eval a fuel))
        | none => frame := frame.insert p (.scalar .uninit)
      let saved := (← get).frame
      modify fun st => { st with frame := some frame }
      let flow ← exec fn.body fuel
      modify fun st => { st with frame := saved }
      match flow with
      | .ret v => pure v
      | .exit =>
        modify fun st => { st with exiting := true }
        pure .uninit
      | _ => pure .uninit

/-- Run a statement. -/
def exec : Stmt → Nat → Run μ Flow
  | _, 0 => runtimeError "function call nesting too deep"
  | s, fuel + 1 => do
    match s with
    | .expr e =>
      let _ ← eval e fuel
      pure (if (← get).exiting then .exit else .normal)
    | .print args dest =>
      let d ← destination dest fuel
      let vs ← if args.isEmpty then pure [Value.strnum (← get).record] else evalList args fuel
      let parts ← vs.mapM outputText
      let st ← get
      emitTo d ((st.globalText "OFS").intercalate parts ++ st.globalText "ORS")
      pure .normal
    | .printf args dest =>
      let d ← destination dest fuel
      let vs ← evalList args fuel
      match vs with
      | [] => pure .normal
      | fmtV :: rest =>
        let fmt ← textOf fmtV
        match format fmt (← convfmt) rest with
        | .ok s => emitTo d s; pure .normal
        | .error _ => runtimeError s!"not enough arguments passed to printf(\"{fmt}\")"
    | .ifElse c yes no =>
      if (← eval c fuel).truth then exec yes fuel
      else match no with
        | some n => exec n fuel
        | none => pure .normal
    | .while c body =>
      let mut result := Flow.normal
      for _ in [0:loopLimit] do
        if !(← eval c fuel).truth then break
        match ← exec body fuel with
        | .brk => break
        | .normal | .cont => pure ()
        | other => result := other; break
      pure result
    | .doWhile body c =>
      let mut result := Flow.normal
      for _ in [0:loopLimit] do
        match ← exec body fuel with
        | .brk => break
        | .normal | .cont => pure ()
        | other => result := other; break
        if !(← eval c fuel).truth then break
      pure result
    | .loop init test step body =>
      if let some i := init then let _ ← exec i fuel
      let mut result := Flow.normal
      for _ in [0:loopLimit] do
        if let some t := test then
          if !(← eval t fuel).truth then break
        match ← exec body fuel with
        | .brk => break
        | .normal | .cont => pure ()
        | other => result := other; break
        if let some st := step then let _ ← exec st fuel
      pure result
    | .forIn var arr body =>
      let id ← arrayOf arr
      let keys ← withTable id Table.keys
      let mut result := Flow.normal
      for k in keys do
        setVar var (.str k)
        match ← exec body fuel with
        | .brk => break
        | .normal | .cont => pure ()
        | other => result := other; break
      pure result
    | .block body => execList body fuel
    | .next => pure .next
    | .nextFile => pure .nextFile
    | .exit code =>
      if let some c := code then
        let v ← eval c fuel
        modify fun st => { st with exitCode := (clampInt v.toNum % 256).toNat }
      pure .exit
    | .ret v =>
      match v with
      | some e => pure (.ret (← eval e fuel))
      | none => pure (.ret .uninit)
    | .brk => pure .brk
    | .cont => pure .cont
    | .delete name subs =>
      let id ← arrayOf name
      match subs with
      | none => withTable id fun _ => (Table.cleared, ())
      | some ss =>
        let key ← keyOf (← evalList ss fuel)
        withTable id fun a => (a.erase key, ())
      pure .normal

/-- Run statements in order until one does not end normally. -/
def execList : List Stmt → Nat → Run μ Flow
  | [], _ => pure .normal
  | _, 0 => pure .normal
  | s :: rest, fuel + 1 => do
    match ← exec s fuel with
    | .normal => if (← get).exiting then pure .exit else execList rest fuel
    | other => pure other

/-- Where print output goes. -/
def destination : Option Redirect → Nat → Run μ (Option (OutKind × String))
  | none, _ => pure none
  | _, 0 => pure none
  | some r, fuel + 1 => do
    match r with
    | .file e => pure (some (.file, ← textOf (← eval e fuel)))
    | .append e => pure (some (.append, ← textOf (← eval e fuel)))
    | .pipe e => pure (some (.pipe, ← textOf (← eval e fuel)))

end

end PseudoTerm.Awk
