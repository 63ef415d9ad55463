import PseudoTerm.Awk.Interp

/-!
# The awk utility

`awk [-F fs] [-v name=value] [-f file | 'program'] [--] [operand...]`: the options come
first (a value may be glued to its letter); the program is the text of the `-f` files
joined, else the first operand.  The other operands become `ARGV`.

The `BEGIN` actions run first; the main input is read only when there are other rules
or `END` actions.  Each record goes through the rules in order; `next` passes to the
next record and `exit` to the `END` actions (an `exit` there ends at once).  Outputs to
files and commands are finished last, and the exit status is the one `exit` gave.

A syntax error reports its line and ends with status 2, as do misuses.
-/

namespace PseudoTerm.Awk

open PseudoTerm.Machine PseudoTerm.Programs PseudoTerm.Text Tool

variable {μ : Type}

/-- What the options ask for. -/
structure Startup where
  separator : Option String := none
  assignments : List String := []
  sources : List String := []
  operands : List String := []
  deriving Inhabited

/-- A misused option. -/
inductive StartProblem where
  | missingValue (letter : Char)
  | notOption (arg : String)
  deriving Inhabited

/-- Read the options: they end at `--`, at `-` or at the first word not starting with a
dash. -/
def readStartup : List String → Startup → Nat → Except StartProblem Startup
  | args, s, 0 => .ok { s with operands := args }
  | [], s, _ => .ok s
  | a :: rest, s, fuel + 1 =>
    if a == "--" then .ok { s with operands := rest }
    else
      match a.toList with
      | '-' :: letter :: glued =>
        if letter == 'F' || letter == 'v' || letter == 'f' || letter == 'W' then
          let (value, rest) := if glued.isEmpty then (rest.head?, rest.drop 1) else (some (String.ofList glued), rest)
          match value with
          | none => .error (.missingValue letter)
          | some v =>
            let s := match letter with
              | 'F' => { s with separator := some v }
              | 'v' => { s with assignments := s.assignments ++ [v] }
              | 'f' => { s with sources := s.sources ++ [v] }
              | _ => s
            readStartup rest s fuel
        else .error (.notOption a)
      | _ => .ok { s with operands := a :: rest }

/-- The usage lines. -/
def usageText (name : String) : String :=
  s!"usage: {name} [-F value] [-v var=value] [--] 'program text' [file ...]\n" ++
  s!"usage: {name} [-F value] [-v var=value] [-f program-file] [--] [file ...]\n"

/-- An array of strings by their keys, made in order. -/
def arrayOfPairs (pairs : List (Key × String)) : Table :=
  pairs.foldl (fun t (k, v) => t.set k (.strnum v)) {}

/-- The state a program starts in. -/
def startState (prog : Program) (name : String) (env : List String) (operands : List String)
    (fs : String) : Interp :=
  let argv := arrayOfPairs ((name :: operands).zipIdx.map fun (a, i) => (.int i, ofText a))
  let environ := arrayOfPairs (env.map fun e =>
    match e.splitOn "=" with
    | k :: v => (.text (ofText k), ofText (String.intercalate "=" v))
    | [] => (.text e, ""))
  let scalars : List (String × Value) :=
    [("FS", .str fs), ("OFS", .str " "), ("ORS", .str "\n"), ("RS", .str "\n"),
     ("SUBSEP", .str "\x1c"), ("CONVFMT", .str "%.6g"), ("OFMT", .str "%.6g"),
     ("NR", .num 0), ("NF", .num 0), ("FNR", .num 0), ("FILENAME", .str ""),
     ("RSTART", .num 0), ("RLENGTH", .num (-1)), ("ARGC", .num (ofInt (operands.length + 1)))]
  let globals : Std.HashMap String Cell :=
    scalars.foldl (fun m (k, v) => m.insert k (.scalar v)) {}
  { globals := (globals.insert "ARGV" (.array 0)).insert "ENVIRON" (.array 1),
    arrays := #[argv, environ], functions := prog.functions,
    ranges := Array.replicate prog.rules.length false, env }

/-- Whether a rule selects the current record; a range remembers whether it is open. -/
def selects (index : Nat) (pattern : RulePattern) : Run μ Bool := do
  match pattern with
  | .always => pure true
  | .when e => pure (← eval e depthLimit).truth
  | .range first last =>
    let open_ := ((← get).ranges[index]?).getD false
    if open_ then
      if (← eval last depthLimit).truth then
        modify fun st => { st with ranges := st.ranges.set! index false }
      pure true
    else if (← eval first depthLimit).truth then
      if !(← eval last depthLimit).truth then
        modify fun st => { st with ranges := st.ranges.set! index true }
      pure true
    else pure false
  | _ => pure false

/-- Run the actions of some rules in order; answers whether `exit` ran. -/
def runActions (rules : List Rule) : Run μ Bool := do
  for r in rules do
    if let some a := r.action then
      if let .exit := ← exec a depthLimit then return true
  return false

/-- The most records read. -/
def recordLimit : Nat := 100000000

/-- Read the main input through the rules; answers whether `exit` ran. -/
def mainLoop (rules : List (Nat × Rule)) : Run μ Bool := do
  for _ in [0:recordLimit] do
    match ← nextMainRecord recordLimit with
    | none => return false
    | some r =>
      countRecord
      setRecord r
      for (i, rule) in rules do
        if ← selects i rule.pattern then
          match ← exec (rule.action.getD (.print [] none)) depthLimit with
          | .next => break
          | .nextFile =>
            modify fun st => { st with current := none }
            break
          | .exit => return true
          | _ => pure ()
  return false

/-- Run a program: `BEGIN`, the main input, `END`, then finish the outputs. -/
def runProgram (prog : Program) : Run μ Unit := do
  let begins := prog.rules.filter fun r => match r.pattern with | .begin => true | _ => false
  let ends := prog.rules.filter fun r => match r.pattern with | .finish => true | _ => false
  let mains := prog.rules.zipIdx.filterMap fun (r, i) =>
    match r.pattern with
    | .begin | .finish => none
    | _ => some (i, r)
  let exited ← runActions begins
  if !exited && !(mains.isEmpty && ends.isEmpty) then
    let _ ← mainLoop mains
  let _ ← runActions ends
  closeAll

/-- `awk`: run a program over the operands. -/
def awkProgram (inv : Invocation) : Prog μ Unit := Tool.run inv do
  let name := inv.args.headD "awk"
  let usage {α : Type} (first : String) : Tool μ α := do
    flush
    Sys.print (μ := μ) 2 (first ++ usageText name)
    modify fun s => { s with status := 2 }
    finish
  let args := inv.args.drop 1
  let start ← match readStartup args {} (args.length + 1) with
    | .ok s => pure s
    | .error (.missingValue c) => usage s!"{name}: option requires an argument -- {c}\n"
    | .error (.notOption a) => fail s!"not an option {a}" 2
  let mut text := ""
  let mut operands := start.operands
  if start.sources.isEmpty then
    match operands with
    | p :: rest => text := p; operands := rest
    | [] => usage ""
  else
    let mut pieces : List String := []
    for path in start.sources do
      match ← openInput path with
      | .error e => fail s!"couldn't open file {path} ({e.sentence})" 2
      | .ok fd =>
        let (data, _) ← readAll fd
        closeInput fd
        pieces := pieces ++ [ofBytes data]
    text := "\n".intercalate pieces
  let program := if start.sources.isEmpty then ofText text else text
  match parseProgram program with
  | .error e => fail s!"line {e.line}: {e.message}" 2
  | .ok prog =>
    let fs := match start.separator with
      | some f => let f := ofText f; unescapeValue f.toList (f.length + 1)
      | none => " "
    let st := startState prog name inv.env operands fs
    let body : Run μ Unit := do
      for a in start.assignments do
        match a.splitOn "=" with
        | n :: v :: more =>
          if isName n then
            let v := ofText (String.intercalate "=" (v :: more))
            setVar n (.strnum (unescapeValue v.toList (v.length + 1)))
          else monadLift (fail (μ := μ) s!"improper assignment: -v {a}" 2)
        | _ => monadLift (fail (μ := μ) s!"improper assignment: -v {a}" 2)
      runProgram prog
    let (_, final) ← body.run st
    modify fun s => { s with status := final.exitCode }

end PseudoTerm.Awk
