import PseudoTerm.Programs.Tool
import PseudoTerm.Pattern.Compile
import PseudoTerm.Pattern.Search

/-!
# Evaluating expressions: `expr`

`expr` evaluates the expression its arguments spell, one token an argument, and writes
the value.  From the loosest binding: `|` (the left value unless it is null, else the
right, else 0), `&` (the left value unless either is null, else 0), the comparisons
`< <= = == != >= >` (as integers when both sides are integers, else as bytes; 1 or 0),
`+ -`, `* / %` (on integers of any size, division towards zero), `:` (the pattern on the
right matched at the start of the left: the bytes of its first group, or the length of
the match), and the keywords `match`, `substr`, `index`, `length` and the quoting `+`;
parentheses group.  The value is null when it is empty or a zero such as `0`, `-0` or
`00`; the status is then 1, else 0, and 2 after a problem.
-/

namespace PseudoTerm.Programs

open PseudoTerm.Machine PseudoTerm.Text PseudoTerm.Pattern Tool

variable {μ : Type}

namespace Expression

/-- A value: an integer or a string. -/
inductive Value where
  | int (i : Int)
  | text (s : String)
  deriving DecidableEq, Repr, Inhabited

/-- What can go wrong in an expression. -/
inductive ExprError where
  | malformed
  | missingAfter (token : String)
  | closeAfter (token : String)
  | closeInstead (token : String)
  | unexpectedClose
  | unexpected (token : String)
  | nonInteger
  | divisionByZero
  | pattern (e : PatternError)
  deriving Repr, Inhabited

/-- The message of a problem. -/
def ExprError.message : ExprError → String
  | .malformed => "syntax error"
  | .missingAfter t => s!"syntax error: missing argument after {mention t}"
  | .closeAfter t => s!"syntax error: expecting ')' after {mention t}"
  | .closeInstead t => s!"syntax error: expecting ')' instead of {mention t}"
  | .unexpectedClose => "syntax error: unexpected ')'"
  | .unexpected t => s!"syntax error: unexpected argument {mention t}"
  | .nonInteger => "non-integer argument"
  | .divisionByZero => "division by zero"
  | .pattern e => e.message

/-- Whether a string is an integer: an optional `-` and digits. -/
def looksInteger (s : String) : Bool :=
  let body := if s.startsWith "-" then (s.drop 1).toString else s
  !body.isEmpty && body.all Char.isDigit

/-- The integer a string spells, when it spells one. -/
def readInteger (s : String) : Option Int :=
  if looksInteger s then
    if s.startsWith "-" then ((s.drop 1).toString.toNat?).map fun n => -(n : Int) else (s.toNat?).map (·)
  else none

/-- The text of a value. -/
def Value.show : Value → String
  | .int i => toString i
  | .text s => s

/-- The integer of a value, when it has one. -/
def Value.integer? : Value → Option Int
  | .int i => some i
  | .text s => readInteger s

/-- Whether a value is null: empty, or a zero. -/
def Value.null : Value → Bool
  | .int i => i == 0
  | .text s =>
    let body := if s.startsWith "-" then (s.drop 1).toString else s
    s.isEmpty || (!body.isEmpty && body.all (· == '0'))

/-- The integer 1 or 0 of a truth. -/
def truth (b : Bool) : Value := .int (if b then 1 else 0)

/-- The written form of patterns after `:`. -/
def dialect : Dialect := { extended := false, leadingRepeat := .literal, leadingCount := .literal }

/-- Match a pattern at the start of a string: the first group's bytes, or the length of
the match. -/
def colon (subject patternText : String) : Except ExprError Value := do
  let p ← (compile dialect patternText.toUTF8.toList).mapError .pattern
  let bytes := subject.toUTF8
  match p.matchAt { bytes } 0 with
  | some f =>
    if p.groups > 0 then
      match f.group 1 with
      | some (a, b) => pure (.text (String.fromUTF8? (bytes.extract a b) |>.getD ""))
      | none => pure (.text "")
    else pure (.int f.stop)
  | none => pure (if p.groups > 0 then .text "" else .int 0)

/-- The bytes of a string as text again, each byte a character where they are not UTF-8. -/
def bytesText (bs : List UInt8) : String :=
  match String.fromUTF8? (ByteArray.mk bs.toArray) with
  | some s => s
  | none => String.ofList (bs.map fun b => Char.ofNat b.toNat)

/-- The bytes of a string from a position (from 1) of a length, empty when out of range. -/
def substring (s : String) (pos len : Value) : Value :=
  match pos.integer?, len.integer? with
  | some p, some l =>
    let bytes := s.toUTF8.toList
    if p ≤ 0 || l ≤ 0 || bytes.length < p.toNat then .text ""
    else .text (bytesText ((bytes.drop (p.toNat - 1)).take l.toNat))
  | _, _ => .text ""

/-- The position (from 1) of the first byte of a string that is in another, or 0. -/
def indexOf (s chars : String) : Value :=
  let set := chars.toUTF8.toList
  match s.toUTF8.toList.zipIdx.find? (fun (c, _) => set.contains c) with
  | some (_, i) => .int (i + 1)
  | none => .int 0

/-- The last token taken from `before` to leave `after`. -/
def lastTaken (before after : List String) : String :=
  (before.take (before.length - after.length)).getLastD ""

/-- The binding levels of the operators, loosest first. -/
inductive Level where
  | either
  | both
  | compare
  | sum
  | product
  | colon
  | keyword
  | operand
  deriving DecidableEq, Repr, Inhabited

/-- The next tighter level. -/
def Level.next : Level → Level
  | .either => .both
  | .both => .compare
  | .compare => .sum
  | .sum => .product
  | .product => .colon
  | .colon => .keyword
  | .keyword => .operand
  | .operand => .operand

/-- The operators of a level. -/
def Level.operators : Level → List String
  | .either => ["|"]
  | .both => ["&"]
  | .compare => ["<", "<=", "=", "==", "!=", ">=", ">"]
  | .sum => ["+", "-"]
  | .product => ["*", "/", "%"]
  | .colon => [":"]
  | _ => []

/-- Apply a binary operator; `evaluate` is off on a side that is not needed. -/
def apply (op : String) (l r : Value) (evaluate : Bool) : Except ExprError Value :=
  match op with
  | "|" => pure (if !l.null then l else if r.null then .int 0 else r)
  | "&" => pure (if l.null || r.null then .int 0 else l)
  | ":" => if evaluate then colon l.show r.show else pure l
  | "+" | "-" | "*" | "/" | "%" =>
    if !evaluate then pure l else
    match l.integer?, r.integer? with
    | some a, some b =>
      match op with
      | "+" => pure (.int (a + b))
      | "-" => pure (.int (a - b))
      | "*" => pure (.int (a * b))
      | "/" => if b == 0 then throw .divisionByZero else pure (.int (a.tdiv b))
      | _ => if b == 0 then throw .divisionByZero else pure (.int (a.tmod b))
    | _, _ => throw .nonInteger
  | _ =>
    if !evaluate then pure l else
    let ls := l.show
    let rs := r.show
    let order : Ordering := match readInteger ls, readInteger rs with
      | some a, some b => compare a b
      | _, _ => compare ls rs
    pure <| truth <| match op with
      | "<" => order == .lt
      | "<=" => order != .gt
      | "=" | "==" => order == .eq
      | "!=" => order != .eq
      | ">=" => order != .lt
      | _ => order == .gt

/-- Evaluate at a level from the tokens: the value and the tokens left.  The previous
token is kept for messages. -/
def eval (level : Level) (evaluate : Bool) (prev : String) : List String → Nat →
    Except ExprError (Value × List String)
  | _, 0 => throw .malformed
  | tokens, fuel + 1 =>
    match level with
    | .operand =>
      match tokens with
      | [] => throw (.missingAfter prev)
      | "(" :: rest => do
        let (v, after) ← eval .either evaluate "(" rest fuel
        match after with
        | [] => throw (.closeAfter (lastTaken rest after))
        | ")" :: more => pure (v, more)
        | t :: _ => throw (.closeInstead t)
      | ")" :: _ => throw .unexpectedClose
      | t :: rest => pure (.text t, rest)
    | .keyword =>
      match tokens with
      | "+" :: rest =>
        match rest with
        | [] => throw .malformed
        | t :: more => pure (.text t, more)
      | "length" :: rest => do
        let (v, after) ← eval .keyword evaluate "length" rest fuel
        pure (.int v.show.toUTF8.size, after)
      | "match" :: rest => do
        let (l, after) ← eval .keyword evaluate "match" rest fuel
        let (r, after) ← eval .keyword evaluate (lastTaken rest after) after fuel
        if evaluate then pure (← colon l.show r.show, after) else pure (l, after)
      | "index" :: rest => do
        let (l, after) ← eval .keyword evaluate "index" rest fuel
        let (r, after) ← eval .keyword evaluate (lastTaken rest after) after fuel
        pure (indexOf l.show r.show, after)
      | "substr" :: rest => do
        let (l, after1) ← eval .keyword evaluate "substr" rest fuel
        let (p, after2) ← eval .keyword evaluate (lastTaken rest after1) after1 fuel
        let (n, after3) ← eval .keyword evaluate (lastTaken after1 after2) after2 fuel
        pure (substring l.show p n, after3)
      | _ => eval .operand evaluate prev tokens fuel
    | _ => do
      let (l, after) ← eval level.next evaluate prev tokens fuel
      loop l after fuel
where
  /-- The operators of the level, one after another, left to right. -/
  loop (l : Value) : List String → Nat → Except ExprError (Value × List String)
    | tokens, 0 => pure (l, tokens)
    | [], _ => pure (l, [])
    | op :: rest, fuel + 1 =>
      if level.operators.contains op then do
        let rightNeeded := match op with
          | "|" => evaluate && l.null
          | "&" => evaluate && !l.null
          | _ => evaluate
        let (r, after) ← eval level.next rightNeeded op rest fuel
        let v ← apply op l r rightNeeded
        let v := if op == "|" && !evaluate then l else v
        loop v after fuel
      else pure (l, op :: rest)

/-- Evaluate a whole expression. -/
def evaluate (tokens : List String) : Except ExprError Value := do
  let (v, rest) ← eval .either true "" tokens (10 * (tokens.length + 2))
  match rest with
  | [] => pure v
  | t :: _ => throw (.unexpected t)

end Expression

open Expression in
/-- `expr`. -/
def exprProgram (inv : Invocation) : Prog μ Unit := Tool.run inv do
  let args := inv.args.drop 1
  let args := match args with
    | "--" :: rest => rest
    | _ => args
  if args.isEmpty then misuse "missing operand" 2
  match evaluate args with
  | .ok v =>
    say (v.show ++ "\n")
    modify fun s => { s with status := if v.null then 1 else 0 }
  | .error e => fail e.message 2

end PseudoTerm.Programs
