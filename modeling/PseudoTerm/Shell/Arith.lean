/-!
# Shell arithmetic

The expressions of `$(( … ))`: signed 64-bit integers that wrap, decimal, octal
(leading `0`) and hexadecimal (`0x`) numbers, variables by name (unset or empty is
zero), and the operators of C with their precedence: assignment (`=`, `+=`, …,
right to left), `?:`, `||`, `&&`, `|`, `^`, `&`, `==` `!=`, `<` `<=` `>` `>=`, `<<`
`>>`, `+` `-`, `*` `/` `%`, and the unary `+ - ! ~`.  Division truncates toward zero;
dividing by zero is an error.  The branch that `&&`, `||` or `?:` skips is read but
neither evaluated for errors nor allowed to assign.
-/

namespace PseudoTerm.Shell

/-- A token of an arithmetic expression. -/
inductive ArithToken where
  | number (v : Int)
  | name (s : String)
  | op (s : String)
  deriving Repr, Inhabited, BEq

/-- Why an arithmetic expression failed. -/
inductive ArithError where
  | expectingPrimary
  | expectingEnd
  | divisionByZero
  | notANumber (name : String)
  deriving Repr, Inhabited, BEq

/-- The shell's words for an arithmetic failure in expression `expr`. -/
def ArithError.message (e : ArithError) (expr : String) : String :=
  match e with
  | .expectingPrimary => s!"arithmetic expression: expecting primary: \"{expr}\""
  | .expectingEnd => s!"arithmetic expression: expecting EOF: \"{expr}\""
  | .divisionByZero => s!"arithmetic expression: division by zero: \"{expr}\""
  | .notANumber _ => s!"Illegal number: {expr}"

namespace Arith

/-- Wrap to a signed 64-bit value. -/
def wrap (x : Int) : Int := Int.bmod x (Nat.pow 2 64)

/-- The value of a digit in base 16, if it is one. -/
def digitValue (c : Char) : Option Nat :=
  if c.isDigit then some (c.toNat - '0'.toNat)
  else if 'a' ≤ c && c ≤ 'f' then some (c.toNat - 'a'.toNat + 10)
  else if 'A' ≤ c && c ≤ 'F' then some (c.toNat - 'A'.toNat + 10)
  else none

/-- Read the longest number at the front, in the base its prefix gives (`0x` sixteen,
`0` eight, else ten); answers the value and the rest, or nothing when no digit starts
it. -/
def readNumber (cs : List Char) : Option (Int × List Char) :=
  let (base, body) : Nat × List Char := match cs with
    | '0' :: 'x' :: r | '0' :: 'X' :: r => (16, r)
    | '0' :: r => (8, '0' :: r)
    | r => (10, r)
  let digits := body.takeWhile fun c => (digitValue c).any (· < base)
  if digits.isEmpty then
    if base == 16 then some (0, cs.drop 1) else none
  else
    let v := digits.foldl (fun acc c => acc * base + (digitValue c).getD 0) 0
    some (wrap v, body.drop digits.length)

/-- The value of a variable's text: a number with an optional sign and blanks around,
or zero when empty. -/
def valueOf (name text : String) : Except ArithError Int :=
  let cs := text.toList.dropWhile (fun c => c == ' ' || c == '\t' || c == '\n')
  if cs.isEmpty then .ok 0
  else
    let (neg, cs) := match cs with
      | '-' :: r => (true, r)
      | '+' :: r => (false, r)
      | r => (false, r)
    match readNumber cs with
    | some (v, rest) =>
      if rest.all (fun c => c == ' ' || c == '\t' || c == '\n') then .ok (if neg then wrap (-v) else v)
      else .error (.notANumber name)
    | none => .error (.notANumber name)

/-- The operators, longest first. -/
def operators : List String :=
  ["<<=", ">>=", "<<", ">>", "<=", ">=", "==", "!=", "&&", "||", "+=", "-=", "*=", "/=", "%=",
   "&=", "^=", "|=", "<", ">", "=", "+", "-", "*", "/", "%", "&", "^", "|", "!", "~", "?", ":",
   "(", ")"]

/-- Split an expression into tokens. -/
def tokenize : Nat → List Char → Array ArithToken → Except ArithError (List ArithToken)
  | 0, _, acc => .ok acc.toList
  | _, [], acc => .ok acc.toList
  | fuel + 1, c :: rest, acc =>
    if c == ' ' || c == '\t' || c == '\n' then tokenize fuel rest acc
    else if c.isDigit then
      match readNumber (c :: rest) with
      | some (v, r) => tokenize fuel r (acc.push (.number v))
      | none => .error .expectingPrimary
    else if c.isAlpha || c == '_' then
      let name := (c :: rest).takeWhile fun d => d.isAlphanum || d == '_'
      tokenize fuel ((c :: rest).drop name.length) (acc.push (.name (String.ofList name)))
    else
      match operators.find? (fun op => op.toList.isPrefixOf (c :: rest)) with
      | some op => tokenize fuel ((c :: rest).drop op.length) (acc.push (.op op))
      | none => .error .expectingPrimary

/-- The state of evaluation: the tokens left and the assignments made, newest first. -/
structure EvalState where
  tokens : List ArithToken
  assigned : List (String × Int) := []

/-- Evaluation over a variable look-up. -/
abbrev EvalM := StateT EvalState (Except ArithError)

/-- The next token. -/
def peekTok : EvalM (Option ArithToken) := do return (← get).tokens.head?

/-- Drop the next token. -/
def skipTok : EvalM Unit := modify fun s => { s with tokens := s.tokens.drop 1 }

/-- Whether the next token is operator `o`. -/
def nextIs (o : String) : EvalM Bool := do return (← peekTok) == some (.op o)

/-- The value of a variable: the latest assignment, else its text. -/
def varValue (lookup : String → Option String) (name : String) : EvalM Int := do
  match (← get).assigned.find? (·.1 == name) with
  | some (_, v) => pure v
  | none =>
    match valueOf name ((lookup name).getD "") with
    | .ok v => pure v
    | .error e => throw e

/-- The 64 bits of a value in two's complement. -/
def bits (x : Int) : Nat := (x % Int.pow 2 64).toNat

/-- Apply a binary operator; `active` says whether its errors count. -/
def binary (active : Bool) (o : String) (a b : Int) : EvalM Int :=
  match o with
  | "+" => pure (wrap (a + b))
  | "-" => pure (wrap (a - b))
  | "*" => pure (wrap (a * b))
  | "/" => if b == 0 then (if active then throw .divisionByZero else pure 0) else pure (wrap (Int.tdiv a b))
  | "%" => if b == 0 then (if active then throw .divisionByZero else pure 0) else pure (wrap (Int.tmod a b))
  | "<<" => pure (wrap (a * Int.pow 2 (b % 64).toNat))
  | ">>" => pure (Int.fdiv a (Int.pow 2 (b % 64).toNat))
  | "<" => pure (if a < b then 1 else 0)
  | "<=" => pure (if a ≤ b then 1 else 0)
  | ">" => pure (if a > b then 1 else 0)
  | ">=" => pure (if a ≥ b then 1 else 0)
  | "==" => pure (if a == b then 1 else 0)
  | "!=" => pure (if a != b then 1 else 0)
  | "&" => pure (wrap ((bits a &&& bits b : Nat) : Int))
  | "|" => pure (wrap ((bits a ||| bits b : Nat) : Int))
  | "^" => pure (wrap ((bits a ^^^ bits b : Nat) : Int))
  | _ => pure 0

/-- The binary operators by level, loosest first. -/
def levels : List (List String) :=
  [["|"], ["^"], ["&"], ["==", "!="], ["<", "<=", ">", ">="], ["<<", ">>"], ["+", "-"], ["*", "/", "%"]]

mutual

/-- An assignment or a conditional expression. -/
def assignment (lookup : String → Option String) (active : Bool) : Nat → EvalM Int
  | 0 => throw .expectingPrimary
  | fuel + 1 => do
    let s ← get
    match s.tokens with
    | .name n :: .op o :: _ =>
      if o == "=" || (o.length ≥ 2 && o.endsWith "=" && o != "==" && o != "!=" && o != "<=" && o != ">=") then
        skipTok; skipTok
        let rhs ← assignment lookup active fuel
        let v ← if o == "=" then pure rhs
          else do
            let old ← varValue lookup n
            binary active (o.dropEnd 1).toString old rhs
        if active then modify fun s => { s with assigned := (n, v) :: s.assigned }
        pure v
      else conditional lookup active fuel
    | _ => conditional lookup active fuel

/-- `a ? b : c`. -/
def conditional (lookup : String → Option String) (active : Bool) : Nat → EvalM Int
  | 0 => throw .expectingPrimary
  | fuel + 1 => do
    let c ← logicalOr lookup active fuel
    if ← nextIs "?" then
      skipTok
      let a ← assignment lookup (active && c != 0) fuel
      if !(← nextIs ":") then throw .expectingPrimary
      skipTok
      let b ← conditional lookup (active && c == 0) fuel
      pure (if c != 0 then a else b)
    else pure c

/-- `a || b`. -/
def logicalOr (lookup : String → Option String) (active : Bool) : Nat → EvalM Int
  | 0 => throw .expectingPrimary
  | fuel + 1 => do
    let a ← logicalAnd lookup active fuel
    orRest lookup active fuel a

/-- The further operands of `||`. -/
def orRest (lookup : String → Option String) (active : Bool) : Nat → Int → EvalM Int
  | 0, a => pure a
  | fuel + 1, a => do
    if ← nextIs "||" then
      skipTok
      let b ← logicalAnd lookup (active && a == 0) fuel
      orRest lookup active fuel (if a != 0 || b != 0 then 1 else 0)
    else pure a

/-- `a && b`. -/
def logicalAnd (lookup : String → Option String) (active : Bool) : Nat → EvalM Int
  | 0 => throw .expectingPrimary
  | fuel + 1 => do
    let a ← binaryLevel lookup active fuel levels
    andRest lookup active fuel a

/-- The further operands of `&&`. -/
def andRest (lookup : String → Option String) (active : Bool) : Nat → Int → EvalM Int
  | 0, a => pure a
  | fuel + 1, a => do
    if ← nextIs "&&" then
      skipTok
      let b ← binaryLevel lookup (active && a != 0) fuel levels
      andRest lookup active fuel (if a != 0 && b != 0 then 1 else 0)
    else pure a

/-- The binary operators of the given levels, left to right within a level. -/
def binaryLevel (lookup : String → Option String) (active : Bool) : Nat → List (List String) → EvalM Int
  | 0, _ => throw .expectingPrimary
  | fuel + 1, [] => unary lookup active fuel
  | fuel + 1, ops :: tighter => do
    let a ← binaryLevel lookup active fuel tighter
    levelRest lookup active fuel ops tighter a

/-- The further operands at one level. -/
def levelRest (lookup : String → Option String) (active : Bool) :
    Nat → List String → List (List String) → Int → EvalM Int
  | 0, _, _, a => pure a
  | fuel + 1, ops, tighter, a => do
    match ← peekTok with
    | some (.op o) =>
      if ops.contains o then
        skipTok
        let b ← binaryLevel lookup active fuel tighter
        let v ← binary active o a b
        levelRest lookup active fuel ops tighter v
      else pure a
    | _ => pure a

/-- A unary operator and its operand, or a primary. -/
def unary (lookup : String → Option String) (active : Bool) : Nat → EvalM Int
  | 0 => throw .expectingPrimary
  | fuel + 1 => do
    match ← peekTok with
    | some (.op "-") => skipTok; let v ← unary lookup active fuel; pure (wrap (-v))
    | some (.op "+") => skipTok; unary lookup active fuel
    | some (.op "!") => skipTok; let v ← unary lookup active fuel; pure (if v == 0 then 1 else 0)
    | some (.op "~") => skipTok; let v ← unary lookup active fuel; pure (wrap (-v - 1))
    | some (.op "(") =>
      skipTok
      let v ← assignment lookup active fuel
      if !(← nextIs ")") then throw .expectingPrimary
      skipTok
      pure v
    | some (.number v) => skipTok; pure v
    | some (.name n) => skipTok; varValue lookup n
    | _ => throw .expectingPrimary

end

end Arith

/-- Evaluate an arithmetic expression over a variable look-up: its value and the
assignments it made, oldest first.  An empty expression is zero. -/
def evalArith (lookup : String → Option String) (expr : String) :
    Except ArithError (Int × List (String × Int)) := do
  let chars := expr.toList
  let tokens ← Arith.tokenize (chars.length + 1) chars #[]
  if tokens.isEmpty then return (0, [])
  let fuel := 64 * (tokens.length + 1)
  let (v, s) ← (Arith.assignment lookup true fuel).run { tokens }
  if !s.tokens.isEmpty then throw .expectingEnd
  return (v, s.assigned.reverse)

end PseudoTerm.Shell
