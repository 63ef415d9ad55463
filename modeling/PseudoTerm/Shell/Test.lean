import PseudoTerm.Machine.Interface
import PseudoTerm.Text.FloatText

/-!
# Conditions: `test` and `[`

The words are read as an expression with `!`, `-a` (binding tighter), `-o` and
parentheses over primaries: a unary test (`-n s`, `-f file`, ...), a binary test
(`a = b`, `a -lt b`, ...) or a single word, true when it is not empty.  Before that, a
list of three words with a binary operator in the middle is that binary test, and a
list of three or four words in parentheses or after `!` is read without them (and
negated after `!`).

A word spelled like an operator is an operator, except a unary operator followed by one
word and then a word that is not a binary operator (it is then a string), and a `(`
that is the last word.  All operands of `-a` and `-o` are evaluated.  Reading stops at
the end of the expression; words left after it are an error naming the last word read.

File tests ask the machine: `-e` exists, `-f` regular file, `-d` directory, `-c`
character device, `-b` block device, `-p` pipe, `-S` socket, `-h` and `-L` symbolic
link, `-s` not empty, `-r` and `-w` exists (the user may read and write everything),
`-x` runnable or a directory, `-t` the descriptor is a terminal.  Integer comparisons
take optionally signed decimal numbers with blanks around them; anything else, and a
number beyond 64 bits, is an `Illegal number`.
-/

namespace PseudoTerm.Shell

open PseudoTerm.Machine

/-- Why a condition could not be evaluated. -/
inductive TestError where
  | missingBracket
  | unexpectedOperator (s : String)
  | expectedArgument (op : String)
  | illegalNumber (s : String)
  | closingParen
  deriving Repr, Inhabited, BEq

/-- The words for a failed condition, after the command's name. -/
def TestError.message : TestError → String
  | .missingBracket => "missing ]"
  | .unexpectedOperator s => s!"{s}: unexpected operator"
  | .expectedArgument op => if op.isEmpty then "argument expected" else s!"{op}: argument expected"
  | .illegalNumber s => s!"Illegal number: {s}"
  | .closingParen => "closing paren expected"

namespace Test

variable {μ : Type}

/-- The kinds of operator words. -/
inductive OpKind where
  | unary
  | binary
  | bang
  | conj
  | disj
  | openParen
  | closeParen
  deriving DecidableEq, Repr

/-- The unary operators. -/
def unaryOps : List String :=
  ["-r", "-w", "-x", "-e", "-f", "-d", "-c", "-b", "-p", "-u", "-g", "-k", "-s", "-t", "-z", "-n",
   "-h", "-O", "-G", "-L", "-S"]

/-- The binary operators. -/
def binaryOps : List String :=
  ["=", "!=", "<", ">", "-eq", "-ne", "-ge", "-gt", "-le", "-lt", "-nt", "-ot", "-ef"]

/-- The kind of an operator word. -/
def opKind (s : String) : Option OpKind :=
  if unaryOps.contains s then some .unary
  else if binaryOps.contains s then some .binary
  else if s == "!" then some .bang
  else if s == "-a" then some .conj
  else if s == "-o" then some .disj
  else if s == "(" then some .openParen
  else if s == ")" then some .closeParen
  else none

/-- A word as the reader takes it: an operator, a plain operand, or the end. -/
inductive Token where
  | done
  | operand
  | op (text : String) (kind : OpKind)
  deriving DecidableEq, Repr

/-- Whether the word after a unary operator at `i` makes it an operand: it is the last
word, or two words follow and the next is a binary operator. -/
def unaryIsOperand (ws : Array String) (i : Nat) : Bool :=
  if i + 1 ≥ ws.size then true
  else if i + 2 ≥ ws.size then false
  else opKind (ws.getD (i + 1) "") == some .binary

/-- Read the word at `i`. -/
def lexAt (ws : Array String) (i : Nat) : Token :=
  match ws[i]? with
  | none => .done
  | some s =>
    match opKind s with
    | some k =>
      if k == .unary && unaryIsOperand ws i then .operand
      else if k == .openParen && i + 1 ≥ ws.size then .operand
      else .op s k
    | none => .operand

/-- Read an integer operand: blanks, a sign and decimal digits, then blanks. -/
def integer (s : String) : Except TestError Int :=
  let cs := s.toList.dropWhile Text.isSpaceChar
  let (neg, body) := match cs with
    | '-' :: r => (true, r)
    | '+' :: r => (false, r)
    | r => (false, r)
  let digits := body.takeWhile Char.isDigit
  let rest := (body.drop digits.length).dropWhile Text.isSpaceChar
  if digits.isEmpty || !rest.isEmpty then .error (.illegalNumber s)
  else
    let v : Nat := digits.foldl (fun acc c => acc * 10 + (c.toNat - 48)) 0
    let x : Int := if neg then -(v : Int) else v
    if x < -(Int.pow 2 63) || x ≥ Int.pow 2 63 then .error (.illegalNumber s) else .ok x

/-- Evaluate a unary test. -/
def unary (op arg : String) : Prog μ (Except TestError Bool) := do
  match op with
  | "-n" => pure (.ok (!arg.isEmpty))
  | "-z" => pure (.ok arg.isEmpty)
  | "-t" =>
    match integer arg with
    | .ok n =>
      if n < 0 then pure (.ok false)
      else
        match ← Sys.settingsOf (μ := μ) n.toNat with
        | .ok _ => pure (.ok true)
        | .error _ => pure (.ok false)
    | .error e => pure (.error e)
  | "-h" | "-L" =>
    match ← Sys.status (μ := μ) arg false with
    | .ok st => pure (.ok (st.kind == .symlink))
    | .error _ => pure (.ok false)
  | _ =>
    match ← Sys.status (μ := μ) arg with
    | .error _ => pure (.ok false)
    | .ok st =>
      pure <| .ok <| match op with
        | "-e" | "-r" | "-w" | "-O" | "-G" => true
        | "-f" => st.kind == .regular
        | "-d" => st.kind == .directory
        | "-c" => st.kind == .characterDevice
        | "-p" => st.kind == .pipe
        | "-s" => st.size > 0
        | "-x" => st.kind == .directory || st.mode &&& 0o111 != 0
        | "-g" => st.mode &&& 0o2000 != 0
        | "-u" => st.mode &&& 0o4000 != 0
        | "-k" => st.mode &&& 0o1000 != 0
        | _ => false

/-- Evaluate a binary test. -/
def binary (a op b : String) : Except TestError Bool :=
  match op with
  | "=" => .ok (a == b)
  | "!=" => .ok (a != b)
  | "<" => .ok (a < b)
  | ">" => .ok (b < a)
  | "-nt" | "-ot" | "-ef" => .ok false
  | _ => do
    let x ← integer a
    let y ← integer b
    match op with
    | "-eq" => pure (x == y)
    | "-ne" => pure (x != y)
    | "-lt" => pure (x < y)
    | "-le" => pure (x ≤ y)
    | "-gt" => pure (x > y)
    | "-ge" => pure (x ≥ y)
    | _ => pure false

mutual

/-- `a -o b -o ...`, starting with token `n` at word `i`; each step answers the truth
found and the position of the last word read. -/
def orExpr (ws : Array String) : Nat → Token → Nat → Prog μ (Except TestError (Bool × Nat))
  | 0, _, i => pure (.ok (false, i))
  | fuel + 1, n, i => do
    match ← andExpr ws fuel n i with
    | .error e => pure (.error e)
    | .ok (a, j) =>
      match lexAt ws (j + 1) with
      | .op _ .disj =>
        match ← orExpr ws fuel (lexAt ws (j + 2)) (j + 2) with
        | .ok (b, k) => pure (.ok (a || b, k))
        | .error e => pure (.error e)
      | _ => pure (.ok (a, j))

/-- `a -a b -a ...`. -/
def andExpr (ws : Array String) : Nat → Token → Nat → Prog μ (Except TestError (Bool × Nat))
  | 0, _, i => pure (.ok (false, i))
  | fuel + 1, n, i => do
    match ← notExpr ws fuel n i with
    | .error e => pure (.error e)
    | .ok (a, j) =>
      match lexAt ws (j + 1) with
      | .op _ .conj =>
        match ← andExpr ws fuel (lexAt ws (j + 2)) (j + 2) with
        | .ok (b, k) => pure (.ok (a && b, k))
        | .error e => pure (.error e)
      | _ => pure (.ok (a, j))

/-- `! a`. -/
def notExpr (ws : Array String) : Nat → Token → Nat → Prog μ (Except TestError (Bool × Nat))
  | 0, _, i => pure (.ok (false, i))
  | fuel + 1, n, i => do
    match n with
    | .op _ .bang =>
      match ← notExpr ws fuel (lexAt ws (i + 1)) (i + 1) with
      | .ok (a, j) => pure (.ok (!a, j))
      | .error e => pure (.error e)
    | _ => primary ws fuel n i

/-- A parenthesised expression, a unary or binary test, or a word. -/
def primary (ws : Array String) : Nat → Token → Nat → Prog μ (Except TestError (Bool × Nat))
  | 0, _, i => pure (.ok (false, i))
  | fuel + 1, n, i => do
    match n with
    | .done => pure (.ok (false, i))
    | .op _ .openParen =>
      match lexAt ws (i + 1) with
      | .op _ .closeParen => pure (.ok (false, i + 1))
      | nn =>
        match ← orExpr ws fuel nn (i + 1) with
        | .error e => pure (.error e)
        | .ok (a, j) =>
          match lexAt ws (j + 1) with
          | .op _ .closeParen => pure (.ok (a, j + 1))
          | _ => pure (.error .closingParen)
    | .op text .unary =>
      match ws[i + 1]? with
      | none => pure (.error (.expectedArgument text))
      | some arg =>
        match ← unary text arg with
        | .ok v => pure (.ok (v, i + 1))
        | .error e => pure (.error e)
    | _ =>
      let word := ws.getD i ""
      match lexAt ws (i + 1) with
      | .op text .binary =>
        match ws[i + 2]? with
        | none => pure (.error (.expectedArgument text))
        | some b => pure ((binary word text b).map (·, i + 2))
      | _ => pure (.ok (!word.isEmpty, i))

end

end Test

/-- Evaluate the words of `test` (without the closing `]` of `[`). -/
def evalTest {μ : Type} (args : List String) : Prog μ (Except TestError Bool) :=
  go 3 args true
where
  /-- Read the words, `keep` telling whether the result stands or is negated. -/
  go : Nat → List String → Bool → Prog μ (Except TestError Bool)
    | 0, _, _ => pure (.ok false)
    | fuel + 1, words, keep => do
      if words.isEmpty then return .ok (!keep)
      let ws := words.toArray
      -- three words around a binary operator are that test
      let direct := ws.size == 3 && Test.opKind (ws.getD 1 "") == some .binary
      if !direct && (ws.size == 3 || ws.size == 4) then
        if ws.getD 0 "" == "(" && ws.getD (ws.size - 1) "" == ")" then
          return ← finish (ws.extract 1 (ws.size - 1)) keep (Test.lexAt (ws.extract 1 (ws.size - 1)) 0)
        else if ws.getD 0 "" == "!" then
          return ← go fuel words.tail false
      finish ws keep (if direct then .operand else Test.lexAt ws 0)
  /-- Evaluate from the first word and check that nothing is left. -/
  finish (ws : Array String) (keep : Bool) (first : Test.Token) : Prog μ (Except TestError Bool) := do
    match ← Test.orExpr ws (4 * ws.size + 8) first 0 with
    | .error e => pure (.error e)
    | .ok (v, j) =>
      if j + 1 < ws.size then pure (.error (.unexpectedOperator (ws.getD j "")))
      else pure (.ok (if keep then v else !v))

end PseudoTerm.Shell
