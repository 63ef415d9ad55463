import PseudoTerm.Awk.Lexer
import PseudoTerm.Pattern.Compile

/-!
# Reading awk programs

Programs are read by recursive descent over the tokens, one function per binding level
of the expression grammar, from the loosest: assignment, `?:`, `||`, `&&`, `in`, `~` and
`!~`, comparisons, concatenation, `+ -`, `* / %`, the unary `! - +`, `^` (to the right),
`++ --`, `$`, and operands.  In the arguments of `print` and `printf` a `>` is a
redirection, not a comparison.

Line feeds end statements; they may also follow `{`, `&&`, `||`, `,`, `do`, `else` and
the `)` of `if`, `for` and `while`.  A problem is reported at its line with the token
found there.
-/

namespace PseudoTerm.Awk

open PseudoTerm.Pattern

/-- A problem in a program, with its line. -/
structure ParseError where
  line : Nat
  message : String
  deriving Inhabited

/-- The state of reading tokens. -/
structure Parsing where
  toks : Array (Tok × Nat)
  pos : Nat := 0
  /-- The functions defined so far, for calls written with a blank before `(`. -/
  functions : List String := []
  deriving Inhabited

/-- Reading a program. -/
abbrev Parse := StateT Parsing (Except ParseError)

/-- The token at hand. -/
def peek : Parse Tok := do
  let s ← get
  pure ((s.toks[s.pos]?.map (·.1)).getD .eof)

/-- The token after the one at hand. -/
def peekSecond : Parse Tok := do
  let s ← get
  pure ((s.toks[s.pos + 1]?.map (·.1)).getD .eof)

/-- The line of the token at hand. -/
def lineHere : Parse Nat := do
  let s ← get
  pure ((s.toks[s.pos]?.map (·.2)).getD ((s.toks.back?.map (·.2)).getD 1))

/-- Move past the token at hand. -/
def advance : Parse Unit := modify fun s => { s with pos := s.pos + 1 }

/-- Stop with a syntax error at the token at hand. -/
def syntaxError {α : Type} : Parse α := do
  let t ← peek
  throw { line := ← lineHere, message := s!"syntax error at or near {t.text}" }

/-- Whether the token at hand is a punctuation mark. -/
def isPunct (p : String) : Parse Bool := do
  match ← peek with
  | .punct q => pure (p == q)
  | _ => pure false

/-- Whether the token at hand is a keyword. -/
def isKeyword (k : String) : Parse Bool := do
  match ← peek with
  | .keyword q => pure (k == q)
  | _ => pure false

/-- Take a punctuation mark that must come. -/
def expect (p : String) : Parse Unit := do
  if ← isPunct p then advance else syntaxError

/-- Skip line feeds. -/
def skipNewlines : Parse Unit := do
  let s ← get
  let n := (s.toks.toList.drop s.pos).takeWhile (fun (t, _) => match t with
    | .newline => true
    | _ => false) |>.length
  set { s with pos := s.pos + n }

/-- Skip line feeds and semicolons. -/
def skipTerminators : Parse Unit := do
  let s ← get
  let n := (s.toks.toList.drop s.pos).takeWhile (fun (t, _) => match t with
    | .newline => true
    | .punct ";" => true
    | _ => false) |>.length
  set { s with pos := s.pos + n }

/-- The pattern of a regular expression written in a program. -/
def compileRegex (source : String) : Parse Compiled := do
  let bytes := source.toList.map fun c => c.toNat.toUInt8
  match compile Dialect.extendedLoose bytes with
  | .ok p => pure p
  | .error e => throw { line := ← lineHere, message := s!"regular expression compile failed ({e.message})\n{source}" }

/-- Whether an expression can be assigned to. -/
def Expr.assignable : Expr → Bool
  | .var _ | .field _ | .index _ _ => true
  | _ => false

/-- The operator of an assignment token. -/
def assignOp : String → Option (Option Arith)
  | "=" => some none
  | "+=" => some (some .add)
  | "-=" => some (some .sub)
  | "*=" => some (some .mul)
  | "/=" => some (some .div)
  | "%=" => some (some .mod)
  | "^=" => some (some .pow)
  | _ => none

/-- Whether a token can start an operand of a concatenation. -/
def Tok.startsOperand : Tok → Bool
  | .number _ | .string _ | .regex _ | .name _ | .funcName _ | .builtin _ => true
  | .punct s => s == "$" || s == "(" || s == "!" || s == "-" || s == "+" || s == "++" || s == "--"
  | _ => false

/-- Where an expression is read: `noIn` inside the head of a `for (x in a)` test, `noGt`
in the arguments of `print`. -/
structure Context where
  noIn : Bool := false
  noGt : Bool := false
  deriving Inhabited

/-- The binding levels of expressions, loosest first. -/
inductive Level where
  | assign
  | ternary
  | or
  | and
  | inArray
  | matching
  | relation
  | concat
  | additive
  | multiplicative
  | unary
  | power
  | suffixed
  | primary
  deriving DecidableEq, Repr, Inhabited

mutual

/-- Read an expression at a level. -/
def expr (ctx : Context) (level : Level) : Nat → Parse Expr
  | 0 => syntaxError
  | fuel + 1 => do
    match level with
    | .assign =>
      let lhs ← expr ctx .ternary fuel
      match ← peek with
      | .punct p =>
        match assignOp p with
        | some op =>
          if lhs.assignable then
            advance
            skipNewlines
            let rhs ← expr ctx .assign fuel
            pure (.assign op lhs rhs)
          else pure lhs
        | none => pure lhs
      | _ => pure lhs
    | .ternary =>
      let c ← expr ctx .or fuel
      if ← isPunct "?" then
        advance
        skipNewlines
        let a ← expr ctx .assign fuel
        skipNewlines
        expect ":"
        skipNewlines
        let b ← expr ctx .assign fuel
        pure (.cond c a b)
      else pure c
    | .or =>
      let first ← expr ctx .and fuel
      binaryLoop ctx first ["||"] .and (fun _ a b => .or a b) fuel
    | .and =>
      let first ← expr ctx .inArray fuel
      binaryLoop ctx first ["&&"] .inArray (fun _ a b => .and a b) fuel
    | .inArray =>
      let first ← expr ctx .matching fuel
      inLoop ctx first fuel
    | .matching =>
      let first ← expr ctx .relation fuel
      binaryLoop ctx first ["~", "!~"] .relation (fun op a b => .matches (op == "!~") a b) fuel
    | .relation =>
      let a ← expr ctx .concat fuel
      let a ← pipeGetline ctx a fuel
      let rel : Option Relation := match ← peek with
        | .punct "<" => some .lt
        | .punct "<=" => some .le
        | .punct "==" => some .eq
        | .punct "!=" => some .ne
        | .punct ">" => if ctx.noGt then none else some .gt
        | .punct ">=" => some .ge
        | _ => none
      match rel with
      | some r =>
        advance
        let b ← expr ctx .concat fuel
        let b ← pipeGetline ctx b fuel
        pure (.compare r a b)
      | none => pure a
    | .concat =>
      let first ← expr ctx .additive fuel
      concatLoop ctx first fuel
    | .additive =>
      let first ← expr ctx .multiplicative fuel
      arithLoop ctx first [("+", .add), ("-", .sub)] .multiplicative fuel
    | .multiplicative =>
      let first ← expr ctx .unary fuel
      arithLoop ctx first [("*", .mul), ("/", .div), ("%", .mod)] .unary fuel
    | .unary =>
      match ← peek with
      | .punct "!" => advance; pure (.not (← expr ctx .unary fuel))
      | .punct "-" => advance; pure (.neg (← expr ctx .unary fuel))
      | .punct "+" => advance; pure (.plus (← expr ctx .unary fuel))
      | _ => expr ctx .power fuel
    | .power =>
      let base ← expr ctx .suffixed fuel
      if ← isPunct "^" then
        advance
        -- the exponent may carry its own sign, and binds to the right
        let e ← match ← peek with
          | .punct "-" => do advance; pure (Expr.neg (← expr ctx .power fuel))
          | .punct "+" => do advance; pure (Expr.plus (← expr ctx .power fuel))
          | .punct "!" => do advance; pure (Expr.not (← expr ctx .power fuel))
          | _ => expr ctx .power fuel
        pure (.arith .pow base e)
      else pure base
    | .suffixed =>
      let e ← expr ctx .primary fuel
      if e.assignable then
        if ← isPunct "++" then advance; pure (.step false 1 e)
        else if ← isPunct "--" then advance; pure (.step false (-1) e)
        else pure e
      else pure e
    | .primary => primary ctx fuel

/-- Operators of one level, to the left. -/
def binaryLoop (ctx : Context) (first : Expr) (ops : List String) (next : Level)
    (build : String → Expr → Expr → Expr) : Nat → Parse Expr
  | 0 => pure first
  | fuel + 1 => do
  let mut acc := first
  for _ in [0:fuel] do
    match ← peek with
    | .punct p =>
      if ops.contains p then
        advance
        if p == "||" || p == "&&" then skipNewlines
        let b ← expr ctx next fuel
        acc := build p acc b
      else break
    | _ => break
  pure acc

/-- Arithmetic operators of one level, to the left. -/
def arithLoop (ctx : Context) (first : Expr) (ops : List (String × Arith)) (next : Level) :
    Nat → Parse Expr
  | 0 => pure first
  | fuel + 1 => do
  let mut acc := first
  for _ in [0:fuel] do
    match ← peek with
    | .punct p =>
      match ops.find? (·.1 == p) with
      | some (_, op) =>
        advance
        let b ← expr ctx next fuel
        acc := .arith op acc b
      | none => break
    | _ => break
  pure acc

/-- Membership tests `x in a`, to the left. -/
def inLoop (ctx : Context) (first : Expr) : Nat → Parse Expr
  | 0 => pure first
  | fuel + 1 => do
  let mut acc := first
  for _ in [0:fuel] do
    if !ctx.noIn && (← isKeyword "in") then
      advance
      match ← peek with
      | .name arr =>
        advance
        let subs := match acc with
          | .grouping es => es
          | e => [e]
        acc := .inArray subs arr
      | _ => syntaxError
    else break
  pure acc

/-- Concatenation: operands side by side. -/
def concatLoop (ctx : Context) (first : Expr) : Nat → Parse Expr
  | 0 => pure first
  | fuel + 1 => do
  let mut acc := first
  for _ in [0:fuel] do
    let t ← peek
    let starts := match t with
      | .punct "!" | .punct "-" | .punct "+" => false
      | .keyword "in" => false
      | _ => t.startsOperand
    if starts then
      let b ← expr ctx .additive fuel
      acc := .concat acc b
    else break
  pure acc

/-- A command piped into `getline` after an expression. -/
def pipeGetline (ctx : Context) (e : Expr) : Nat → Parse Expr
  | 0 => pure e
  | fuel + 1 => do
  let mut acc := e
  for _ in [0:fuel] do
    if (← isPunct "|") && (match ← peekSecond with
        | .keyword "getline" => true
        | _ => false) then
      advance
      advance
      let target ← getlineTarget ctx fuel
      acc := .getline .command target (some acc)
    else break
  pure acc

/-- The variable or field `getline` reads into, if one is written. -/
def getlineTarget (ctx : Context) : Nat → Parse (Option Expr)
  | 0 => pure none
  | fuel + 1 => do
  match ← peek with
  | .name _ | .punct "$" =>
    let e ← expr ctx .primary fuel
    pure (some e)
  | _ => pure none

/-- A list of expressions separated by commas, up to a closing mark. -/
def exprList (ctx : Context) (close : String) : Nat → Parse (List Expr)
  | 0 => pure []
  | fuel + 1 => do
  skipNewlines
  if ← isPunct close then return []
  let mut out := #[← expr ctx .assign fuel]
  for _ in [0:fuel] do
    skipNewlines
    if ← isPunct "," then
      advance
      skipNewlines
      out := out.push (← expr ctx .assign fuel)
    else break
  skipNewlines
  pure out.toList

/-- An operand. -/
def primary (ctx : Context) : Nat → Parse Expr
  | 0 => syntaxError
  | fuel + 1 => do
  let t ← peek
  match t with
  | .number v => advance; pure (.num v)
  | .string s => advance; pure (.str s)
  | .regex s => advance; pure (.regex s (← compileRegex s))
  | .punct "$" =>
    advance
    let e ← match ← peek with
      | .punct "++" => do advance; pure (Expr.step true 1 (← expr ctx .primary fuel))
      | .punct "--" => do advance; pure (Expr.step true (-1) (← expr ctx .primary fuel))
      | .punct "-" => do advance; pure (Expr.neg (← expr ctx .primary fuel))
      | _ => expr ctx .primary fuel
    pure (.field e)
  | .punct "++" => advance; pure (.step true 1 (← expr ctx .primary fuel))
  | .punct "--" => advance; pure (.step true (-1) (← expr ctx .primary fuel))
  | .punct "-" => advance; pure (.neg (← expr ctx .unary fuel))
  | .punct "+" => advance; pure (.plus (← expr ctx .unary fuel))
  | .punct "!" => advance; pure (.not (← expr ctx .unary fuel))
  | .punct "(" =>
    advance
    let es ← exprList {} ")" fuel
    expect ")"
    match es with
    | [e] => pure (.group e)
    | [] => syntaxError
    | es => pure (.grouping es)
  | .name n =>
    advance
    if ← isPunct "[" then
      advance
      let subs ← exprList {} "]" fuel
      expect "]"
      if subs.isEmpty then syntaxError
      pure (.index n subs)
    else if (← get).functions.contains n && (← isPunct "(") then
      advance
      let args ← exprList {} ")" fuel
      expect ")"
      pure (.call n args)
    else pure (.var n)
  | .funcName n =>
    advance
    expect "("
    let args ← exprList {} ")" fuel
    expect ")"
    pure (.call n args)
  | .builtin b =>
    advance
    if ← isPunct "(" then
      advance
      let args ← exprList {} ")" fuel
      expect ")"
      pure (.builtin b args)
    else if b == .length then pure (.builtin .length [])
    else syntaxError
  | .keyword "getline" =>
    advance
    let target ← getlineTarget ctx fuel
    if ← isPunct "<" then
      advance
      let file ← expr ctx .suffixed fuel
      pure (.getline .file target (some file))
    else pure (.getline .main target none)
  | _ => syntaxError

end

/-- The arguments of `print` or `printf` and their redirection. -/
def outputArgs (fuel : Nat) : Parse (List Expr × Option Redirect) := do
  let ctx : Context := { noGt := true }
  let endsHere := match ← peek with
    | .punct ";" | .punct "\x7d" | .punct ">" | .punct ">>" | .punct "|" | .newline | .eof => true
    | _ => false
  let args ← if endsHere then pure [] else do
    let first ← expr ctx .assign fuel
    let mut out := #[first]
    for _ in [0:fuel] do
      if ← isPunct "," then
        advance
        skipNewlines
        out := out.push (← expr ctx .assign fuel)
      else break
    pure out.toList
  let args := match args with
    | [.grouping es] => es
    | _ => args
  let dest ← match ← peek with
    | .punct ">" => do advance; pure (some (Redirect.file (← expr ctx .concat fuel)))
    | .punct ">>" => do advance; pure (some (Redirect.append (← expr ctx .concat fuel)))
    | .punct "|" => do advance; pure (some (Redirect.pipe (← expr ctx .concat fuel)))
    | _ => pure none
  pure (args, dest)

/-- The end of a simple statement: `;`, a line feed, or a `}` or the end left in place. -/
def endSimple : Parse Unit := do
  match ← peek with
  | .punct ";" | .newline => advance
  | .punct "\x7d" | .eof => pure ()
  | _ => syntaxError

/-- A simple statement (one that can stand in the head of `for`). -/
def simpleStatement (fuel : Nat) : Parse Stmt := do
  match ← peek with
  | .keyword "print" =>
    advance
    let (args, dest) ← outputArgs fuel
    pure (.print args dest)
  | .keyword "printf" =>
    advance
    let (args, dest) ← outputArgs fuel
    if args.isEmpty then syntaxError
    pure (.printf args dest)
  | .keyword "delete" =>
    advance
    match ← peek with
    | .name n =>
      advance
      if ← isPunct "[" then
        advance
        let subs ← exprList {} "]" fuel
        expect "]"
        pure (.delete n (some subs))
      else pure (.delete n none)
    | _ => syntaxError
  | _ => pure (.expr (← expr {} .assign fuel))

mutual

/-- A statement. -/
def statement : Nat → Parse Stmt
  | 0 => syntaxError
  | fuel + 1 => do
    match ← peek with
    | .punct "\x7b" =>
      advance
      let body ← statements fuel
      expect "\x7d"
      pure (.block body)
    | .punct ";" => advance; pure (.block [])
    | .keyword "if" =>
      advance
      expect "("
      let c ← expr {} .assign fuel
      expect ")"
      skipNewlines
      let yes ← statement fuel
      -- an `else` may follow after terminators
      let save ← get
      skipTerminators
      if ← isKeyword "else" then
        advance
        skipNewlines
        let no ← statement fuel
        pure (.ifElse c yes (some no))
      else
        set save
        pure (.ifElse c yes none)
    | .keyword "while" =>
      advance
      expect "("
      let c ← expr {} .assign fuel
      expect ")"
      if ← isPunct ";" then
        advance
        pure (.while c (.block []))
      else
        skipNewlines
        pure (.while c (← statement fuel))
    | .keyword "do" =>
      advance
      skipNewlines
      let body ← statement fuel
      skipTerminators
      if !(← isKeyword "while") then syntaxError
      advance
      expect "("
      let c ← expr {} .assign fuel
      expect ")"
      endSimple
      pure (.doWhile body c)
    | .keyword "for" =>
      advance
      expect "("
      -- for (name in array)
      let save ← get
      let isIn ← match ← peek with
        | .name v => do
          advance
          if ← isKeyword "in" then
            advance
            match ← peek with
            | .name arr =>
              advance
              if ← isPunct ")" then
                advance
                skipNewlines
                pure (some (v, arr))
              else pure none
            | _ => pure none
          else pure none
        | _ => pure none
      match isIn with
      | some (v, arr) => pure (.forIn v arr (← statement fuel))
      | none =>
        set save
        let init ← if ← isPunct ";" then pure none else some <$> simpleStatement fuel
        expect ";"
        skipNewlines
        let test ← if ← isPunct ";" then pure none else some <$> expr {} .assign fuel
        expect ";"
        skipNewlines
        let step ← if ← isPunct ")" then pure none else some <$> simpleStatement fuel
        expect ")"
        if ← isPunct ";" then
          advance
          pure (.loop init test step (.block []))
        else
          skipNewlines
          pure (.loop init test step (← statement fuel))
    | .keyword "next" => advance; endSimple; pure .next
    | .keyword "nextfile" => advance; endSimple; pure .nextFile
    | .keyword "break" => advance; endSimple; pure .brk
    | .keyword "continue" => advance; endSimple; pure .cont
    | .keyword "exit" =>
      advance
      let code ← match ← peek with
        | .punct ";" | .punct "\x7d" | .newline | .eof => pure none
        | _ => some <$> expr {} .assign fuel
      endSimple
      pure (.exit code)
    | .keyword "return" =>
      advance
      let v ← match ← peek with
        | .punct ";" | .punct "\x7d" | .newline | .eof => pure none
        | _ => some <$> expr {} .assign fuel
      endSimple
      pure (.ret v)
    | _ =>
      let s ← simpleStatement fuel
      endSimple
      pure s

/-- Statements up to a closing brace. -/
def statements : Nat → Parse (List Stmt)
  | 0 => pure []
  | fuel + 1 => do
    skipTerminators
    match ← peek with
    | .punct "\x7d" | .eof => pure []
    | _ =>
      let s ← statement fuel
      let rest ← statements fuel
      pure (s :: rest)

end

/-- An action: statements between braces. -/
def action (fuel : Nat) : Parse Stmt := do
  expect "\x7b"
  let body ← statements fuel
  expect "\x7d"
  pure (.block body)

/-- The items of a program: rules and functions. -/
def items : Nat → Parse Program
  | 0 => pure { rules := [], functions := [] }
  | fuel + 1 => do
    skipTerminators
    match ← peek with
    | .eof => pure { rules := [], functions := [] }
    | .keyword "BEGIN" =>
      advance
      skipNewlines
      let a ← action fuel
      let rest ← items fuel
      pure { rest with rules := { pattern := .begin, action := some a } :: rest.rules }
    | .keyword "END" =>
      advance
      skipNewlines
      let a ← action fuel
      let rest ← items fuel
      pure { rest with rules := { pattern := .finish, action := some a } :: rest.rules }
    | .keyword "function" =>
      advance
      let name ← match ← peek with
        | .name n | .funcName n => do advance; pure n
        | _ => syntaxError
      modify fun s => { s with functions := name :: s.functions }
      expect "("
      let mut params := #[]
      for _ in [0:fuel] do
        skipNewlines
        match ← peek with
        | .name p =>
          advance
          params := params.push p
          skipNewlines
          if ← isPunct "," then advance else break
        | _ => break
      expect ")"
      skipNewlines
      let body ← action fuel
      let rest ← items fuel
      pure { rest with functions := { name, params := params.toList, body } :: rest.functions }
    | .punct "\x7b" =>
      let a ← action fuel
      let rest ← items fuel
      pure { rest with rules := { pattern := .always, action := some a } :: rest.rules }
    | _ =>
      let first ← expr {} .assign fuel
      let pat ← if ← isPunct "," then do
          advance
          skipNewlines
          pure (RulePattern.range first (← expr {} .assign fuel))
        else pure (RulePattern.when first)
      let act ← if ← isPunct "\x7b" then some <$> action fuel else pure none
      let rest ← items fuel
      pure { rest with rules := { pattern := pat, action := act } :: rest.rules }

/-- The names of the functions a program defines, wherever they stand. -/
def definedNames (toks : Array (Tok × Nat)) : List String :=
  (toks.toList.zip (toks.toList.drop 1)).filterMap fun ((a, _), (b, _)) =>
    match a, b with
    | .keyword "function", .name n | .keyword "function", .funcName n => some n
    | _, _ => none

/-- Read a program. -/
def parseProgram (text : String) : Except ParseError Program := do
  let toks ← (tokenize text).mapError fun e => { line := e.line, message := e.message }
  let fuel := 30 * (toks.size + 10)
  let (p, _) ← (items fuel).run { toks, functions := definedNames toks }
  pure p

end PseudoTerm.Awk
