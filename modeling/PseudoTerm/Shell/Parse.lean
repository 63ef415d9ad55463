import PseudoTerm.Shell.Syntax

/-!
# Reading shell scripts

A script is read by recursive descent over its characters.  Words end at an unquoted
blank, newline or operator character (`; & | < > ( )`).  Single quotes keep everything,
double quotes keep everything but parameter, command and arithmetic expansions and a
backslash before `$`, a backquote, a double quote, a backslash or a newline.  A
backslash outside quotes quotes the next character, and a backslash-newline pair is
removed.  A `#` at the start of a word starts a comment.

Reserved words (`if`, `then`, `while`, `{`, …) are recognised only as whole unquoted
words where a command starts.  An unquoted word `NAME=value` before the command name
is an assignment.  A here-document's body is taken from the lines after the one that
holds the redirection.

Every reading step spends fuel; the initial fuel grows with the script's length, so
reading always ends.  A failure carries the line it happened on and the shell's words
for it (`Syntax error: "fi" unexpected`).
-/

namespace PseudoTerm.Shell

/-- Where reading stands: the rest of the script and the current line. -/
structure Cursor where
  rest : List Char
  line : Nat := 1
  /-- Lines of here-document bodies taken out ahead, counted at the next newline. -/
  skipped : Nat := 0
  deriving Inhabited

/-- A reading failure: its line and message. -/
structure ParseError where
  line : Nat
  message : String
  deriving Repr, Inhabited

/-- Reading with a cursor. -/
abbrev Parser := StateT Cursor (Except ParseError)

namespace Parse

/-- Fail with a message at the current line. -/
def fail {α : Type} (message : String) : Parser α := do
  let c ← get
  throw ⟨c.line, message⟩

/-- The next character, if any. -/
def peek : Parser (Option Char) := do return (← get).rest.head?

/-- The character after the next one, if any. -/
def peek2 : Parser (Option Char) := do return ((← get).rest.drop 1).head?

/-- Whether the rest starts with a text. -/
def startsWith (s : String) : Parser Bool := do
  return s.toList.isPrefixOf (← get).rest

/-- Take one character. -/
def advance : Parser Unit :=
  modify fun c => match c.rest with
    | '\n' :: r => { c with rest := r, line := c.line + 1 + c.skipped, skipped := 0 }
    | _ :: r => { c with rest := r }
    | [] => c

/-- Take `n` characters. -/
def advanceBy : Nat → Parser Unit
  | 0 => pure ()
  | n + 1 => do advance; advanceBy n

/-- Whether a character ends an unquoted word. -/
def isMeta (c : Char) : Bool :=
  c == ' ' || c == '\t' || c == '\n' || c == ';' || c == '&' || c == '|' || c == '<' ||
  c == '>' || c == '(' || c == ')'

/-- Whether a character may start a name. -/
def isNameStart (c : Char) : Bool := c.isAlpha || c == '_'

/-- Whether a character may continue a name. -/
def isNameChar (c : Char) : Bool := c.isAlphanum || c == '_'

/-- Whether a text is a name. -/
def isName (s : String) : Bool :=
  match s.toList with
  | c :: rest => isNameStart c && rest.all isNameChar
  | [] => false

/-- Skip blanks, backslash-newline pairs and a comment. -/
def skipBlanks : Nat → Parser Unit
  | 0 => pure ()
  | fuel + 1 => do
    match (← get).rest with
    | ' ' :: _ | '\t' :: _ => advance; skipBlanks fuel
    | '\\' :: '\n' :: _ => advanceBy 2; skipBlanks fuel
    | '#' :: _ =>
      let rest := (← get).rest
      advanceBy (rest.takeWhile (· != '\n')).length
    | _ => pure ()

/-- Take characters while a test holds. -/
def takeWhile (p : Char → Bool) : Parser String := do
  let taken := (← get).rest.takeWhile p
  advanceBy taken.length
  return String.ofList taken

/-- Append a character to the text parts, merging with a last text of the same
quoting. -/
def pushChar (parts : Array Part) (c : Char) (quoted : Bool) : Array Part :=
  match parts.back? with
  | some (.text s q) =>
    if q == quoted then parts.pop.push (.text (s.push c) q) else parts.push (.text (String.singleton c) quoted)
  | _ => parts.push (.text (String.singleton c) quoted)

/-- The source of a command substitution `$( … )`, read up to its closing parenthesis,
past nested parentheses and quotes. -/
def commandSource : Nat → Nat → Array Char → Parser String
  | 0, _, _ => fail "Syntax error: Missing '))'"
  | fuel + 1, depth, acc => do
    match (← get).rest with
    | [] => fail "Syntax error: end of file unexpected (expecting \")\")"
    | ')' :: _ =>
      advance
      if depth == 0 then return String.ofList acc.toList
      else commandSource fuel (depth - 1) (acc.push ')')
    | '(' :: _ => advance; commandSource fuel (depth + 1) (acc.push '(')
    | '\\' :: c :: _ => advanceBy 2; commandSource fuel depth ((acc.push '\\').push c)
    | '\'' :: _ =>
      advance
      let body ← takeWhile (· != '\'')
      if (← peek).isNone then fail "Syntax error: Unterminated quoted string"
      advance
      commandSource fuel depth (((acc.push '\'') ++ body.toList.toArray).push '\'')
    | '"' :: _ =>
      advance
      let rec dq : Nat → Array Char → Parser (Array Char)
        | 0, a => pure a
        | k + 1, a => do
          match (← get).rest with
          | [] => fail "Syntax error: Unterminated quoted string"
          | '"' :: _ => advance; pure (a.push '"')
          | '\\' :: c :: _ => advanceBy 2; dq k ((a.push '\\').push c)
          | c :: _ => advance; dq k (a.push c)
      let acc ← dq fuel (acc.push '"')
      commandSource fuel depth acc
    | c :: _ => advance; commandSource fuel depth (acc.push c)

/-- The source of a backquoted command, with the backslashes that quote `$`, a
backquote or a backslash (and a double quote, inside double quotes) removed. -/
def backquoteSource (inQuotes : Bool) : Nat → Array Char → Parser String
  | 0, _ => fail "Syntax error: EOF in backquote substitution"
  | fuel + 1, acc => do
    match (← get).rest with
    | [] => fail "Syntax error: EOF in backquote substitution"
    | '`' :: _ => advance; return String.ofList acc.toList
    | '\\' :: c :: _ =>
      advanceBy 2
      if c == '$' || c == '`' || c == '\\' || (inQuotes && c == '"') then backquoteSource inQuotes fuel (acc.push c)
      else if c == '\n' then backquoteSource inQuotes fuel acc
      else backquoteSource inQuotes fuel ((acc.push '\\').push c)
    | c :: _ => advance; backquoteSource inQuotes fuel (acc.push c)

/-- The text of an arithmetic expansion up to its closing `))`. -/
def arithSource : Nat → Nat → Array Char → Parser String
  | 0, _, _ => fail "Syntax error: Missing '))'"
  | fuel + 1, depth, acc => do
    match (← get).rest with
    | [] => fail "Syntax error: Missing '))'"
    | ')' :: ')' :: _ =>
      if depth == 0 then advanceBy 2; return String.ofList acc.toList
      else advance; arithSource fuel (depth - 1) (acc.push ')')
    | ')' :: _ => advance; arithSource fuel (depth - 1) (acc.push ')')
    | '(' :: _ => advance; arithSource fuel (depth + 1) (acc.push '(')
    | c :: _ => advance; arithSource fuel depth (acc.push c)

mutual

/-- Read what follows a `$`. -/
def dollar (quoted : Bool) : Nat → Parser Part
  | 0 => fail "Syntax error: Bad substitution"
  | fuel + 1 => do
    match (← get).rest with
    | '(' :: '(' :: _ =>
      advanceBy 2
      let src ← arithSource fuel 0 #[]
      let parts ← subParts fuel (src.toList)
      return .arith parts quoted
    | '(' :: _ =>
      advance
      let src ← commandSource fuel 0 #[]
      return .command src quoted
    | '\x7b' :: _ =>
      advance
      braced quoted fuel
    | c :: _ =>
      if isNameStart c then
        let name ← takeWhile isNameChar
        return .param name .plain [] quoted
      else if c.isDigit || c == '@' || c == '*' || c == '#' || c == '?' || c == '-' || c == '$' || c == '!' then
        advance
        return .param (String.singleton c) .plain [] quoted
      else return .text "$" quoted
    | [] => return .text "$" quoted

/-- Read a braced parameter expansion after `${`. -/
def braced (quoted : Bool) : Nat → Parser Part
  | 0 => fail "Syntax error: Bad substitution"
  | fuel + 1 => do
    let rest := (← get).rest
    -- ${#name}: the length of a parameter
    match rest with
    | '#' :: c :: _ =>
      if c != '\x7d' && (isNameStart c || c.isDigit || c == '@' || c == '*' || c == '#' || c == '?' || c == '$' || c == '!' || c == '-') then
        advance
        let name ← if isNameStart c then takeWhile isNameChar else do advance; pure (String.singleton c)
        if (← peek) != some '\x7d' then fail "Syntax error: Bad substitution"
        advance
        return .length name quoted
      else plainBraced quoted fuel
    | _ => plainBraced quoted fuel

/-- Read `${name}` or `${name op word}` after the `${`. -/
def plainBraced (quoted : Bool) : Nat → Parser Part
  | 0 => fail "Syntax error: Bad substitution"
  | fuel + 1 => do
    let name ← match (← peek) with
      | some c =>
        if isNameStart c then takeWhile isNameChar
        else if c.isDigit then takeWhile Char.isDigit
        else if c == '@' || c == '*' || c == '#' || c == '?' || c == '-' || c == '$' || c == '!' then
          do advance; pure (String.singleton c)
        else fail "Syntax error: Bad substitution"
      | none => fail "Syntax error: Missing '\x7d'"
    let op : Option ParamOp ← do
      if ← startsWith "\x7d" then pure none
      else if ← startsWith ":-" then advanceBy 2; pure (some (.useDefault true))
      else if ← startsWith ":=" then advanceBy 2; pure (some (.assignDefault true))
      else if ← startsWith ":?" then advanceBy 2; pure (some (.errorIfUnset true))
      else if ← startsWith ":+" then advanceBy 2; pure (some (.useAlternative true))
      else if ← startsWith "-" then advance; pure (some (.useDefault false))
      else if ← startsWith "=" then advance; pure (some (.assignDefault false))
      else if ← startsWith "?" then advance; pure (some (.errorIfUnset false))
      else if ← startsWith "+" then advance; pure (some (.useAlternative false))
      else if ← startsWith "%%" then advanceBy 2; pure (some (.removeSuffix true))
      else if ← startsWith "%" then advance; pure (some (.removeSuffix false))
      else if ← startsWith "##" then advanceBy 2; pure (some (.removePrefix true))
      else if ← startsWith "#" then advance; pure (some (.removePrefix false))
      else fail "Syntax error: Bad substitution"
    match op with
    | none => advance; return .param name .plain [] quoted
    | some op =>
      let arg ← braceArg quoted fuel #[]
      return .param name op arg.toList quoted

/-- Read the word of a braced expansion up to its closing brace. -/
def braceArg (quoted : Bool) : Nat → Array Part → Parser (Array Part)
  | 0, _ => fail "Syntax error: Missing '\x7d'"
  | fuel + 1, acc => do
    match (← get).rest with
    | [] => fail "Syntax error: Missing '\x7d'"
    | '\x7d' :: _ => advance; return acc
    | '\\' :: c :: _ =>
      advanceBy 2
      if c == '\n' then braceArg quoted fuel acc else braceArg quoted fuel (pushChar acc c true)
    | '\'' :: _ =>
      if quoted then advance; braceArg quoted fuel (pushChar acc '\'' true)
      else
        advance
        let body ← takeWhile (· != '\'')
        if (← peek).isNone then fail "Syntax error: Unterminated quoted string"
        advance
        braceArg quoted fuel (acc.push (.text body true))
    | '"' :: _ =>
      advance
      let inner ← doubleQuoted fuel #[]
      braceArg quoted fuel (acc ++ inner)
    | '$' :: _ =>
      advance
      let p ← dollar quoted fuel
      braceArg quoted fuel (acc.push p)
    | '`' :: _ =>
      advance
      let src ← backquoteSource quoted fuel #[]
      braceArg quoted fuel (acc.push (.command src quoted))
    | c :: _ => advance; braceArg quoted fuel (pushChar acc c quoted)

/-- Read the inside of double quotes after the opening quote. -/
def doubleQuoted : Nat → Array Part → Parser (Array Part)
  | 0, _ => fail "Syntax error: Unterminated quoted string"
  | fuel + 1, acc => do
    match (← get).rest with
    | [] => fail "Syntax error: Unterminated quoted string"
    | '"' :: _ => advance; return (if acc.isEmpty then #[.text "" true] else acc)
    | '\\' :: c :: _ =>
      if c == '$' || c == '`' || c == '"' || c == '\\' then
        advanceBy 2; doubleQuoted fuel (pushChar acc c true)
      else if c == '\n' then advanceBy 2; doubleQuoted fuel acc
      else advance; doubleQuoted fuel (pushChar acc '\\' true)
    | '$' :: _ =>
      advance
      let p ← dollar true fuel
      doubleQuoted fuel (acc.push p)
    | '`' :: _ =>
      advance
      let src ← backquoteSource true fuel #[]
      doubleQuoted fuel (acc.push (.command src true))
    | c :: _ => advance; doubleQuoted fuel (pushChar acc c true)

/-- The parts of an arithmetic expression's text: its expansions, and plain text. -/
def subParts : Nat → List Char → Parser (List Part)
  | 0, _ => pure []
  | fuel + 1, chars => do
    let saved ← get
    set ({ rest := chars, line := saved.line } : Cursor)
    let parts ← arithParts fuel #[]
    set saved
    return parts.toList

/-- Read arithmetic text into parts. -/
def arithParts : Nat → Array Part → Parser (Array Part)
  | 0, acc => pure acc
  | fuel + 1, acc => do
    match (← get).rest with
    | [] => return acc
    | '$' :: _ =>
      advance
      let p ← dollar true fuel
      arithParts fuel (acc.push p)
    | '`' :: _ =>
      advance
      let src ← backquoteSource true fuel #[]
      arithParts fuel (acc.push (.command src true))
    | '"' :: _ => advance; arithParts fuel acc
    | c :: _ => advance; arithParts fuel (pushChar acc c true)

end

/-- Read one word: its parts and its source text. -/
def word (fuel : Nat) : Parser (Word × String) := do
  let start := (← get).rest
  let parts ← go fuel true #[]
  let taken := start.length - (← get).rest.length
  return (parts.toList, String.ofList (start.take taken))
where
  /-- Read parts until the word ends. -/
  go : Nat → Bool → Array Part → Parser (Array Part)
    | 0, _, acc => pure acc
    | fuel + 1, first, acc => do
      match (← get).rest with
      | [] => return acc
      | '~' :: _ =>
        if first then
          advance
          let user ← takeWhile (fun c => c != '/' && !isMeta c && c != '\'' && c != '"' && c != '\\' && c != '$' && c != '`')
          go fuel false (acc.push (.tilde user))
        else do advance; go fuel false (pushChar acc '~' false)
      | '\'' :: _ =>
        advance
        let body ← takeWhile (· != '\'')
        if (← peek).isNone then fail "Syntax error: Unterminated quoted string"
        advance
        go fuel false (acc.push (.text body true))
      | '"' :: _ =>
        advance
        let inner ← doubleQuoted fuel #[]
        go fuel false (acc ++ inner)
      | '\\' :: '\n' :: _ => advanceBy 2; go fuel first acc
      | '\\' :: c :: _ => advanceBy 2; go fuel false (pushChar acc c true)
      | '\\' :: [] => advance; go fuel false (pushChar acc '\\' false)
      | '$' :: _ =>
        advance
        let p ← dollar false fuel
        go fuel false (acc.push p)
      | '`' :: _ =>
        advance
        let src ← backquoteSource false fuel #[]
        go fuel false (acc.push (.command src false))
      | c :: _ =>
        if isMeta c then return acc
        else do advance; go fuel false (pushChar acc c false)

/-- The reserved words. -/
def reservedWords : List String :=
  ["if", "then", "else", "elif", "fi", "do", "done", "case", "esac", "while", "until", "for",
   "in", "\x7b", "\x7d", "!"]

/-- The next word when it is a reserved word, without taking it. -/
def peekReserved (fuel : Nat) : Parser (Option String) := do
  let saved ← get
  skipBlanks fuel
  match (← get).rest with
  | [] => set saved; return none
  | c :: _ =>
    if isMeta c then set saved; return none
    else
      let result ← tryCatch (do let (_, src) ← word fuel; pure (some src)) (fun _ => pure none)
      set saved
      match result with
      | some src => return if reservedWords.contains src then some src else none
      | none => return none

/-- Take the reserved word `w`, or fail saying what came instead. -/
def expectReserved (fuel : Nat) (w : String) : Parser Unit := do
  match ← peekReserved fuel with
  | some r =>
    if r == w then
      skipBlanks fuel
      let _ ← word fuel
    else fail s!"Syntax error: \"{r}\" unexpected (expecting \"{w}\")"
  | none =>
    skipBlanks fuel
    match (← get).rest with
    | [] => fail s!"Syntax error: end of file unexpected (expecting \"{w}\")"
    | '\n' :: _ => fail s!"Syntax error: newline unexpected (expecting \"{w}\")"
    | _ =>
      let (_, src) ← word fuel
      let after := (← get).rest
      let shown := if src.isEmpty then String.ofList (after.take 1) else src
      fail s!"Syntax error: \"{shown}\" unexpected (expecting \"{w}\")"

/-- Skip blanks and newlines (and the here-document bodies that follow them). -/
def skipNewlines : Nat → Parser Unit
  | 0 => pure ()
  | fuel + 1 => do
    skipBlanks fuel
    if (← peek) == some '\n' then advance; skipNewlines fuel

/-- The operator at the cursor, if any. -/
def operator? : Parser (Option String) := do
  let rest := (← get).rest
  let ops := ["&&", "||", ";;", "<<-", "<<", "<&", "<>", ">>", ">&", ">|", ";", "&", "|", "(", ")", "<", ">"]
  return ops.find? (fun op => op.toList.isPrefixOf rest)

/-- Take a here-document body for delimiter `delim` from the lines after the current
one; `strip` drops leading tabs. -/
def takeHereDoc (delim : String) (strip : Bool) : Parser String := do
  let c ← get
  let lineRest := c.rest.takeWhile (· != '\n')
  let after := c.rest.drop (lineRest.length + 1)
  let lines := (String.ofList after).splitOn "\n"
  let clean (l : String) : String := if strip then String.ofList (l.toList.dropWhile (· == '\t')) else l
  let rec collect : List String → Array String → Option (Array String × List String)
    | [], _ => none
    | l :: ls, acc => if clean l == delim then some (acc, ls) else collect ls (acc.push (clean l))
  match collect lines #[] with
  | some (body, remaining) =>
    let bodyText := String.join (body.toList.map (· ++ "\n"))
    let rest := lineRest ++ ['\n'] ++ ("\n".intercalate remaining).toList
    set { c with rest, skipped := c.skipped + body.size + 1 }
    return bodyText
  | none =>
    let body := String.join ((lines.map clean).map (· ++ "\n"))
    set { c with rest := lineRest }
    return body

/-- Read a redirection whose operator is at the cursor, for descriptor `fd` if given. -/
def redirect (fuel : Nat) (fd : Option Nat) (op : String) : Parser Redirect := do
  advanceBy op.length
  skipBlanks fuel
  match (← get).rest with
  | [] => fail "Syntax error: end of file unexpected"
  | c :: _ =>
    if c == '\n' then fail "Syntax error: newline unexpected"
    if isMeta c then fail s!"Syntax error: \"{c}\" unexpected"
  let (target, src) ← word fuel
  let defaultFd := if op.startsWith "<" && op != "<>" then 0 else if op == "<>" then 0 else 1
  let fd := fd.getD defaultFd
  let kind : RedirKind := match op with
    | "<" => .input
    | ">" => .output
    | ">>" => .append
    | ">|" => .clobber
    | "<>" => .readWrite
    | "<&" => .dupInput
    | ">&" => .dupOutput
    | _ => .hereDoc true
  if op == "<<" || op == "<<-" then
    let quotedDelim := src.toList.any (fun c => c == '\'' || c == '"' || c == '\\')
    let delim := String.join (target.map fun
      | .text s _ => s
      | _ => "")
    let body ← takeHereDoc delim (op == "<<-")
    if quotedDelim then return ⟨fd, .hereDoc false, [.text body true]⟩
    else
      let saved ← get
      set ({ rest := body.toList, line := saved.line } : Cursor)
      let parts ← hereParts fuel #[]
      set saved
      return ⟨fd, .hereDoc true, parts.toList⟩
  else return ⟨fd, kind, target⟩
where
  /-- Read a here-document body: expansions, and a backslash before `$`, a backquote,
  a backslash or a newline. -/
  hereParts : Nat → Array Part → Parser (Array Part)
    | 0, acc => pure acc
    | fuel + 1, acc => do
      match (← get).rest with
      | [] => return acc
      | '\\' :: c :: _ =>
        if c == '$' || c == '`' || c == '\\' then advanceBy 2; hereParts fuel (pushChar acc c true)
        else if c == '\n' then advanceBy 2; hereParts fuel acc
        else advance; hereParts fuel (pushChar acc '\\' true)
      | '$' :: _ =>
        advance
        let p ← dollar true fuel
        hereParts fuel (acc.push p)
      | '`' :: _ =>
        advance
        let src ← backquoteSource true fuel #[]
        hereParts fuel (acc.push (.command src true))
      | c :: _ => advance; hereParts fuel (pushChar acc c true)

/-- A redirection with an explicit descriptor number (`2>&1`), if one starts here. -/
def numberedRedirect? (fuel : Nat) : Parser (Option Redirect) := do
  let rest := (← get).rest
  let digits := rest.takeWhile Char.isDigit
  if digits.isEmpty then return none
  match rest.drop digits.length with
  | '<' :: _ | '>' :: _ =>
    let saved ← get
    advanceBy digits.length
    match ← operator? with
    | some op =>
      if op.startsWith "<" || op.startsWith ">" then
        return some (← redirect fuel (some (String.ofList digits).toNat!) op)
      else set saved; return none
    | none => set saved; return none
  | _ => return none

/-- The assignment a word makes, if it is one. -/
def assignment? (w : Word) : Option (String × Word) :=
  match w with
  | .text s false :: rest =>
    let name := s.toList.takeWhile (· != '=')
    if name.length < s.length && isName (String.ofList name) then
      let value := String.ofList (s.toList.drop (name.length + 1))
      some (String.ofList name, (if value.isEmpty then [] else [.text value false]) ++ rest)
    else none
  | _ => none

/-- Read the redirections after a compound command. -/
def redirects : Nat → Array Redirect → Parser (List Redirect)
  | 0, acc => pure acc.toList
  | fuel + 1, acc => do
    skipBlanks fuel
    match ← numberedRedirect? fuel with
    | some r => redirects fuel (acc.push r)
    | none =>
      match ← operator? with
      | some op =>
        if op.startsWith "<" || op.startsWith ">" then
          let r ← redirect fuel none op
          redirects fuel (acc.push r)
        else pure acc.toList
      | none => pure acc.toList

/-- The words that end a list. -/
def listEnders : List String := ["then", "else", "elif", "fi", "do", "done", "esac", "\x7d"]

mutual

/-- Read a list of and-or lists separated by `;`, `&` or newlines, up to a closing word
or parenthesis or the end. -/
def list : Nat → Parser Command
  | 0 => fail "Syntax error: nesting too deep"
  | fuel + 1 => do
    skipNewlines fuel
    listFrom fuel none

/-- Go on reading a list after the commands read so far. -/
def listFrom : Nat → Option Command → Parser Command
  | 0, _ => fail "Syntax error: nesting too deep"
  | fuel + 1, acc => do
    skipBlanks fuel
    let atEnd ← do
      match (← get).rest with
      | [] => pure true
      | ')' :: _ => pure true
      | ';' :: ';' :: _ => pure true
      | _ => pure ((← peekReserved fuel).any listEnders.contains)
    if atEnd then return acc.getD .empty
    let item ← andOr fuel
    skipBlanks fuel
    let join (a : Option Command) (b : Command) : Command :=
      match a with
      | some a => .sequence a b
      | none => b
    match (← get).rest with
    | '&' :: c :: _ =>
      if c == '&' then fail "Syntax error: \"&&\" unexpected"
      advance; skipNewlines fuel; listFrom fuel (some (join acc (.background item)))
    | ['&'] => advance; return join acc (.background item)
    | ';' :: ';' :: _ => return join acc item
    | ';' :: _ => advance; skipNewlines fuel; listFrom fuel (some (join acc item))
    | '\n' :: _ => skipNewlines fuel; listFrom fuel (some (join acc item))
    | _ => return join acc item

/-- Read pipelines joined by `&&` and `||`. -/
def andOr : Nat → Parser Command
  | 0 => fail "Syntax error: nesting too deep"
  | fuel + 1 => do
    let first ← pipeline fuel
    andOrRest fuel first

/-- Go on after the first pipeline of an and-or list. -/
def andOrRest : Nat → Command → Parser Command
  | 0, acc => pure acc
  | fuel + 1, acc => do
    skipBlanks fuel
    if ← startsWith "&&" then
      advanceBy 2; skipNewlines fuel
      let next ← pipeline fuel
      andOrRest fuel (.andThen acc next)
    else if ← startsWith "||" then
      advanceBy 2; skipNewlines fuel
      let next ← pipeline fuel
      andOrRest fuel (.orElse acc next)
    else return acc

/-- Read a pipeline, possibly negated. -/
def pipeline : Nat → Parser Command
  | 0 => fail "Syntax error: nesting too deep"
  | fuel + 1 => do
    let negate ← do
      if (← peekReserved fuel) == some "!" then
        skipBlanks fuel; advance; pure true
      else pure false
    let first ← command fuel
    let stages ← pipeRest fuel #[first]
    if stages.size == 1 && !negate then return first
    return .pipeline negate stages.toList

/-- Read the further stages of a pipeline. -/
def pipeRest : Nat → Array Command → Parser (Array Command)
  | 0, acc => pure acc
  | fuel + 1, acc => do
    skipBlanks fuel
    if (← startsWith "|") && !(← startsWith "||") then
      advance; skipNewlines fuel
      let next ← command fuel
      pipeRest fuel (acc.push next)
    else return acc

/-- Read one command: a compound command with its redirections, a function definition
or a simple command. -/
def command : Nat → Parser Command
  | 0 => fail "Syntax error: nesting too deep"
  | fuel + 1 => do
    skipBlanks fuel
    match ← peekReserved fuel with
    | some "if" =>
      skipBlanks fuel; let _ ← word fuel
      let cond ← list fuel
      expectReserved fuel "then"
      let thenPart ← list fuel
      let elsePart ← elseBranch fuel
      let rs ← redirects fuel #[]
      return .ifThen cond thenPart elsePart rs
    | some "while" | some "until" =>
      skipBlanks fuel
      let (_, kw) ← word fuel
      let cond ← list fuel
      expectReserved fuel "do"
      let body ← list fuel
      expectReserved fuel "done"
      let rs ← redirects fuel #[]
      return .loop (kw == "until") cond body rs
    | some "for" =>
      skipBlanks fuel; let _ ← word fuel
      skipBlanks fuel
      let (_, name) ← word fuel
      if !isName name then fail s!"Syntax error: Bad for loop variable"
      skipNewlines fuel
      let items ← do
        if (← peekReserved fuel) == some "in" then
          skipBlanks fuel; let _ ← word fuel
          let ws ← forWords fuel #[]
          pure (some ws.toList)
        else
          skipBlanks fuel
          if (← peek) == some ';' then advance
          pure none
      skipNewlines fuel
      expectReserved fuel "do"
      let body ← list fuel
      expectReserved fuel "done"
      let rs ← redirects fuel #[]
      return .forEach name items body rs
    | some "case" =>
      skipBlanks fuel; let _ ← word fuel
      skipBlanks fuel
      let (subject, _) ← word fuel
      skipNewlines fuel
      expectReserved fuel "in"
      let arms ← caseArms fuel #[]
      let rs ← redirects fuel #[]
      return .caseOf subject arms.toList rs
    | some "\x7b" =>
      skipBlanks fuel; let _ ← word fuel
      let body ← list fuel
      expectReserved fuel "\x7d"
      let rs ← redirects fuel #[]
      return .group body rs
    | some r =>
      if r == "!" then fail "Syntax error: \"!\" unexpected"
      else fail s!"Syntax error: \"{r}\" unexpected"
    | none =>
      if (← peek) == some '(' then
        advance
        let body ← list fuel
        skipNewlines fuel
        if (← peek) != some ')' then
          if (← get).rest.isEmpty then fail "Syntax error: end of file unexpected (expecting \")\")"
          else fail "Syntax error: \")\" expected"
        advance
        let rs ← redirects fuel #[]
        return .subshell body rs
      else simple fuel

/-- Read the `elif` and `else` branches and the closing `fi`. -/
def elseBranch : Nat → Parser (Option Command)
  | 0 => fail "Syntax error: nesting too deep"
  | fuel + 1 => do
    match ← peekReserved fuel with
    | some "elif" =>
      skipBlanks fuel; let _ ← word fuel
      let cond ← list fuel
      expectReserved fuel "then"
      let thenPart ← list fuel
      let rest ← elseBranch fuel
      return some (.ifThen cond thenPart rest [])
    | some "else" =>
      skipBlanks fuel; let _ ← word fuel
      let body ← list fuel
      expectReserved fuel "fi"
      return some body
    | _ =>
      expectReserved fuel "fi"
      return none

/-- Read the words of a `for` loop up to `;` or a newline. -/
def forWords : Nat → Array Word → Parser (Array Word)
  | 0, acc => pure acc
  | fuel + 1, acc => do
    skipBlanks fuel
    match (← get).rest with
    | ';' :: _ => advance; return acc
    | '\n' :: _ => return acc
    | [] => return acc
    | c :: _ =>
      if isMeta c then fail s!"Syntax error: \"{c}\" unexpected"
      let (w, _) ← word fuel
      forWords fuel (acc.push w)

/-- Read the arms of a `case` up to `esac`. -/
def caseArms : Nat → Array (List Word × Command) → Parser (Array (List Word × Command))
  | 0, acc => pure acc
  | fuel + 1, acc => do
    skipNewlines fuel
    if (← peekReserved fuel) == some "esac" then
      skipBlanks fuel; let _ ← word fuel
      return acc
    if (← get).rest.isEmpty then fail "Syntax error: end of file unexpected (expecting \")\")"
    skipBlanks fuel
    if (← peek) == some '(' then advance
    let patterns ← casePatterns fuel #[]
    let body ← list fuel
    skipBlanks fuel
    if ← startsWith ";;" then advanceBy 2
    caseArms fuel (acc.push (patterns.toList, body))

/-- Read the patterns of one `case` arm, up to its `)`. -/
def casePatterns : Nat → Array Word → Parser (Array Word)
  | 0, acc => pure acc
  | fuel + 1, acc => do
    skipBlanks fuel
    let (w, _) ← word fuel
    skipBlanks fuel
    match (← get).rest with
    | '|' :: _ => advance; casePatterns fuel (acc.push w)
    | ')' :: _ => advance; return acc.push w
    | [] => fail "Syntax error: end of file unexpected (expecting \")\")"
    | c :: _ => fail s!"Syntax error: \"{c}\" unexpected (expecting \")\")"

/-- Read a simple command, or a function definition `name() body`. -/
def simple : Nat → Parser Command
  | 0 => fail "Syntax error: nesting too deep"
  | fuel + 1 => do
    let line := (← get).line
    let (assigns, words, rs) ← simpleParts fuel #[] #[] #[]
    match assigns.toList, words.toList, rs.toList with
    | [], [w], [] =>
      -- a function definition
      skipBlanks fuel
      if (← startsWith "(") then
        match w.plain? with
        | some name =>
          advance; skipBlanks fuel
          if (← peek) != some ')' then fail "Syntax error: \"(\" unexpected"
          advance
          skipNewlines fuel
          let body ← command fuel
          return .function name body
        | none => fail "Syntax error: \"(\" unexpected"
      else return .simple line [] [w] []
    | [], [], [] =>
      match (← get).rest with
      | [] => fail "Syntax error: end of file unexpected"
      | '\n' :: _ => fail "Syntax error: newline unexpected"
      | c :: d :: _ =>
        let tok := if (c == ';' && d == ';') || (c == '&' && d == '&') || (c == '|' && d == '|') then
          String.ofList [c, d] else String.singleton c
        fail s!"Syntax error: \"{tok}\" unexpected"
      | c :: _ => fail s!"Syntax error: \"{c}\" unexpected"
    | a, ws, r => return .simple line a ws r

/-- Read the assignments, words and redirections of a simple command. -/
def simpleParts : Nat → Array (String × Word) → Array Word → Array Redirect →
    Parser (Array (String × Word) × Array Word × Array Redirect)
  | 0, a, w, r => pure (a, w, r)
  | fuel + 1, a, ws, rs => do
    skipBlanks fuel
    match ← numberedRedirect? fuel with
    | some r => simpleParts fuel a ws (rs.push r)
    | none =>
      match ← operator? with
      | some op =>
        if op.startsWith "<" || op.startsWith ">" then
          let r ← redirect fuel none op
          simpleParts fuel a ws (rs.push r)
        else pure (a, ws, rs)
      | none =>
        match (← get).rest with
        | [] => pure (a, ws, rs)
        | c :: _ =>
          if c == '\n' then pure (a, ws, rs)
          else
            let (w, _) ← word fuel
            if ws.isEmpty then
              match assignment? w with
              | some asg => simpleParts fuel (a.push asg) ws rs
              | none => simpleParts fuel a (ws.push w) rs
            else simpleParts fuel a (ws.push w) rs

end

/-- Go on reading the commands of one line of a script: answers them and whether the
end of the script ended the line. -/
def lineFrom : Nat → Option Command → Parser (Command × Bool)
  | 0, _ => fail "Syntax error: nesting too deep"
  | fuel + 1, acc => do
    let item ← andOr fuel
    skipBlanks fuel
    let join (b : Command) : Command :=
      match acc with
      | some a => .sequence a b
      | none => b
    let after (cmd : Command) : Parser (Command × Bool) := do
      skipBlanks fuel
      match (← get).rest with
      | [] => pure (cmd, true)
      | '\n' :: _ => advance; pure (cmd, false)
      | _ => lineFrom fuel (some cmd)
    match (← get).rest with
    | [] => pure (join item, true)
    | '\n' :: _ => advance; pure (join item, false)
    | '&' :: '&' :: _ => fail "Syntax error: \"&&\" unexpected"
    | '&' :: _ => advance; after (join (.background item))
    | ';' :: ';' :: _ => fail "Syntax error: \";;\" unexpected"
    | ';' :: _ => advance; after (join item)
    | c :: d :: _ =>
      let tok := if (c == '|' && d == '|') then "||" else String.singleton c
      match ← peekReserved fuel with
      | some r => fail s!"Syntax error: \"{r}\" unexpected"
      | none => fail s!"Syntax error: \"{tok}\" unexpected"
    | c :: _ =>
      match ← peekReserved fuel with
      | some r => fail s!"Syntax error: \"{r}\" unexpected"
      | none => fail s!"Syntax error: \"{c}\" unexpected"

end Parse

/-- Read the next command of a script: the lists of its next line that is not blank.
Answers nothing at the end of the script; with a command, whether the end of the script
ended it, and the cursor after it. -/
def nextCommand (c : Cursor) : Except ParseError (Option (Command × Bool) × Cursor) :=
  let fuel := 8 * c.rest.length + 64
  let go : Parser (Option (Command × Bool)) := do
    Parse.skipNewlines fuel
    if (← get).rest.isEmpty then return none
    let r ← Parse.lineFrom fuel none
    return some r
  go.run c

/-- Read a whole script. -/
def parseScript (source : String) : Except ParseError Command := do
  let chars := source.toList
  let fuel := 8 * chars.length + 64
  let (cmd, c) ← (Parse.list fuel).run { rest := chars }
  match c.rest with
  | [] => pure cmd
  | ch :: d :: _ =>
    let tok := if (ch == ';' && d == ';') || (ch == '&' && d == '&') || (ch == '|' && d == '|') then
      String.ofList [ch, d] else String.singleton ch
    match (Parse.peekReserved fuel).run' c with
    | .ok (some r) => throw ⟨c.line, s!"Syntax error: \"{r}\" unexpected"⟩
    | _ => throw ⟨c.line, s!"Syntax error: \"{tok}\" unexpected"⟩
  | ch :: _ =>
    match (Parse.peekReserved fuel).run' c with
    | .ok (some r) => throw ⟨c.line, s!"Syntax error: \"{r}\" unexpected"⟩
    | _ => throw ⟨c.line, s!"Syntax error: \"{ch}\" unexpected"⟩

end PseudoTerm.Shell
