import PseudoTerm.Yaml.Token
import PseudoTerm.Yaml.Reader
import PseudoTerm.Text.Utf8

/-!
# Scanning YAML into tokens

The scanner turns characters into tokens on demand.  Its state holds the queue of
tokens not yet taken, the stack of indentation columns of the open block collections,
the flow nesting level and, per flow level, the position where a simple key (a key
written without `?`) may have started.  When a `:` follows such a position, the key token
and, in block context, the start of a block mapping are inserted into the queue at the
position remembered for the key.

A simple key that the indentation makes mandatory but that never meets its `:` is a
problem.  Tabs may separate tokens inside a line, but never indent a block line.

Every loop is bounded by the input length: each round consumes at least one character.
-/

namespace PseudoTerm.Yaml

/-- A place where a simple key may have started. -/
structure SimpleKey where
  possible : Bool := false
  required : Bool := false
  tokenNumber : Nat := 0
  mark : Mark := {}
  deriving Repr, Inhabited

/-- The scanner's state. -/
structure Scanner where
  input : Array Char
  /-- The numbers of characters decoded after each block the reader has not decoded yet. -/
  pending : List Nat := []
  /-- The problem the reader meets after its last block, if any. -/
  fault : Option String := none
  /-- How many characters the reader has decoded. -/
  decoded : Nat := 0
  /-- The index of the character at the front of the reader's buffer. -/
  bufferStart : Nat := 0
  mark : Mark := {}
  queue : List Token := []
  tokensParsed : Nat := 0
  tokenAvailable : Bool := false
  indent : Int := -1
  indents : List Int := []
  simpleKeyAllowed : Bool := false
  simpleKeys : List SimpleKey := []
  flowLevel : Nat := 0
  streamStartProduced : Bool := false
  streamEndProduced : Bool := false
  deriving Repr, Inhabited

/-- Scanning: a state change, or a problem. -/
abbrev ScanM := StateT Scanner (Except Problem)

/-- The character `k` places ahead, or NUL past the end. -/
def Scanner.at (s : Scanner) (k : Nat) : Char := s.input.getD (s.mark.index + k) '\x00'

def isBlank (c : Char) : Bool := c == ' ' || c == '\t'
def isBreak (c : Char) : Bool :=
  c == '\r' || c == '\n' || c == '\u0085' || c == ' ' || c == ' '
def isEnd (c : Char) : Bool := c == '\x00'
def isBreakOrEnd (c : Char) : Bool := isBreak c || isEnd c
def isBlankOrEnd (c : Char) : Bool := isBlank c || isBreakOrEnd c
def isWordChar (c : Char) : Bool := c.isAlphanum || c == '_' || c == '-'
def isHexChar (c : Char) : Bool := c.isDigit || ('a' ≤ c && c ≤ 'f') || ('A' ≤ c && c ≤ 'F')

/-- The value of a hexadecimal digit. -/
def hexCharValue (c : Char) : Nat :=
  if c.isDigit then c.toNat - 48 else if 'a' ≤ c && c ≤ 'f' then c.toNat - 87 else c.toNat - 55

/-- The character `k` places ahead. -/
def ahead (k : Nat) : ScanM Char := return (← get).at k

/-- The current position. -/
def here : ScanM Mark := return (← get).mark

/-- A bound on the rounds of any loop: the input length plus a margin. -/
def rounds : ScanM Nat := return (← get).input.size + 8

/-- The number of decoded characters after decoding blocks from `pending` until at least
`target` are decoded, and the blocks left. -/
def decodeUntil (target : Nat) : Nat → List Nat → Nat × List Nat
  | decoded, [] => (decoded, [])
  | decoded, next :: rest =>
    if target ≤ decoded then (decoded, next :: rest) else decodeUntil target next rest

/-- Make sure the reader has decoded the next `k` characters.  When it has not, it moves
the characters not yet taken to the front of its buffer and decodes blocks until it has;
past the last block it meets the reader's problem, or the end of the stream, where it
adds one NUL. -/
def needChars (k : Nat) : ScanM Unit := do
  let s ← get
  let target := s.mark.index + k
  if target ≤ s.decoded then return
  let (decoded, pending) := decodeUntil target s.decoded s.pending
  if decoded < target && pending.isEmpty then
    if let some problem := s.fault then
      throw { stage := .reader, problem }
    set { s with decoded := decoded + 1, pending, bufferStart := s.mark.index }
  else set { s with decoded, pending, bufferStart := s.mark.index }

/-- Move past one character of a line. -/
def skip : ScanM Unit := do
  modify fun s => { s with mark := { index := s.mark.index + 1, line := s.mark.line,
                                       column := s.mark.column + 1 } }
  needChars 1

/-- Move past a line break (`\r\n` counts as one). -/
def skipLine : ScanM Unit := do
  let s ← get
  if s.at 0 == '\r' && s.at 1 == '\n' then
    set { s with mark := { index := s.mark.index + 2, line := s.mark.line + 1, column := 0 } }
  else if isBreak (s.at 0) then
    set { s with mark := { index := s.mark.index + 1, line := s.mark.line + 1, column := 0 } }

/-- Copy the current character onto `acc` and move past it. -/
def readChar (acc : String) : ScanM String := do
  let c ← ahead 0
  skip
  return acc.push c

/-- Copy a line break onto `acc`, normalised to `\n` except for the line and paragraph
separators, and move past it. -/
def readBreak (acc : String) : ScanM String := do
  let c ← ahead 0
  if c == '\r' && (← ahead 1) == '\n' then skipLine; return acc.push '\n'
  else if c == '\r' || c == '\n' || c == '\u0085' then skipLine; return acc.push '\n'
  else if c == ' ' || c == ' ' then skipLine; return acc.push c
  else return acc

/-- Stop with a scanning problem at the current position. -/
def scanProblem {α : Type} (context : String) (contextMark : Mark) (problem : String) :
    ScanM α := do
  throw { stage := .scanner, context, contextMark, problem, problemMark := (← here) }

/-- Put a token at the end of the queue. -/
def pushToken (kind : TokenKind) (start stop : Mark) : ScanM Unit :=
  modify fun s => { s with queue := s.queue ++ [⟨kind, start, stop⟩] }

/-- Put a token into the queue at a position counted from its head. -/
def insertToken (pos : Nat) (kind : TokenKind) (start stop : Mark) : ScanM Unit :=
  modify fun s => { s with queue := s.queue.take pos ++ [⟨kind, start, stop⟩] ++ s.queue.drop pos }

/-- The simple key of the innermost flow level. -/
def topKey : ScanM SimpleKey := return (← get).simpleKeys.headD {}

/-- Replace the simple key of the innermost flow level. -/
def setTopKey (k : SimpleKey) : ScanM Unit :=
  modify fun s => { s with simpleKeys := k :: s.simpleKeys.tail }

/-- Whether a possible simple key is still valid: on the current line and within 1024
characters.  An invalid mandatory key is a problem. -/
def keyStillValid (k : SimpleKey) : ScanM (Bool × SimpleKey) := do
  if !k.possible then return (false, k)
  let m ← here
  if k.mark.line < m.line || k.mark.index + 1024 < m.index then
    if k.required then
      scanProblem "while scanning a simple key" k.mark "could not find expected ':'"
    return (false, { k with possible := false })
  return (true, k)

/-- Drop the simple key of the innermost level; a mandatory one is a problem. -/
def removeSimpleKey : ScanM Unit := do
  let k ← topKey
  if k.possible then
    if k.required then
      scanProblem "while scanning a simple key" k.mark "could not find expected ':'"
    setTopKey { k with possible := false }

/-- Remember that a simple key may start here. -/
def saveSimpleKey : ScanM Unit := do
  let s ← get
  let required := s.flowLevel == 0 && s.indent == (s.mark.column : Int)
  if s.simpleKeyAllowed then
    let k : SimpleKey := { possible := true, required,
                           tokenNumber := s.tokensParsed + s.queue.length, mark := s.mark }
    removeSimpleKey
    setTopKey k

/-- Enter a flow collection. -/
def increaseFlowLevel : ScanM Unit :=
  modify fun s => { s with simpleKeys := {} :: s.simpleKeys, flowLevel := s.flowLevel + 1 }

/-- Leave a flow collection. -/
def decreaseFlowLevel : ScanM Unit :=
  modify fun s =>
    if s.flowLevel > 0 then { s with flowLevel := s.flowLevel - 1, simpleKeys := s.simpleKeys.tail }
    else s

/-- Open a block collection at `column` when it is deeper than the current one; the
start token goes at the end of the queue, or at the position of token `number`. -/
def rollIndent (column : Nat) (number : Option Nat) (kind : TokenKind) (m : Mark) :
    ScanM Unit := do
  let s ← get
  if s.flowLevel > 0 then return
  if s.indent < column then
    set { s with indents := s.indent :: s.indents, indent := column }
    match number with
    | none => pushToken kind m m
    | some n => insertToken (n - s.tokensParsed) kind m m

/-- Close every block collection deeper than `column`. -/
def unrollIndent (column : Int) : ScanM Unit := do
  let fuel ← rounds
  go fuel
where
  /-- One closing per round. -/
  go : Nat → ScanM Unit
    | 0 => pure ()
    | fuel + 1 => do
      let s ← get
      if s.flowLevel > 0 then return
      if s.indent > column then
        pushToken .blockEnd s.mark s.mark
        set { (← get) with indent := s.indents.headD (-1), indents := s.indents.tail }
        go fuel

/-- Skip blanks, comments and line breaks up to the next token. -/
def scanToNextToken : ScanM Unit := do
  let fuel ← rounds
  go fuel
where
  /-- One line per round. -/
  go : Nat → ScanM Unit
    | 0 => pure ()
    | fuel + 1 => do
      let s ← get
      -- a byte order mark at the front of the reader's buffer lets a line start with
      -- one character that is skipped
      if s.mark.column == 0 && s.input.getD s.bufferStart '\x00' == '﻿' then skip
      let fuel' ← rounds
      skipBlanks fuel'
      if (← ahead 0) == '#' then skipComment fuel'
      if isBreak (← ahead 0) then
        skipLine
        if (← get).flowLevel == 0 then modify fun s => { s with simpleKeyAllowed := true }
        go fuel
  /-- Spaces, and tabs where they cannot indent. -/
  skipBlanks : Nat → ScanM Unit
    | 0 => pure ()
    | fuel + 1 => do
      let s ← get
      let c := s.at 0
      if c == ' ' || ((s.flowLevel > 0 || !s.simpleKeyAllowed) && c == '\t') then
        skip; skipBlanks fuel
  /-- A comment up to the line break. -/
  skipComment : Nat → ScanM Unit
    | 0 => pure ()
    | fuel + 1 => do
      if !isBreakOrEnd (← ahead 0) then skip; skipComment fuel

/-- Consume characters while `p` holds, copying them. -/
def readWhile (p : Char → Bool) (acc : String) : ScanM String := do
  let fuel ← rounds
  go fuel acc
where
  /-- One character per round. -/
  go : Nat → String → ScanM String
    | 0, acc => pure acc
    | fuel + 1, acc => do
      if p (← ahead 0) then go fuel (← readChar acc) else pure acc

/-- Skip blanks. -/
def skipBlankRun : ScanM Unit := do
  let fuel ← rounds
  go fuel
where
  /-- One blank per round. -/
  go : Nat → ScanM Unit
    | 0 => pure ()
    | fuel + 1 => do if isBlank (← ahead 0) then skip; go fuel

/-- Skip to the end of the line. -/
def skipToBreak : ScanM Unit := do
  let fuel ← rounds
  go fuel
where
  /-- One character per round. -/
  go : Nat → ScanM Unit
    | 0 => pure ()
    | fuel + 1 => do if !isBreakOrEnd (← ahead 0) then skip; go fuel

/-- A decimal number of a version directive. -/
def scanVersionNumber (start : Mark) : ScanM Nat := do
  let digits ← readWhile Char.isDigit ""
  if digits.length > 9 then
    scanProblem "while scanning a %YAML directive" start "found extremely long version number"
  if digits.isEmpty then
    scanProblem "while scanning a %YAML directive" start "did not find expected version number"
  return digits.toNat!

/-- The context of a problem with a tag, in a directive or in a node. -/
def tagContext (directive : Bool) : String :=
  if directive then "while parsing a %TAG directive" else "while parsing a tag"

/-- Characters a tag may hold: letters, digits, `_`, `-` and the URI punctuation;
inside `!<...>` also `,`, `[` and `]`. -/
def isUriChar (verbatim : Bool) (c : Char) : Bool :=
  isWordChar c || ";/?:@&=+$.%!~*'()".toList.contains c ||
    (verbatim && (c == ',' || c == '[' || c == ']'))

/-- A tag handle: `!`, then letters and digits, then `!` if one follows.  In a
directive the handle must be `!` or end with `!`. -/
def scanTagHandle (directive : Bool) (start : Mark) : ScanM String := do
  needChars 1
  if (← ahead 0) != '!' then
    scanProblem (tagContext directive) start "did not find expected '!'"
  let s ← readChar ""
  let s ← readWhile isWordChar s
  if (← ahead 0) == '!' then readChar s
  else if directive && s != "!" then
    scanProblem (tagContext directive) start "did not find expected '!'"
  else return s

/-- The value of two hexadecimal digits. -/
def hexByte (hi lo : Char) : UInt8 := (hexCharValue hi * 16 + hexCharValue lo).toUInt8

/-- The bytes of one character written as `%XX` escapes, added to `acc`: the first byte
tells how many follow, and each of those must continue the sequence. -/
def scanUriEscapes (directive : Bool) (start : Mark) (acc : Array UInt8) : ScanM (Array UInt8) :=
  go 4 1024 acc
where
  /-- One escape per round; `left` is the number of bytes still to come, 1024 before the
  first. -/
  go : Nat → Nat → Array UInt8 → ScanM (Array UInt8)
    | 0, _, acc => pure acc
    | fuel + 1, left, acc => do
      if left == 0 then return acc
      needChars 3
      let s ← get
      if !(s.at 0 == '%' && isHexChar (s.at 1) && isHexChar (s.at 2)) then
        scanProblem (tagContext directive) start "did not find URI escaped octet"
      let octet := hexByte (s.at 1) (s.at 2)
      let left ← if left == 1024 then
          let w := sequenceWidth octet
          if w == 0 then
            scanProblem (tagContext directive) start "found an incorrect leading UTF-8 octet"
          pure w
        else
          if octet &&& 0xC0 != 0x80 then
            scanProblem (tagContext directive) start "found an incorrect trailing UTF-8 octet"
          pure left
      skip; skip; skip
      go fuel (left - 1) (acc.push octet)

/-- The URI part of a tag, after `head` without its first character; `%XX` escapes stand
for bytes.  A tag with neither head nor URI is a problem. -/
def scanTagUri (verbatim directive : Bool) (head : String) (start : Mark) : ScanM String := do
  needChars 1
  let acc := (head.drop 1).toString.toUTF8.toList.toArray
  let fuel ← rounds
  let (acc, found) ← go fuel acc (head.length > 0)
  if !found then scanProblem (tagContext directive) start "did not find expected tag URI"
  return Text.decodeLossy acc.toList
where
  /-- One character or escape per round. -/
  go : Nat → Array UInt8 → Bool → ScanM (Array UInt8 × Bool)
    | 0, acc, found => pure (acc, found)
    | fuel + 1, acc, found => do
      let c ← ahead 0
      if !isUriChar verbatim c then return (acc, found)
      let acc ← if c == '%' then scanUriEscapes directive start acc
        else do skip; pure (acc ++ c.toString.toUTF8.toList.toArray)
      needChars 1
      go fuel acc true

/-- A directive line: `%YAML major.minor`, `%TAG handle prefix`. -/
def scanDirective : ScanM Unit := do
  let start ← here
  skip
  let name ← readWhile isWordChar ""
  if name.isEmpty then
    scanProblem "while scanning a directive" start "could not find expected directive name"
  if !isBlankOrEnd (← ahead 0) then
    scanProblem "while scanning a directive" start "found unexpected non-alphabetical character"
  if name == "YAML" then
    skipBlankRun
    let major ← scanVersionNumber start
    if (← ahead 0) != '.' then
      scanProblem "while scanning a %YAML directive" start
        "did not find expected digit or '.' character"
    skip
    let minor ← scanVersionNumber start
    pushToken (.versionDirective major minor) start (← here)
  else if name == "TAG" then
    skipBlankRun
    let handle ← scanTagHandle true start
    needChars 1
    if !isBlank (← ahead 0) then
      scanProblem "while scanning a %TAG directive" start "did not find expected whitespace"
    skipBlankRun
    let tagPrefix ← scanTagUri true true "" start
    needChars 1
    if !isBlankOrEnd (← ahead 0) then
      scanProblem "while scanning a %TAG directive" start "did not find expected whitespace or line break"
    pushToken (.tagDirective handle tagPrefix) start (← here)
  else
    scanProblem "while scanning a directive" start "found unknown directive name"
  skipBlankRun
  if (← ahead 0) == '#' then skipToBreak
  if !isBreakOrEnd (← ahead 0) then
    scanProblem "while scanning a directive" start "did not find expected comment or line break"
  if isBreak (← ahead 0) then skipLine

/-- An anchor `&name` or an alias `*name`. -/
def scanAnchor (isAlias : Bool) : ScanM Unit := do
  let start ← here
  skip
  let name ← readWhile isWordChar ""
  let c ← ahead 0
  if name.isEmpty || !(isBlankOrEnd c || "?:,]%@\x7d\x60".toList.contains c) then
    scanProblem (if isAlias then "while scanning an alias" else "while scanning an anchor") start
      "did not find expected alphabetic or numeric character"
  pushToken (if isAlias then .reference name else .anchor name) start (← here)

/-- A tag: `!<uri>`, `!handle!suffix`, `!suffix` or `!`. -/
def scanTag : ScanM Unit := do
  let start ← here
  needChars 2
  let (handle, suffix) ← if (← ahead 1) == '<' then do
      skip; skip
      let uri ← scanTagUri true false "" start
      if (← ahead 0) != '>' then
        scanProblem "while scanning a tag" start "did not find the expected '>'"
      skip
      pure ("", uri)
    else do
      let handle ← scanTagHandle false start
      if handle.length > 1 && handle.endsWith "!" then
        pure (handle, ← scanTagUri false false "" start)
      else
        let suffix ← scanTagUri false false handle start
        -- a lone `!` is the non-specific tag
        if suffix.isEmpty then pure ("", "!") else pure ("!", suffix)
  needChars 1
  let c ← ahead 0
  if !isBlankOrEnd c then
    if (← get).flowLevel == 0 || c != ',' then
      scanProblem "while scanning a tag" start "did not find expected whitespace or line break"
  pushToken (.tag handle suffix) start (← here)

/-- Join the blanks and breaks met between two runs of a flow scalar's characters. -/
def foldBreaks (text : String) (leadingBlanks : Bool) (whitespace leadingBreak trailingBreaks : String) :
    String :=
  if leadingBlanks then
    if leadingBreak.startsWith "\n" then
      if trailingBreaks.isEmpty then text.push ' ' else text ++ trailingBreaks
    else text ++ leadingBreak ++ trailingBreaks
  else text ++ whitespace

/-- The state of the blank run between two parts of a scalar. -/
structure Blanks where
  leading : Bool := false
  whitespace : String := ""
  leadingBreak : String := ""
  trailingBreaks : String := ""

/-- Consume blanks and breaks after a part of a flow or plain scalar. -/
def consumeBlanks (b : Blanks) (tabCheck : Option (Nat × Mark)) : ScanM Blanks := do
  let fuel ← rounds
  go fuel b
where
  /-- One blank or break per round. -/
  go : Nat → Blanks → ScanM Blanks
    | 0, b => pure b
    | fuel + 1, b => do
      let c ← ahead 0
      if isBlank c then
        if let some (indent, start) := tabCheck then
          if b.leading && (← here).column < indent && c == '\t' then
            scanProblem "while scanning a plain scalar" start
              "found a tab character that violates indentation"
        if !b.leading then go fuel { b with whitespace := ← readChar b.whitespace }
        else do skip; go fuel b
      else if isBreak c then
        if !b.leading then
          let lb ← readBreak ""
          go fuel { b with whitespace := "", leadingBreak := lb, leading := true }
        else go fuel { b with trailingBreaks := ← readBreak b.trailingBreaks }
      else pure b

/-- Whether a document marker starts at the current position. -/
def atDocumentMarker : ScanM Bool := do
  let s ← get
  let c0 := s.at 0
  return s.mark.column == 0 &&
    ((c0 == '-' && s.at 1 == '-' && s.at 2 == '-') || (c0 == '.' && s.at 1 == '.' && s.at 2 == '.')) &&
    isBlankOrEnd (s.at 3)

/-- One escape sequence of a double-quoted scalar, after the backslash. -/
def scanEscape (start : Mark) (text : String) : ScanM String := do
  let c ← ahead 1
  let simple : Option Char := match c with
    | '0' => some '\x00' | 'a' => some '\x07' | 'b' => some '\x08' | 't' => some '\t'
    | '\t' => some '\t' | 'n' => some '\n' | 'v' => some '\x0b' | 'f' => some '\x0c'
    | 'r' => some '\r' | 'e' => some '\x1b' | ' ' => some ' ' | '"' => some '"'
    | '\'' => some '\'' | '\\' => some '\\' | 'N' => some '\u0085'
    | '_' => some ' ' | 'L' => some ' ' | 'P' => some ' '
    | _ => none
  match simple with
  | some ch => skip; skip; return text.push ch
  | none =>
    let width := match c with | 'x' => 2 | 'u' => 4 | 'U' => 8 | _ => 0
    if width == 0 then
      scanProblem "while parsing a quoted scalar" start "found unknown escape character"
    skip; skip
    let s ← get
    let digits := (List.range width).map fun k => s.at k
    if !digits.all isHexChar then
      scanProblem "while parsing a quoted scalar" start "did not find expected hexdecimal number"
    let value := digits.foldl (fun acc d => acc * 16 + hexCharValue d) 0
    if (0xD800 ≤ value && value ≤ 0xDFFF) || value > 0x10FFFF then
      scanProblem "while parsing a quoted scalar" start "found invalid Unicode character escape code"
    for _ in List.range width do skip
    return text.push (Char.ofNat value)

/-- A single- or double-quoted scalar. -/
def scanFlowScalar (single : Bool) : ScanM Unit := do
  let start ← here
  skip
  let fuel ← rounds
  let text ← outer fuel start ""
  skip
  pushToken (.scalar text (if single then .singleQuoted else .doubleQuoted)) start (← here)
where
  /-- The characters of one line run, then the blanks after it. -/
  outer : Nat → Mark → String → ScanM String
    | 0, _, text => pure text
    | fuel + 1, start, text => do
      if ← atDocumentMarker then
        scanProblem "while scanning a quoted scalar" start "found unexpected document indicator"
      if isEnd (← ahead 0) then
        scanProblem "while scanning a quoted scalar" start "found unexpected end of stream"
      let fuel' ← rounds
      let (text, escapedBreak) ← inner fuel' start text
      let c ← ahead 0
      if !escapedBreak && ((single && c == '\'') || (!single && c == '"')) then return text
      let b ← consumeBlanks { leading := escapedBreak } none
      outer fuel start (foldBreaks text b.leading b.whitespace b.leadingBreak b.trailingBreaks)
  /-- Non-blank characters up to the closing quote or a blank; reports an escaped break. -/
  inner : Nat → Mark → String → ScanM (String × Bool)
    | 0, _, text => pure (text, false)
    | fuel + 1, start, text => do
      let c ← ahead 0
      if isBlankOrEnd c then return (text, false)
      if single && c == '\'' && (← ahead 1) == '\'' then
        skip; skip; inner fuel start (text.push '\'')
      else if single && c == '\'' then return (text, false)
      else if !single && c == '"' then return (text, false)
      else if !single && c == '\\' && isBreak (← ahead 1) then
        skip; skipLine; return (text, true)
      else if !single && c == '\\' then
        inner fuel start (← scanEscape start text)
      else inner fuel start (← readChar text)

/-- A plain scalar. -/
def scanPlainScalar : ScanM Unit := do
  let start ← here
  let indent := (← get).indent + 1
  let fuel ← rounds
  let (text, stop, leading) ← outer fuel start indent "" start {}
  pushToken (.scalar text .plain) start stop
  if leading then modify fun s => { s with simpleKeyAllowed := true }
where
  /-- A run of characters, then the blanks after it. -/
  outer : Nat → Mark → Int → String → Mark → Blanks → ScanM (String × Mark × Bool)
    | 0, _, _, text, stop, b => pure (text, stop, b.leading)
    | fuel + 1, start, indent, text, stop, b => do
      if ← atDocumentMarker then return (text, stop, b.leading)
      if (← ahead 0) == '#' then return (text, stop, b.leading)
      let fuel' ← rounds
      let (text, stop, b) ← inner fuel' text stop b
      let c ← ahead 0
      if !(isBlank c || isBreak c) then return (text, stop, b.leading)
      let b ← consumeBlanks b (some (indent.toNat, start))
      let s ← get
      if s.flowLevel == 0 && (s.mark.column : Int) < indent then return (text, stop, b.leading)
      outer fuel start indent text stop b
  /-- Non-blank characters up to an indicator that ends the scalar. -/
  inner : Nat → String → Mark → Blanks → ScanM (String × Mark × Blanks)
    | 0, text, stop, b => pure (text, stop, b)
    | fuel + 1, text, stop, b => do
      let s ← get
      let c := s.at 0
      if isBlankOrEnd c then return (text, stop, b)
      if (c == ':' && isBlankOrEnd (s.at 1)) ||
          (s.flowLevel > 0 && (c == ',' || c == '?' || c == '[' || c == ']' || c == '{' || c == '}')) then
        return (text, stop, b)
      let text := if b.leading || !b.whitespace.isEmpty then
          foldBreaks text b.leading b.whitespace b.leadingBreak b.trailingBreaks
        else text
      let text ← readChar text
      inner fuel text (← here) {}

/-- Leading breaks and indentation of a block scalar; fixes the indentation if unknown. -/
def scanBlockBreaks (indent : Nat) (breaks : String) (start : Mark) :
    ScanM (Nat × String × Mark) := do
  let fuel ← rounds
  go fuel indent breaks (← here) 0
where
  /-- One line per round. -/
  go : Nat → Nat → String → Mark → Nat → ScanM (Nat × String × Mark)
    | 0, indent, breaks, stop, _ => pure (indent, breaks, stop)
    | fuel + 1, indent, breaks, stop, maxIndent => do
      let fuel' ← rounds
      spaces fuel' indent
      let m ← here
      let maxIndent := max maxIndent m.column
      let c ← ahead 0
      if (indent == 0 || m.column < indent) && c == '\t' then
        scanProblem "while scanning a block scalar" start
          "found a tab character where an indentation space is expected"
      if !isBreak c then
        if indent == 0 then
          let parentIndent := (← get).indent + 1
          let chosen := max (max maxIndent parentIndent.toNat) 1
          return (chosen, breaks, stop)
        return (indent, breaks, stop)
      let breaks ← readBreak breaks
      go fuel indent breaks (← here) maxIndent
  /-- Indentation spaces. -/
  spaces : Nat → Nat → ScanM Unit
    | 0, _ => pure ()
    | fuel + 1, indent => do
      if (indent == 0 || (← here).column < indent) && (← ahead 0) == ' ' then
        skip; spaces fuel indent

/-- A literal (`|`) or folded (`>`) block scalar. -/
def scanBlockScalar (literal : Bool) : ScanM Unit := do
  let start ← here
  skip
  let mut chomping : Int := 0
  let mut increment : Nat := 0
  let c ← ahead 0
  if c == '+' || c == '-' then
    chomping := if c == '+' then 1 else -1
    skip
    let d ← ahead 0
    if d.isDigit then
      if d == '0' then
        scanProblem "while scanning a block scalar" start "found an indentation indicator equal to 0"
      increment := d.toNat - 48
      skip
  else if c.isDigit then
    if c == '0' then
      scanProblem "while scanning a block scalar" start "found an indentation indicator equal to 0"
    increment := c.toNat - 48
    skip
    let d ← ahead 0
    if d == '+' || d == '-' then
      chomping := if d == '+' then 1 else -1
      skip
  skipBlankRun
  if (← ahead 0) == '#' then skipToBreak
  if !isBreakOrEnd (← ahead 0) then
    scanProblem "while scanning a block scalar" start "did not find expected comment or line break"
  if isBreak (← ahead 0) then skipLine
  let parent := (← get).indent
  let indent0 : Nat := if increment > 0 then (if parent ≥ 0 then (parent + increment).toNat else increment) else 0
  let (indent, trailing, stop) ← scanBlockBreaks indent0 "" start
  let fuel ← rounds
  let (text, leadingBreak, trailing, stop) ← lines fuel indent "" "" trailing stop false start
  let text := if chomping != -1 then text ++ leadingBreak else text
  let text := if chomping == 1 then text ++ trailing else text
  pushToken (.scalar text (if literal then .literal else .folded)) start stop
where
  /-- One content line per round. -/
  lines : Nat → Nat → String → String → String → Mark → Bool → Mark →
      ScanM (String × String × String × Mark)
    | 0, _, text, lb, tb, stop, _, _ => pure (text, lb, tb, stop)
    | fuel + 1, indent, text, leadingBreak, trailing, stop, leadingBlank, start => do
      if (← here).column != indent || isEnd (← ahead 0) then
        return (text, leadingBreak, trailing, stop)
      let trailingBlank := isBlank (← ahead 0)
      let text :=
        if !literal && !leadingBlank && !trailingBlank && leadingBreak.startsWith "\n" then
          if trailing.isEmpty then text.push ' ' else text
        else text ++ leadingBreak
      let text := text ++ trailing
      let leadingBlank := isBlank (← ahead 0)
      let text ← readWhile (fun c => !isBreakOrEnd c) text
      let lb ← readBreak ""
      let (indent, trailing, stop) ← scanBlockBreaks indent "" start
      lines fuel indent text lb trailing stop leadingBlank start

/-- Fetch the first token. -/
def fetchStreamStart : ScanM Unit := do
  let m ← here
  modify fun s => { s with indent := -1, simpleKeyAllowed := true, streamStartProduced := true,
                           simpleKeys := [{}] }
  pushToken .streamStart m m

/-- Fetch the last token. -/
def fetchStreamEnd : ScanM Unit := do
  let s ← get
  if s.mark.column != 0 then
    set { s with mark := { s.mark with column := 0, line := s.mark.line + 1 } }
  unrollIndent (-1)
  removeSimpleKey
  modify fun s => { s with simpleKeyAllowed := false }
  let m ← here
  pushToken .streamEnd m m

/-- Fetch the next token into the queue. -/
def fetchNextToken : ScanM Unit := do
  needChars 1
  if !(← get).streamStartProduced then fetchStreamStart; return
  scanToNextToken
  unrollIndent (← here).column
  needChars 4
  let s ← get
  let c := s.at 0
  let next := s.at 1
  let m := s.mark
  if isEnd c then fetchStreamEnd; return
  if m.column == 0 && c == '%' then
    unrollIndent (-1); removeSimpleKey
    modify fun s => { s with simpleKeyAllowed := false }
    scanDirective; return
  if m.column == 0 && c == '-' && next == '-' && s.at 2 == '-' && isBlankOrEnd (s.at 3) then
    unrollIndent (-1); removeSimpleKey
    modify fun s => { s with simpleKeyAllowed := false }
    skip; skip; skip
    pushToken .documentStart m (← here); return
  if m.column == 0 && c == '.' && next == '.' && s.at 2 == '.' && isBlankOrEnd (s.at 3) then
    unrollIndent (-1); removeSimpleKey
    modify fun s => { s with simpleKeyAllowed := false }
    skip; skip; skip
    pushToken .documentEnd m (← here); return
  if c == '[' || c == '{' then
    saveSimpleKey; increaseFlowLevel
    modify fun s => { s with simpleKeyAllowed := true }
    skip
    pushToken (if c == '[' then .flowSequenceStart else .flowMappingStart) m (← here); return
  if c == ']' || c == '}' then
    removeSimpleKey; decreaseFlowLevel
    modify fun s => { s with simpleKeyAllowed := false }
    skip
    pushToken (if c == ']' then .flowSequenceEnd else .flowMappingEnd) m (← here); return
  if c == ',' then
    removeSimpleKey
    modify fun s => { s with simpleKeyAllowed := true }
    skip
    pushToken .flowEntry m (← here); return
  if c == '-' && isBlankOrEnd next then
    if s.flowLevel == 0 then
      if !s.simpleKeyAllowed then
        scanProblem "" m "block sequence entries are not allowed in this context"
      rollIndent m.column none .blockSequenceStart m
    removeSimpleKey
    modify fun s => { s with simpleKeyAllowed := true }
    skip
    pushToken .blockEntry m (← here); return
  if c == '?' && (s.flowLevel > 0 || isBlankOrEnd next) then
    if s.flowLevel == 0 then
      if !s.simpleKeyAllowed then
        scanProblem "" m "mapping keys are not allowed in this context"
      rollIndent m.column none .blockMappingStart m
    removeSimpleKey
    modify fun s => { s with simpleKeyAllowed := s.flowLevel == 0 }
    skip
    pushToken .key m (← here); return
  if c == ':' && (s.flowLevel > 0 || isBlankOrEnd next) then
    let (valid, k) ← keyStillValid (← topKey)
    setTopKey k
    if valid then
      insertToken (k.tokenNumber - (← get).tokensParsed) .key k.mark k.mark
      rollIndent k.mark.column (some k.tokenNumber) .blockMappingStart k.mark
      setTopKey { k with possible := false }
      modify fun s => { s with simpleKeyAllowed := false }
    else
      if (← get).flowLevel == 0 then
        if !(← get).simpleKeyAllowed then
          scanProblem "" m "mapping values are not allowed in this context"
        rollIndent m.column none .blockMappingStart m
      modify fun s => { s with simpleKeyAllowed := s.flowLevel == 0 }
    skip
    pushToken .value m (← here); return
  if c == '*' || c == '&' then
    saveSimpleKey
    modify fun s => { s with simpleKeyAllowed := false }
    scanAnchor (c == '*'); return
  if c == '!' then
    saveSimpleKey
    modify fun s => { s with simpleKeyAllowed := false }
    scanTag; return
  if (c == '|' || c == '>') && s.flowLevel == 0 then
    removeSimpleKey
    modify fun s => { s with simpleKeyAllowed := true }
    scanBlockScalar (c == '|'); return
  if c == '\'' || c == '"' then
    saveSimpleKey
    modify fun s => { s with simpleKeyAllowed := false }
    scanFlowScalar (c == '\''); return
  let indicator := "-?:,[]#&*!|>'\"%@\x7b\x7d\x60".toList.contains c
  if !(isBlankOrEnd c || indicator) || (c == '-' && !isBlank next) ||
      (s.flowLevel == 0 && (c == '?' || c == ':') && !isBlankOrEnd next) then
    saveSimpleKey
    modify fun s => { s with simpleKeyAllowed := false }
    scanPlainScalar; return
  scanProblem "while scanning for the next token" m "found character that cannot start any token"

/-- Fetch tokens until the head of the queue is settled: at least three tokens wait, and
the head is not a simple key that a later `:` could still turn into a mapping key. -/
def fetchMoreTokens : ScanM Unit := do
  let fuel ← rounds
  go (fuel * 4)
where
  /-- One token per round. -/
  go : Nat → ScanM Unit
    | 0 => modify fun s => { s with tokenAvailable := true }
    | fuel + 1 => do
      let s ← get
      if s.queue.length ≥ 3 then
        match s.simpleKeys.find? (fun k => k.possible && k.tokenNumber == s.tokensParsed) with
        | none =>
          modify fun s => { s with tokenAvailable := true }; return
        | some k =>
          let (valid, k') ← keyStillValid k
          modify fun s => { s with simpleKeys := s.simpleKeys.map fun j =>
            if j.possible && j.tokenNumber == k.tokenNumber then k' else j }
          if !valid then
            modify fun s => { s with tokenAvailable := true }; return
      if s.streamEndProduced then
        modify fun s => { s with tokenAvailable := true }; return
      fetchNextToken
      go fuel

/-- The token at the head of the queue. -/
def peekToken : ScanM Token := do
  if !(← get).tokenAvailable then fetchMoreTokens
  match (← get).queue with
  | t :: _ => return t
  | [] => return ⟨.streamEnd, (← here), (← here)⟩

/-- Take the token at the head of the queue. -/
def skipToken : ScanM Unit :=
  modify fun s =>
    match s.queue with
    | t :: rest => { s with queue := rest, tokensParsed := s.tokensParsed + 1, tokenAvailable := false,
                            streamEndProduced := t.kind == .streamEnd }
    | [] => s

end PseudoTerm.Yaml
