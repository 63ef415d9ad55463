import PseudoTerm.Yaml.Scanner

/-!
# Parsing YAML tokens into events

A pushdown state machine: the current state, a stack of states to return to after a
node, and a stack of positions where the open collections started (for the context of
a problem).  Each call produces one event and leaves the machine ready for the next, so
a reader may stop after the first document; nothing past what that document needs is
parsed, though the scanner always looks a few tokens ahead.
-/

namespace PseudoTerm.Yaml

/-- The events of a YAML stream. -/
inductive Event where
  | streamStart
  | streamEnd
  | documentStart
  | documentEnd
  | reference (name : String)
  | scalar (anchor tag value : String) (style : ScalarStyle)
  | sequenceStart (anchor tag : String) (flow : Bool)
  | sequenceEnd
  | mappingStart (anchor tag : String) (flow : Bool)
  | mappingEnd
  /-- Nothing follows the end of the stream. -/
  | nothing
  deriving DecidableEq, Repr, Inhabited

/-- An event with the position where it starts. -/
structure Located where
  event : Event
  start : Mark
  deriving Repr, Inhabited

/-- What the parser expects next. -/
inductive ParseState where
  | streamStart
  | implicitDocumentStart
  | documentStart
  | documentContent
  | documentEnd
  | blockNode
  | blockNodeOrIndentlessSequence
  | flowNode
  | blockSequenceFirstEntry
  | blockSequenceEntry
  | indentlessSequenceEntry
  | blockMappingFirstKey
  | blockMappingKey
  | blockMappingValue
  | flowSequenceFirstEntry
  | flowSequenceEntry
  | flowSequenceEntryMappingKey
  | flowSequenceEntryMappingValue
  | flowSequenceEntryMappingEnd
  | flowMappingFirstKey
  | flowMappingKey
  | flowMappingValue
  | flowMappingEmptyValue
  | finished
  deriving DecidableEq, Repr, Inhabited

/-- The parser's state, around the scanner's. -/
structure Parser where
  scanner : Scanner
  state : ParseState := .streamStart
  states : List ParseState := []
  marks : List Mark := []
  tagDirectives : List (String × String) := []
  deriving Inhabited

/-- Parsing: a state change, or a problem. -/
abbrev ParseM := StateT Parser (Except Problem)

/-- Run a scanning step on the parser's scanner. -/
def scanning {α : Type} (m : ScanM α) : ParseM α := fun p => do
  let (a, s) ← m.run p.scanner
  pure (a, { p with scanner := s })

/-- The next token. -/
def nextToken : ParseM Token := scanning peekToken

/-- Take the next token. -/
def takeToken : ParseM Unit := scanning skipToken

/-- Stop with a parsing problem. -/
def parseProblem {α : Type} (context : String) (contextMark : Mark) (problem : String)
    (problemMark : Mark) : ParseM α :=
  throw { stage := .parser, context, contextMark, problem, problemMark }

/-- Return to the state saved when the current node began. -/
def popState : ParseM Unit :=
  modify fun p => { p with state := p.states.headD .finished, states := p.states.tail }

/-- Save a state to return to after the next node. -/
def pushState (s : ParseState) : ParseM Unit :=
  modify fun p => { p with states := s :: p.states }

/-- Enter a state. -/
def goTo (s : ParseState) : ParseM Unit := modify fun p => { p with state := s }

/-- Remember where a collection starts. -/
def pushMark (m : Mark) : ParseM Unit := modify fun p => { p with marks := m :: p.marks }

/-- Forget where the innermost collection started, returning it. -/
def popMark : ParseM Mark := do
  let p ← get
  set { p with marks := p.marks.tail }
  return p.marks.headD {}

/-- Whether a token is of the kind shown by `k`, ignoring its contents. -/
def TokenKind.sameAs : TokenKind → TokenKind → Bool
  | .versionDirective _ _, .versionDirective _ _ => true
  | .tagDirective _ _, .tagDirective _ _ => true
  | .reference _, .reference _ => true
  | .anchor _, .anchor _ => true
  | .tag _ _, .tag _ _ => true
  | .scalar _ _, .scalar _ _ => true
  | a, b => a == b

/-- Whether a token is one of the given kinds. -/
def Token.isOneOf (t : Token) (kinds : List TokenKind) : Bool := kinds.any t.kind.sameAs

/-- The handles every document knows. -/
def defaultTagDirectives : List (String × String) :=
  [("!", "!"), ("!!", "tag:yaml.org,2002:")]

/-- Add a tag directive; a repeated handle is a problem unless repeats are allowed. -/
def addTagDirective (handle tagPrefix : String) (allowRepeat : Bool) (m : Mark) : ParseM Unit := do
  let p ← get
  if p.tagDirectives.any (·.1 == handle) then
    if allowRepeat then return
    parseProblem "" {} "found duplicate %TAG directive" m
  set { p with tagDirectives := p.tagDirectives ++ [(handle, tagPrefix)] }

/-- Read the directives before a document. -/
def processDirectives : ParseM Unit := do
  let fuel := (← get).scanner.input.size + 8
  go fuel false
  let t ← nextToken
  for (h, pre) in defaultTagDirectives do addTagDirective h pre true t.start
where
  /-- One directive per round. -/
  go : Nat → Bool → ParseM Unit
    | 0, _ => pure ()
    | fuel + 1, seenVersion => do
      let t ← nextToken
      match t.kind with
      | .versionDirective major minor =>
        if seenVersion then parseProblem "" {} "found duplicate %YAML directive" t.start
        if major != 1 || minor != 1 then parseProblem "" {} "found incompatible YAML document" t.start
        takeToken
        go fuel true
      | .tagDirective handle tagPrefix =>
        addTagDirective handle tagPrefix false t.start
        takeToken
        go fuel seenVersion
      | _ => pure ()

/-- An empty plain scalar at `m`. -/
def emptyScalar (m : Mark) : ParseM Located := return ⟨.scalar "" "" "" .plain, m⟩

/-- Parse a node: an alias, a scalar or the start of a collection, with its properties. -/
def parseNode (block indentlessSequence : Bool) : ParseM Located := do
  let t ← nextToken
  if let .reference name := t.kind then
    popState; takeToken
    return ⟨.reference name, t.start⟩
  let start := t.start
  let mut anchor := ""
  let mut tagToken : Option (String × String × Mark) := none
  let mut t := t
  if let .anchor name := t.kind then
    anchor := name
    takeToken
    t ← nextToken
    if let .tag handle suffix := t.kind then
      tagToken := some (handle, suffix, t.start)
      takeToken
      t ← nextToken
  else if let .tag handle suffix := t.kind then
    tagToken := some (handle, suffix, t.start)
    takeToken
    t ← nextToken
    if let .anchor name := t.kind then
      anchor := name
      takeToken
      t ← nextToken
  let mut tag := ""
  if let some (handle, suffix, tagMark) := tagToken then
    if handle.isEmpty then tag := suffix
    else
      match (← get).tagDirectives.find? (·.1 == handle) with
      | some (_, pre) => tag := pre ++ suffix
      | none => parseProblem "while parsing a node" start "found undefined tag handle" tagMark
  if indentlessSequence && t.kind == .blockEntry then
    goTo .indentlessSequenceEntry
    return ⟨.sequenceStart anchor tag false, start⟩
  if let .scalar value style := t.kind then
    popState; takeToken
    return ⟨.scalar anchor tag value style, start⟩
  if t.kind == .flowSequenceStart then
    goTo .flowSequenceFirstEntry
    return ⟨.sequenceStart anchor tag true, start⟩
  if t.kind == .flowMappingStart then
    goTo .flowMappingFirstKey
    return ⟨.mappingStart anchor tag true, start⟩
  if block && t.kind == .blockSequenceStart then
    goTo .blockSequenceFirstEntry
    return ⟨.sequenceStart anchor tag false, start⟩
  if block && t.kind == .blockMappingStart then
    goTo .blockMappingFirstKey
    return ⟨.mappingStart anchor tag false, start⟩
  if !anchor.isEmpty || !tag.isEmpty then
    popState
    return ⟨.scalar anchor tag "" .plain, start⟩
  parseProblem (if block then "while parsing a block node" else "while parsing a flow node") start
    "did not find expected node content" t.start

/-- The start of a document, or the end of the stream. -/
def parseDocumentStart (implicit : Bool) : ParseM Located := do
  let mut t ← nextToken
  if !implicit then
    let fuel := (← get).scanner.input.size + 8
    for _ in List.range fuel do
      if t.kind == .documentEnd then
        takeToken
        t ← nextToken
  if implicit && !t.isOneOf [.versionDirective 0 0, .tagDirective "" "", .documentStart, .streamEnd] then
    processDirectives
    pushState .documentEnd
    goTo .blockNode
    return ⟨.documentStart, t.start⟩
  if t.kind != .streamEnd then
    processDirectives
    let marker ← nextToken
    if marker.kind != .documentStart then
      parseProblem "" {} "did not find expected <document start>" marker.start
    pushState .documentEnd
    goTo .documentContent
    takeToken
    return ⟨.documentStart, t.start⟩
  goTo .finished
  takeToken
  return ⟨.streamEnd, t.start⟩

/-- The content of an explicit document, which may be empty. -/
def parseDocumentContent : ParseM Located := do
  let t ← nextToken
  if t.isOneOf [.versionDirective 0 0, .tagDirective "" "", .documentStart, .documentEnd, .streamEnd] then
    popState
    emptyScalar t.start
  else parseNode true false

/-- The end of a document, explicit or implied. -/
def parseDocumentEnd : ParseM Located := do
  let t ← nextToken
  if t.kind == .documentEnd then takeToken
  modify fun p => { p with tagDirectives := [] }
  goTo .documentStart
  return ⟨.documentEnd, t.start⟩

/-- An entry of a block sequence. -/
def parseBlockSequenceEntry (first : Bool) : ParseM Located := do
  if first then
    let t ← nextToken
    pushMark t.start
    takeToken
  let t ← nextToken
  if t.kind == .blockEntry then
    let m := t.stop
    takeToken
    let t ← nextToken
    if t.kind != .blockEntry && t.kind != .blockEnd then
      pushState .blockSequenceEntry
      parseNode true false
    else
      goTo .blockSequenceEntry
      emptyScalar m
  else if t.kind == .blockEnd then
    popState
    let _ ← popMark
    takeToken
    return ⟨.sequenceEnd, t.start⟩
  else
    let m ← popMark
    parseProblem "while parsing a block collection" m "did not find expected '-' indicator" t.start

/-- An entry of a sequence written without indentation as a mapping value. -/
def parseIndentlessSequenceEntry : ParseM Located := do
  let t ← nextToken
  if t.kind == .blockEntry then
    let m := t.stop
    takeToken
    let t ← nextToken
    if !t.isOneOf [.blockEntry, .key, .value, .blockEnd] then
      pushState .indentlessSequenceEntry
      parseNode true false
    else
      goTo .indentlessSequenceEntry
      emptyScalar m
  else
    popState
    return ⟨.sequenceEnd, t.start⟩

/-- A key of a block mapping. -/
def parseBlockMappingKey (first : Bool) : ParseM Located := do
  if first then
    let t ← nextToken
    pushMark t.start
    takeToken
  let t ← nextToken
  if t.kind == .key then
    let m := t.stop
    takeToken
    let t ← nextToken
    if !t.isOneOf [.key, .value, .blockEnd] then
      pushState .blockMappingValue
      parseNode true true
    else
      goTo .blockMappingValue
      emptyScalar m
  else if t.kind == .blockEnd then
    popState
    let _ ← popMark
    takeToken
    return ⟨.mappingEnd, t.start⟩
  else
    let m ← popMark
    parseProblem "while parsing a block mapping" m "did not find expected key" t.start

/-- A value of a block mapping. -/
def parseBlockMappingValue : ParseM Located := do
  let t ← nextToken
  if t.kind == .value then
    let m := t.stop
    takeToken
    let t ← nextToken
    if !t.isOneOf [.key, .value, .blockEnd] then
      pushState .blockMappingKey
      parseNode true true
    else
      goTo .blockMappingKey
      emptyScalar m
  else
    goTo .blockMappingKey
    emptyScalar t.start

/-- An entry of a flow sequence. -/
def parseFlowSequenceEntry (first : Bool) : ParseM Located := do
  if first then
    let t ← nextToken
    pushMark t.start
    takeToken
  let mut t ← nextToken
  if t.kind != .flowSequenceEnd then
    if !first then
      if t.kind == .flowEntry then
        takeToken
        t ← nextToken
      else
        let m ← popMark
        parseProblem "while parsing a flow sequence" m "did not find expected ',' or ']'" t.start
    if t.kind == .key then
      goTo .flowSequenceEntryMappingKey
      takeToken
      return ⟨.mappingStart "" "" true, t.start⟩
    else if t.kind != .flowSequenceEnd then
      pushState .flowSequenceEntry
      return ← parseNode false false
  popState
  let _ ← popMark
  takeToken
  return ⟨.sequenceEnd, t.start⟩

/-- The key of a single-pair mapping inside a flow sequence. -/
def parseFlowSequenceEntryMappingKey : ParseM Located := do
  let t ← nextToken
  if !t.isOneOf [.value, .flowEntry, .flowSequenceEnd] then
    pushState .flowSequenceEntryMappingValue
    parseNode false false
  else
    let m := t.stop
    takeToken
    goTo .flowSequenceEntryMappingValue
    emptyScalar m

/-- The value of a single-pair mapping inside a flow sequence. -/
def parseFlowSequenceEntryMappingValue : ParseM Located := do
  let t ← nextToken
  if t.kind == .value then
    takeToken
    let t' ← nextToken
    if t'.kind != .flowEntry && t'.kind != .flowSequenceEnd then
      pushState .flowSequenceEntryMappingEnd
      return ← parseNode false false
  goTo .flowSequenceEntryMappingEnd
  emptyScalar t.start

/-- The end of a single-pair mapping inside a flow sequence. -/
def parseFlowSequenceEntryMappingEnd : ParseM Located := do
  let t ← nextToken
  goTo .flowSequenceEntry
  return ⟨.mappingEnd, t.start⟩

/-- A key of a flow mapping. -/
def parseFlowMappingKey (first : Bool) : ParseM Located := do
  if first then
    let t ← nextToken
    pushMark t.start
    takeToken
  let mut t ← nextToken
  if t.kind != .flowMappingEnd then
    if !first then
      if t.kind == .flowEntry then
        takeToken
        t ← nextToken
      else
        let m ← popMark
        parseProblem "while parsing a flow mapping" m "did not find expected ',' or '\x7d'" t.start
    if t.kind == .key then
      takeToken
      let after ← nextToken
      if !after.isOneOf [.value, .flowEntry, .flowMappingEnd] then
        pushState .flowMappingValue
        return ← parseNode false false
      else
        goTo .flowMappingValue
        return ← emptyScalar after.start
    else if t.kind != .flowMappingEnd then
      pushState .flowMappingEmptyValue
      return ← parseNode false false
  popState
  let _ ← popMark
  takeToken
  return ⟨.mappingEnd, t.start⟩

/-- A value of a flow mapping; `empty` when the key stood alone. -/
def parseFlowMappingValue (empty : Bool) : ParseM Located := do
  let t ← nextToken
  if empty then
    goTo .flowMappingKey
    return ← emptyScalar t.start
  if t.kind == .value then
    takeToken
    let t' ← nextToken
    if t'.kind != .flowEntry && t'.kind != .flowMappingEnd then
      pushState .flowMappingKey
      return ← parseNode false false
  goTo .flowMappingKey
  emptyScalar t.start

/-- The next event; nothing once the stream has ended. -/
def nextEvent : ParseM Located := do
  let p ← get
  if p.scanner.streamEndProduced || p.state == .finished then
    return ⟨.nothing, p.scanner.mark⟩
  match p.state with
  | .streamStart =>
    let t ← nextToken
    if t.kind != .streamStart then
      parseProblem "" {} "did not find expected <stream-start>" t.start
    goTo .implicitDocumentStart
    takeToken
    return ⟨.streamStart, t.start⟩
  | .implicitDocumentStart => parseDocumentStart true
  | .documentStart => parseDocumentStart false
  | .documentContent => parseDocumentContent
  | .documentEnd => parseDocumentEnd
  | .blockNode => parseNode true false
  | .blockNodeOrIndentlessSequence => parseNode true true
  | .flowNode => parseNode false false
  | .blockSequenceFirstEntry => parseBlockSequenceEntry true
  | .blockSequenceEntry => parseBlockSequenceEntry false
  | .indentlessSequenceEntry => parseIndentlessSequenceEntry
  | .blockMappingFirstKey => parseBlockMappingKey true
  | .blockMappingKey => parseBlockMappingKey false
  | .blockMappingValue => parseBlockMappingValue
  | .flowSequenceFirstEntry => parseFlowSequenceEntry true
  | .flowSequenceEntry => parseFlowSequenceEntry false
  | .flowSequenceEntryMappingKey => parseFlowSequenceEntryMappingKey
  | .flowSequenceEntryMappingValue => parseFlowSequenceEntryMappingValue
  | .flowSequenceEntryMappingEnd => parseFlowSequenceEntryMappingEnd
  | .flowMappingFirstKey => parseFlowMappingKey true
  | .flowMappingKey => parseFlowMappingKey false
  | .flowMappingValue => parseFlowMappingValue false
  | .flowMappingEmptyValue => parseFlowMappingValue true
  | .finished => return ⟨.nothing, p.scanner.mark⟩

end PseudoTerm.Yaml
