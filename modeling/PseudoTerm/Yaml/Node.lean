import PseudoTerm.Yaml.Parser
import PseudoTerm.Yaml.Resolve
import PseudoTerm.Yaml.Reader

/-!
# Composing events into a node tree

The first document of a stream becomes a tree of scalars, sequences, mappings and
aliases.  Lines count from one.  A plain scalar's tag is resolved from its text when it
is composed, a quoted or block scalar is a string, and a plain `<<` is a merge key.

An anchor names its node from the moment the node starts, so an alias inside the node it
names refers to it; the alias keeps the anchor's number and the anchored nodes are kept
in a table by number, filled in as each finishes.  Each alias also gets a number of its
own, so a decoder can tell when an alias is reached again while it is being expanded.
-/

namespace PseudoTerm.Yaml

/-- A node of a YAML document. -/
inductive Node where
  | scalar (value tag : String) (style : ScalarStyle) (line : Nat)
  | sequence (tag : String) (items : List Node) (line : Nat)
  | mapping (tag : String) (entries : List (Node × Node)) (line : Nat)
  | reference (name : String) (target occurrence : Nat) (line : Nat)
  deriving Repr, Inhabited

/-- A composed document: its root and the anchored nodes by number. -/
structure Document where
  root : Node
  anchored : List (Nat × Node)
  deriving Repr, Inhabited

namespace Node

/-- The line a node starts on. -/
def line : Node → Nat
  | scalar _ _ _ l | sequence _ _ l | mapping _ _ l | reference _ _ _ l => l

/-- The text a node carries: a scalar's value, an alias's anchor name. -/
def value : Node → String
  | scalar v _ _ _ => v
  | reference name _ _ _ => name
  | _ => ""

/-- The tag a node was given. -/
def tag : Node → String
  | scalar _ t _ _ | sequence t _ _ | mapping t _ _ => t
  | reference _ _ _ _ => ""

/-- A number for each kind of node, to compare kinds. -/
def kindIndex : Node → Nat
  | scalar .. => 0
  | sequence .. => 1
  | mapping .. => 2
  | reference .. => 3

/-- Whether a scalar was quoted or written as a block and is tagged as a string. -/
def indicatedString : Node → Bool
  | scalar _ t style _ => shortTag t == strTag && style != .plain
  | _ => false

/-- The short tag of a node that is not an alias, resolving untagged scalars. -/
def shortTagOf (n : Node) : String :=
  if n.indicatedString then strTag
  else if n.tag == "" || n.tag == "!" then
    match n with
    | scalar v _ _ _ => (resolvePlain "" v).1
    | sequence .. => seqTag
    | mapping .. => mapTag
    | reference .. => ""
  else shortTag n.tag

/-- Whether a node is the merge key `<<`. -/
def isMerge : Node → Bool
  | scalar "<<" t _ _ => t == "" || t == "!" || shortTag t == mergeTag
  | _ => false

end Node

/-- The composer's state: the parser, one event of lookahead and the anchors. -/
structure Composer where
  parser : Parser
  pending : Option Located := none
  anchors : List (String × Nat) := []
  anchorCount : Nat := 0
  aliasCount : Nat := 0
  anchored : List (Nat × Node) := []
  deriving Inhabited

/-- Composing: a state change, or the text of an error. -/
abbrev ComposeM := StateT Composer (Except String)

/-- The next event, parsing it if it has not been seen yet. -/
def peekEvent : ComposeM Located := do
  let c ← get
  match c.pending with
  | some e => return e
  | none =>
    match nextEvent.run c.parser with
    | .ok (e, p) =>
      set { c with parser := p, pending := some e }
      return e
    | .error problem => throw ("yaml: " ++ problem.text)

/-- Take the next event. -/
def takeEvent : ComposeM Located := do
  let e ← peekEvent
  modify fun c => { c with pending := none }
  return e

/-- Name a node with an anchor from now on, returning the anchor's number. -/
def openAnchor (anchor : String) : ComposeM (Option Nat) := do
  if anchor.isEmpty then return none
  let c ← get
  set { c with anchors := (anchor, c.anchorCount) :: c.anchors, anchorCount := c.anchorCount + 1 }
  return some c.anchorCount

/-- Record the finished node of an anchor. -/
def closeAnchor (id : Option Nat) (n : Node) : ComposeM Unit :=
  match id with
  | some i => modify fun c => { c with anchored := (i, n) :: c.anchored }
  | none => pure ()

/-- The tag a collection gets: its own, or the standard one. -/
def collectionTag (given standard : String) : String :=
  if given != "" && given != "!" then shortTag given else standard

/-- The tag a scalar gets: its own, the string tag for quoted and block scalars, the
merge tag for a plain `<<`, or the tag its text resolves to. -/
def scalarTag (given value : String) (style : ScalarStyle) : String :=
  if given != "" && given != "!" then shortTag given
  else if style != .plain then strTag
  else if value == "<<" then mergeTag
  else (resolvePlain "" value).1

mutual

/-- Compose one node from the events. -/
def composeNode : Nat → ComposeM Node
  | 0 => throw "yaml: document is too deeply nested"
  | fuel + 1 => do
    let e ← peekEvent
    let line := e.start.line + 1
    match e.event with
    | .scalar anchor tag value style =>
      let id ← openAnchor anchor
      let n := Node.scalar value (scalarTag tag value style) style line
      closeAnchor id n
      let _ ← takeEvent
      return n
    | .reference name =>
      match (← get).anchors.find? (·.1 == name) with
      | none => throw s!"yaml: unknown anchor '{name}' referenced"
      | some (_, target) =>
        let c ← get
        set { c with aliasCount := c.aliasCount + 1 }
        let _ ← takeEvent
        return .reference name target c.aliasCount line
    | .sequenceStart anchor tag _ =>
      let id ← openAnchor anchor
      let _ ← takeEvent
      let items ← composeItems fuel []
      let n := Node.sequence (collectionTag tag seqTag) items line
      closeAnchor id n
      return n
    | .mappingStart anchor tag _ =>
      let id ← openAnchor anchor
      let _ ← takeEvent
      let entries ← composeEntries fuel []
      let n := Node.mapping (collectionTag tag mapTag) entries line
      closeAnchor id n
      return n
    | _ => throw "yaml: attempted to go past the end of stream; corrupted value?"

/-- Compose the items of a sequence up to its end. -/
def composeItems : Nat → List Node → ComposeM (List Node)
  | 0, _ => throw "yaml: document is too deeply nested"
  | fuel + 1, acc => do
    let e ← peekEvent
    if e.event == .sequenceEnd then
      let _ ← takeEvent
      return acc.reverse
    let item ← composeNode fuel
    composeItems fuel (item :: acc)

/-- Compose the entries of a mapping up to its end. -/
def composeEntries : Nat → List (Node × Node) → ComposeM (List (Node × Node))
  | 0, _ => throw "yaml: document is too deeply nested"
  | fuel + 1, acc => do
    let e ← peekEvent
    if e.event == .mappingEnd then
      let _ ← takeEvent
      return acc.reverse
    let k ← composeNode fuel
    let v ← composeNode fuel
    composeEntries fuel ((k, v) :: acc)

end

/-- Expect an event of the given shape. -/
def expectEvent (wanted : Event) (name : String) : ComposeM Unit := do
  let e ← peekEvent
  if e.event == .streamEnd && wanted != .streamEnd then
    throw "yaml: attempted to go past the end of stream; corrupted value?"
  if e.event != wanted then
    throw s!"yaml: expected {name} event"
  let _ ← takeEvent

/-- Compose the first document of a stream, or nothing when the stream has none. -/
def composeFirst (fuel : Nat) : ComposeM (Option Document) := do
  expectEvent .streamStart "STREAM-START"
  let e ← peekEvent
  match e.event with
  | .documentStart =>
    let _ ← takeEvent
    let root ← composeNode fuel
    expectEvent .documentEnd "DOCUMENT-END"
    return some ⟨root, (← get).anchored⟩
  | _ => return none

/-- The first document of a text, or nothing when it has none, or the error. -/
def firstDocument (supply : Supply) : Except String (Option Document) :=
  let scanner : Scanner := { input := supply.chars, pending := supply.blockEnds, fault := supply.fault }
  let fuel := 8 * (supply.chars.size + 16)
  (composeFirst fuel).run' { parser := { scanner } }

end PseudoTerm.Yaml
