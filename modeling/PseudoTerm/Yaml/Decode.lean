import PseudoTerm.Yaml.Node
import PseudoTerm.Text.Base64
import PseudoTerm.Text.Utf8
import PseudoTerm.Text.Quoted

/-!
# Decoding a document into typed values

A `Shape` describes the type a document is decoded into: integers, 32-bit unsigned
integers, booleans, strings, lists, optional values and records with named fields.
Decoding updates a current value: fields the document does not mention keep theirs.

Problems of type are collected, one line each, and decoding goes on past them: a value
of the wrong type leaves its place unchanged (a list simply drops such items), an
unknown field or a repeated key is reported with its line.  A repeated key makes the
whole mapping be skipped.  Other problems (an alias inside its own anchor, a bad merge,
a tag the text contradicts) stop decoding at once.

A merge key `<<` adds the fields of another mapping, or of a list of mappings, without
overriding the keys written in the mapping itself; among merged mappings the first one
that sets a field wins.
-/

namespace PseudoTerm.Yaml

/-- The type a document is decoded into. -/
inductive Shape where
  | int
  | uint32
  | bool
  | text
  | list (elem : Shape)
  | optional (target : Shape)
  | record (typeName : String) (fields : List (String × Shape))
  deriving Repr, Inhabited

/-- A decoded value. -/
inductive Datum where
  | int (n : Int)
  | bool (b : Bool)
  | text (s : String)
  | list (items : List Datum)
  | none
  | record (fields : List (String × Datum))
  deriving Repr, Inhabited, BEq

/-- The name of a shape, as problems show it. -/
def Shape.name : Shape → String
  | .int => "int"
  | .uint32 => "uint32"
  | .bool => "bool"
  | .text => "string"
  | .list e => "[]" ++ e.name
  | .optional t => "*" ++ t.name
  | .record n _ => n

mutual

/-- The value a shape starts from. -/
def Shape.zero : Shape → Datum
  | .int => .int 0
  | .uint32 => .int 0
  | .bool => .bool false
  | .text => .text ""
  | .list _ => .list []
  | .optional _ => .none
  | .record _ fields => .record (zeroFields fields)

/-- The starting values of a record's fields. -/
def zeroFields : List (String × Shape) → List (String × Datum)
  | [] => []
  | (n, s) :: rest => (n, s.zero) :: zeroFields rest

end

/-- The value of a field of a record. -/
def Datum.field (d : Datum) (name : String) : Datum :=
  match d with
  | .record fields => (fields.lookup name).getD .none
  | _ => .none

/-- Replace the value of a field of a record. -/
def Datum.setField (d : Datum) (name : String) (v : Datum) : Datum :=
  match d with
  | .record fields => .record (fields.map fun (n, old) => if n == name then (n, v) else (n, old))
  | other => other

/-- The text of a decoded string, or empty. -/
def Datum.textD : Datum → String
  | .text s => s
  | _ => ""

/-- The texts of a decoded list of strings. -/
def Datum.textsD : Datum → List String
  | .list items => items.map Datum.textD
  | _ => []

/-- The number of a decoded integer, or zero. -/
def Datum.intD : Datum → Int
  | .int n => n
  | _ => 0

/-- The truth of a decoded boolean, or false. -/
def Datum.boolD : Datum → Bool
  | .bool b => b
  | _ => false

/-- The decoder's state: problems found so far (newest first), the aliases being
expanded, and the keys already set while merging. -/
structure DecodeState where
  problems : List String := []
  expanding : List Nat := []
  merged : Option (List String) := none

/-- Decoding: a state change, or the error that stopped it. -/
abbrev DecodeM := StateT DecodeState (Except String)

/-- Record a problem. -/
def report (line : String) : DecodeM Unit :=
  modify fun s => { s with problems := line :: s.problems }

/-- The first `n` bytes of a text, cutting a character in two if need be; each byte
of a cut character shows as a replacement character. -/
def clippedText (s : String) (n : Nat) : String :=
  let bytes := s.toUTF8.toList.take n
  match String.fromUTF8? ⟨bytes.toArray⟩ with
  | some t => t
  | none =>
    let whole := (List.range (bytes.length + 1)).reverse.find? fun k =>
      (String.fromUTF8? ⟨(bytes.take k).toArray⟩).isSome
    let k := whole.getD 0
    (String.fromUTF8? ⟨(bytes.take k).toArray⟩).getD "" ++
      String.ofList (List.replicate (bytes.length - k) '\uFFFD')

/-- Report a value of the wrong type. -/
def typeProblem (n : Node) (tag : String) (shape : Shape) : DecodeM Unit := do
  let tag := if n.tag != "" then n.tag else tag
  let shown :=
    if tag == seqTag || tag == mapTag then ""
    else if n.value.utf8ByteSize > 10 then " \x60" ++ clippedText n.value 7 ++ "...\x60"
    else " \x60" ++ n.value ++ "\x60"
  let short := shortTag tag
  let into := shape.name
  let line := n.line
  report s!"line {line}: cannot unmarshal {short}{shown} into {into}"

/-- Whether a binary64 value is at most `2 ^ k`. -/
def Real64.atMostPow2 (f : Real64) (k : Nat) : Bool :=
  match f with
  | .nan => false
  | .infinite negative => negative
  | .finite negative b =>
    negative || (let (n, d) := b.ratio; n ≤ Nat.pow 2 k * d)

/-- The integer part of a finite magnitude. -/
def truncMagnitude (b : Text.Binary) : Nat :=
  let (n, d) := b.ratio
  n / d

/-- The 64-bit signed integer a binary64 value converts to; out of range gives the
smallest one. -/
def Real64.toInt64 (f : Real64) : Int :=
  match f with
  | .finite negative b =>
    let t := truncMagnitude b
    let v : Int := if negative then -(t : Int) else t
    if -(Int.pow 2 63 : Int) ≤ v && v < Int.pow 2 63 then v else -(Int.pow 2 63)
  | _ => -(Int.pow 2 63)

/-- The 64-bit unsigned integer a binary64 value at most `2 ^ 64` converts to: values
below `2 ^ 63` go through the signed conversion. -/
def Real64.toUInt64 (f : Real64) : Nat :=
  match f with
  | .finite false b =>
    let t := truncMagnitude b
    if t < Nat.pow 2 64 then t else Nat.pow 2 63
  | .finite true b =>
    let t := truncMagnitude b
    if t == 0 then 0 else if t ≤ Nat.pow 2 63 then Nat.pow 2 64 - t else Nat.pow 2 63
  | _ => Nat.pow 2 63

/-- The texts a boolean field also accepts. -/
def yesWords : List String := ["y", "Y", "yes", "Yes", "YES", "on", "On", "ON"]
def noWords : List String := ["n", "N", "no", "No", "NO", "off", "Off", "OFF"]

/-- A null into a place: lists and optional values become empty, others stay. -/
def nullInto (shape : Shape) (cur : Datum) : Bool × Datum :=
  match shape with
  | .optional _ => (true, .none)
  | .list _ => (true, .list [])
  | _ => (false, cur)

/-- The text a `!!binary` scalar stands for: its base64 bytes, decoded as text. -/
def binaryText (s : String) : Option String :=
  (Text.decodeBase64 s).map Text.decodeLossy

/-- The error of a `!!binary` scalar that is not base64. -/
def binaryError : String := "yaml: !!binary value contains invalid base64 data"

/-- Decode a scalar node into a place. -/
def scalarInto (n : Node) (shape : Shape) (cur : Datum) : DecodeM (Bool × Datum) := do
  let (tag, resolved) ← if n.indicatedString then pure (strTag, Resolved.text n.value)
    else match resolve n.tag n.value with
      | .ok (tag, .text s) =>
        if tag == binaryTag then
          match binaryText s with
          | some t => pure (tag, Resolved.text t)
          | none => throw binaryError
        else pure (tag, Resolved.text s)
      | .ok r => pure r
      | .error e => throw ("yaml: " ++ e)
  if resolved == .null then return nullInto shape cur
  let fail : DecodeM (Bool × Datum) := do typeProblem n tag shape; pure (false, cur)
  match shape with
  | .text =>
    -- a string place takes the scalar as written, or the bytes of a binary one
    match resolved with
    | .text t => return (true, .text (if tag == binaryTag then t else n.value))
    | _ => return (true, .text n.value)
  | .int =>
    match resolved with
    | .int v => if v < Int.pow 2 63 then return (true, .int v) else fail
    | .float f => if f.atMostPow2 63 then return (true, .int f.toInt64) else fail
    | _ => fail
  | .uint32 =>
    match resolved with
    | .int v => if 0 ≤ v && v < Int.pow 2 32 then return (true, .int v) else fail
    | .float f =>
      if f.atMostPow2 64 && f.toUInt64 < Nat.pow 2 32 then return (true, .int f.toUInt64) else fail
    | _ => fail
  | .bool =>
    match resolved with
    | .bool b => return (true, .bool b)
    | .text s =>
      if yesWords.contains s then return (true, .bool true)
      else if noWords.contains s then return (true, .bool false)
      else fail
    | _ => fail
  | _ => fail

/-- The repeated keys of a mapping, as problems. -/
def repeatedKeys (entries : List (Node × Node)) : List String :=
  let keys := entries.map (·.1)
  let indexed := keys.zipIdx
  indexed.flatMap fun (ki, i) =>
    (indexed.filter fun (kj, j) => j > i && ki.kindIndex == kj.kindIndex && ki.value == kj.value).map
      fun (kj, _) =>
        let shown := Text.quote kj.value
        let lj := kj.line
        let li := ki.line
        s!"line {lj}: mapping key {shown} already defined at line {li}"

/-- The node an anchor number stands for. -/
def anchoredNode (doc : Document) (target : Nat) : Node :=
  (doc.anchored.lookup target).getD (.scalar "" nullTag .plain 0)

/-- The text a key decodes to when its type is not fixed, if it is a string. -/
def keyText (doc : Document) : Nat → Node → Option String
  | 0, _ => none
  | fuel + 1, n =>
    match n with
    | .reference _ target _ _ => keyText doc fuel (anchoredNode doc target)
    | .scalar v t _ _ =>
      if n.indicatedString then some v
      else match resolve t v with
        | .ok (tag, .text s) => if tag == binaryTag then binaryText s else some s
        | _ => none
    | _ => none

/-- The error of a merge whose value is not a mapping or a list of mappings. -/
def mergeError : String := "yaml: map merge requires map or sequence of maps as the value"

mutual

/-- Decode a node into a place holding `cur`, reporting whether it was set. -/
def unmarshal (doc : Document) : Nat → Node → Shape → Datum → DecodeM (Bool × Datum)
  | 0, _, _, _ => throw "yaml: document is too deeply nested"
  | fuel + 1, n, shape, cur => do
    match n with
    | .reference name target occurrence _ =>
      if (← get).expanding.contains occurrence then
        throw s!"yaml: anchor '{name}' value contains itself"
      modify fun s => { s with expanding := occurrence :: s.expanding }
      let r ← unmarshal doc fuel (anchoredNode doc target) shape cur
      modify fun s => { s with expanding := s.expanding.erase occurrence }
      return r
    | _ =>
      match shape with
      | .optional target =>
        if n.shortTagOf == nullTag then
          match n with
          | .scalar .. => scalarInto n shape cur
          | _ => do typeProblem n n.tag shape; pure (false, cur)
        else
          let inner := match cur with
            | .none => target.zero
            | d => d
          let (good, d) ← unmarshalValue doc fuel n target inner
          return (good, d)
      | _ => unmarshalValue doc fuel n shape cur

/-- Decode a node that is not an alias into a place that is not optional. -/
def unmarshalValue (doc : Document) : Nat → Node → Shape → Datum → DecodeM (Bool × Datum)
  | 0, _, _, _ => throw "yaml: document is too deeply nested"
  | fuel + 1, n, shape, cur => do
    match n with
    | .scalar .. => scalarInto n shape cur
    | .sequence _ items _ =>
      match shape with
      | .list elem =>
        let kept ← decodeItems doc fuel items elem []
        return (true, .list kept)
      | _ => do typeProblem n seqTag shape; pure (false, cur)
    | .mapping _ entries _ =>
      let repeated := repeatedKeys entries
      if !repeated.isEmpty then
        for r in repeated do report r
        return (false, cur)
      match shape with
      | .record typeName fields => do
        let outer := (← get).merged
        modify fun s => { s with merged := none }
        let (value, mergeNode, outer') ← decodeFields doc fuel typeName fields entries cur none [] outer
        modify fun s => { s with merged := none }
        let value ← match mergeNode with
          | some m => mergeInto doc fuel n m shape value
          | none => pure value
        modify fun s => { s with merged := outer' }
        return (true, value)
      | _ => do typeProblem n mapTag shape; pure (false, cur)
    | .reference .. => unmarshal doc fuel n shape cur

/-- Decode the items of a sequence into fresh values, keeping those that were set. -/
def decodeItems (doc : Document) : Nat → List Node → Shape → List Datum → DecodeM (List Datum)
  | 0, _, _, _ => throw "yaml: document is too deeply nested"
  | _ + 1, [], _, acc => pure acc.reverse
  | fuel + 1, item :: rest, elem, acc => do
    let (good, d) ← unmarshal doc fuel item elem elem.zero
    decodeItems doc fuel rest elem (if good then d :: acc else acc)

/-- Decode the entries of a mapping into a record's fields, returning the record, the
value of a merge key if one was met, and the keys merged so far. -/
def decodeFields (doc : Document) : Nat → String → List (String × Shape) → List (Node × Node) →
    Datum → Option Node → List String → Option (List String) →
    DecodeM (Datum × Option Node × Option (List String))
  | 0, _, _, _, _, _, _, _ => throw "yaml: document is too deeply nested"
  | _ + 1, _, _, [], value, mergeNode, _, outer => pure (value, mergeNode, outer)
  | fuel + 1, typeName, fields, (k, v) :: rest, value, mergeNode, done, outer => do
    if k.isMerge then
      decodeFields doc fuel typeName fields rest value (some v) done outer
    else
      let (ok, keyDatum) ← unmarshal doc fuel k .text (.text "")
      let key := match keyDatum with
        | .text s => s
        | _ => ""
      if !ok then
        decodeFields doc fuel typeName fields rest value mergeNode done outer
      else if (outer.map (·.contains key)).getD false then
        decodeFields doc fuel typeName fields rest value mergeNode done outer
      else
        let outer := outer.map (key :: ·)
        let line := k.line
        match fields.lookup key with
        | some fieldShape =>
          if done.contains key then
            report s!"line {line}: field {key} already set in type {typeName}"
            decodeFields doc fuel typeName fields rest value mergeNode done outer
          else
            let (_, d) ← unmarshal doc fuel v fieldShape (value.field key)
            decodeFields doc fuel typeName fields rest (value.setField key d) mergeNode
              (key :: done) outer
        | none =>
          report s!"line {line}: field {key} not found in type {typeName}"
          decodeFields doc fuel typeName fields rest value mergeNode done outer

/-- Merge the mappings a merge key names into a record. -/
def mergeInto (doc : Document) : Nat → Node → Node → Shape → Datum → DecodeM Datum
  | 0, _, _, _, _ => throw "yaml: document is too deeply nested"
  | fuel + 1, parent, m, shape, value => do
    let saved := (← get).merged
    if saved.isNone then
      let keys := match parent with
        | .mapping _ entries _ => entries.filterMap fun (k, _) => keyText doc (fuel + 1) k
        | _ => []
      modify fun s => { s with merged := some keys }
    let isMapping (node : Node) : Bool :=
      match node with
      | .mapping .. => true
      | .reference _ target _ _ =>
        match anchoredNode doc target with
        | .mapping .. => true
        | _ => false
      | _ => false
    let value ← match m with
      | .mapping .. | .reference .. =>
        if isMapping m then do
          let (_, d) ← unmarshal doc fuel m shape value
          pure d
        else throw mergeError
      | .sequence _ items _ => mergeEach doc fuel items shape value isMapping
      | _ => throw mergeError
    modify fun s => { s with merged := saved }
    return value

/-- Merge each mapping of a list in turn. -/
def mergeEach (doc : Document) : Nat → List Node → Shape → Datum → (Node → Bool) → DecodeM Datum
  | 0, _, _, _, _ => throw "yaml: document is too deeply nested"
  | _ + 1, [], _, value, _ => pure value
  | fuel + 1, item :: rest, shape, value, isMapping => do
    if !isMapping item then throw mergeError
    let (_, d) ← unmarshal doc fuel item shape value
    mergeEach doc fuel rest shape d isMapping

end

/-- Decode the first document of a text into a value of a shape, starting from `init`.
A text without a document is the error `EOF`. -/
def decodeText (supply : Supply) (shape : Shape) (init : Datum) : Except String Datum := do
  match ← firstDocument supply with
  | none => throw "EOF"
  | some doc =>
    let fuel := 8 * (supply.chars.size + 16)
    let ((_, value), st) ← (unmarshal doc fuel doc.root shape init).run {}
    if st.problems.isEmpty then pure value
    else throw ("yaml: unmarshal errors:\n  " ++ "\n  ".intercalate st.problems.reverse)

end PseudoTerm.Yaml
