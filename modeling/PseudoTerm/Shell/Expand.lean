import PseudoTerm.Shell.State
import PseudoTerm.Shell.Arith
import PseudoTerm.Shell.Pattern

/-!
# Expanding words

A word becomes fields in three steps.  Its parts are expanded into pieces of text, each
marked as quoted or not and, for the results of unquoted expansions, as open to
splitting.  Field splitting then cuts the open pieces at the characters of `IFS`: a
run of blanks of `IFS` separates fields and is dropped at both ends; any other `IFS`
character ends a field, so two in a row make an empty field.  A quoted empty text
still makes a field, and `"$@"` makes one field per positional parameter.

Command substitutions are run by the caller's function and lose their trailing
newlines.  Arithmetic expansions expand their text first and then evaluate it.
-/

namespace PseudoTerm.Shell

open PseudoTerm.Machine

/-- A piece of an expanded word. -/
inductive Piece where
  /-- Text; `quoted` texts are never split or read as patterns, `open` ones are split. -/
  | chars (text : String) (quoted : Bool) (isOpen : Bool)
  /-- The end of one positional parameter of `"$@"`. -/
  | boundary
  deriving Repr, Inhabited

namespace Expand

/-- The state of field splitting. -/
structure Splitter where
  fields : Array String := #[]
  current : String := ""
  started : Bool := false
  /-- Whether the last separator was a blank that ended a field. -/
  afterBlank : Bool := false

/-- End the current field. -/
def Splitter.finish (s : Splitter) : Splitter :=
  { s with fields := s.fields.push s.current, current := "", started := false }

/-- Split the pieces of a word into fields. -/
def splitFields (ifs : String) (pieces : List Piece) : List String :=
  let isBlank (c : Char) := c == ' ' || c == '\t' || c == '\n'
  let step (s : Splitter) : Piece → Splitter
    | .boundary => { s.finish with afterBlank := false }
    | .chars t q o =>
      if !o then
        { s with current := s.current ++ t, started := s.started || q || !t.isEmpty, afterBlank := false }
      else
        t.toList.foldl (fun s c =>
          if ifs.toList.contains c then
            if isBlank c then
              if s.started then { s.finish with afterBlank := true } else s
            else if s.afterBlank then { s with afterBlank := false }
            else { s.finish with afterBlank := false }
          else { s with current := s.current.push c, started := true, afterBlank := false }) s
  let s := pieces.foldl step {}
  (if s.started then s.finish else s).fields.toList

/-- The text of pieces, joined. -/
def joinPieces (pieces : List Piece) : String :=
  String.join (pieces.map fun
    | .chars t _ _ => t
    | .boundary => "")

/-- The characters of pieces for a pattern, each with whether it was quoted. -/
def patternChars (pieces : List Piece) : List (Char × Bool) :=
  pieces.flatMap fun
    | .chars t q _ => t.toList.map (·, q)
    | .boundary => []

/-- Remove trailing newlines. -/
def dropNewlines (s : String) : String :=
  String.ofList (s.toList.reverse.dropWhile (· == '\n')).reverse

end Expand

variable {μ : Type}

/-- The value of a parameter: a special one, a positional one or a variable. -/
def paramValue (name : String) : ShellM μ (Option String) := do
  let s ← get
  match name with
  | "?" => pure (some (toString s.status))
  | "$" => pure (some (toString s.rootPid))
  | "!" => pure (s.lastJob.map toString)
  | "#" => pure (some (toString s.params.length))
  | "0" => pure (some s.arg0)
  | "-" => pure (some (if s.errexit then "e" else ""))
  | "@" | "*" =>
    if s.params.isEmpty then pure none
    else pure (some (" ".intercalate s.params))
  | _ =>
    if name.all Char.isDigit then
      let n := name.toNat!
      pure (s.params[n - 1]?)
    else pure (s.get? name)

/-- The pieces of a parameter's value. -/
def valuePieces (name : String) (value : String) (quoted : Bool) : ShellM μ (List Piece) := do
  let s ← get
  if quoted && name == "@" then
    pure (List.intercalate [Piece.boundary] (s.params.map fun p => [Piece.chars p true false]))
  else if quoted && name == "*" then
    let sep := (s.ifs.toList.head?.map String.singleton).getD ""
    pure [.chars (sep.intercalate s.params) true false]
  else pure [.chars value quoted (!quoted)]

/-- Set a variable, or fail when the name cannot be assigned. -/
def assignVar (name value : String) : ShellM μ Unit := do
  if isVarName name then modify fun s => s.set name value
  else ShellM.fatal s!"{name}: bad variable name"

/-- The home directory of a user, from the user table. -/
def homeOf (user : String) : ShellM μ (Option String) := do
  match ← ShellM.sys (Sys.openPath (μ := μ) "/etc/passwd" { closeOnExec := true }) with
  | .error _ => pure none
  | .ok fd =>
    let (data, _) ← ShellM.sys (Sys.readToEnd (μ := μ) fd)
    let _ ← ShellM.sys (Sys.close (μ := μ) fd)
    let text := (String.fromUTF8? data).getD ""
    let found := (text.splitOn "\n").findSome? fun line =>
      let fields := line.splitOn ":"
      if fields.length == 7 && fields.head? == some user then fields[5]? else none
    pure found

mutual

/-- Expand one part into pieces; `subst` runs a command substitution. -/
def expandPart (subst : String → ShellM μ String) : Part → ShellM μ (List Piece)
  | .text s q => pure [.chars s q false]
  | .tilde user => do
    if user.isEmpty then
      match (← get).get? "HOME" with
      | some h => pure [.chars h true false]
      | none => pure [.chars "~" false false]
    else
      match ← homeOf user with
      | some h => pure [.chars h true false]
      | none => pure [.chars ("~" ++ user) false false]
  | .length name _ => do
    let s ← get
    if name == "@" || name == "*" then pure [.chars (toString s.params.length) false false]
    else
      let v ← paramValue name
      pure [.chars (toString (v.getD "").length) false false]
  | .command src q => do
    let out ← subst src
    pure [.chars (Expand.dropNewlines out) q (!q)]
  | .arith parts q => do
    let inner ← expandParts subst parts
    let text := Expand.joinPieces inner
    let s ← get
    match evalArith s.get? text with
    | .ok (v, assigned) =>
      for (n, x) in assigned do
        modify fun s => s.set n (toString x)
      pure [.chars (toString v) q (!q)]
    | .error e => ShellM.fatal (e.message text)
  | .param name op arg q => do
    let v ← paramValue name
    match op with
    | .plain =>
      match v with
      | some x => valuePieces name x q
      | none => pure (if q && name == "@" then [] else [.chars "" q false])
    | .useDefault colon =>
      match v with
      | some x => if colon && x.isEmpty then expandParts subst arg else valuePieces name x q
      | none => expandParts subst arg
    | .assignDefault colon =>
      let unsetOrEmpty := match v with
        | some x => colon && x.isEmpty
        | none => true
      if unsetOrEmpty then
        let text := Expand.joinPieces (← expandParts subst arg)
        assignVar name text
        pure [.chars text q (!q)]
      else valuePieces name (v.getD "") q
    | .errorIfUnset colon =>
      let unsetOrEmpty := match v with
        | some x => colon && x.isEmpty
        | none => true
      if unsetOrEmpty then
        let text := Expand.joinPieces (← expandParts subst arg)
        let msg := if !text.isEmpty then text
          else if colon then "parameter null or not set" else "parameter not set"
        ShellM.fatal s!"{name}: {msg}"
      else valuePieces name (v.getD "") q
    | .useAlternative colon =>
      match v with
      | some x => if colon && x.isEmpty then pure [] else expandParts subst arg
      | none => pure []
    | .removeSuffix largest =>
      let pat := Pattern.compile 100000 (Expand.patternChars (← expandParts subst arg))
      pure [.chars (Pattern.removeSuffix pat largest (v.getD "")) q (!q)]
    | .removePrefix largest =>
      let pat := Pattern.compile 100000 (Expand.patternChars (← expandParts subst arg))
      pure [.chars (Pattern.removePrefix pat largest (v.getD "")) q (!q)]

/-- Expand parts one after another. -/
def expandParts (subst : String → ShellM μ String) : List Part → ShellM μ (List Piece)
  | [] => pure []
  | p :: ps => do
    let a ← expandPart subst p
    let b ← expandParts subst ps
    pure (a ++ b)

end

/-- Expand a word into fields. -/
def expandFields (subst : String → ShellM μ String) (w : Word) : ShellM μ (List String) := do
  let pieces ← expandParts subst w
  let s ← get
  pure (Expand.splitFields s.ifs pieces)

/-- Expand words into fields. -/
def expandAll (subst : String → ShellM μ String) : List Word → ShellM μ (List String)
  | [] => pure []
  | w :: ws => do
    let a ← expandFields subst w
    let b ← expandAll subst ws
    pure (a ++ b)

/-- Expand a word into one text, without splitting. -/
def expandText (subst : String → ShellM μ String) (w : Word) : ShellM μ String := do
  let pieces ← expandParts subst w
  pure (Expand.joinPieces pieces)

/-- Expand a word into a pattern. -/
def expandPattern (subst : String → ShellM μ String) (w : Word) : ShellM μ Pattern := do
  let pieces ← expandParts subst w
  let chars := Expand.patternChars pieces
  pure (Pattern.compile (chars.length + 1) chars)

end PseudoTerm.Shell
