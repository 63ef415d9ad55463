/-!
# Environment lists

An environment is a list of `KEY=VALUE` entries.  The key of an entry is its text before
the first `=`, or the whole entry when it has none.  Looking a key up scans from the end
and only sees entries that hold an `=`; merging overlays entries so that the last entry of
each key wins while keeping the position where that key first appeared.

A session's environment is the inherited one (unless it starts clean) merged with the
session's own entries, with `TERM` added at the end when no entry defines it.
-/

namespace PseudoTerm.Environment

/-- The text before the first `=`, or the whole entry. -/
def key (entry : String) : String := String.ofList (entry.toList.takeWhile (· ≠ '='))

/-- The text after the first `=`, when the entry has one. -/
def value? (entry : String) : Option String :=
  match entry.toList.dropWhile (· ≠ '=') with
  | _ :: rest => some (String.ofList rest)
  | [] => none

/-- The value of the last entry that defines `k` with an `=`. -/
def lookup (env : List String) (k : String) : Option String :=
  env.reverse.findSome? fun entry =>
    match value? entry with
    | some v => if key entry == k then some v else none
    | none => none

/-- Put one entry into a merged list: it replaces the entry of its key, or goes last. -/
def overlay (merged : List String) (entry : String) : List String :=
  if merged.any (fun e => key e == key entry) then
    merged.map fun e => if key e == key entry then entry else e
  else merged ++ [entry]

/-- `base` overlaid with `extra`: the last entry of each key, at the key's first position. -/
def merge (base extra : List String) : List String :=
  (base ++ extra).foldl overlay []

/-- The environment of a session: the inherited entries (none when `clean`) merged with the
session's own, and `TERM=term` appended when no entry defines `TERM`. -/
def forSession (inherited : List String) (clean : Bool) (extra : List String)
    (term : String) : List String :=
  let merged := merge (if clean then [] else inherited) extra
  match lookup merged "TERM" with
  | some _ => merged
  | none => merged ++ ["TERM=" ++ term]

/-- One entry of the pass a program makes over its environment at start: `acc` holds the
entries kept so far and the keys met so far. -/
def keepFirst (acc : List String × List String) (entry : String) : List String × List String :=
  let (out, seen) := acc
  if entry.isEmpty then (out, seen)
  else if !entry.contains '=' then (out ++ [entry], seen)
  else if seen.contains (key entry) then (out, seen)
  else (out ++ [entry], key entry :: seen)

/-- The environment a program reads at start: the first entry of each key (the text
before the first `=`), entries without `=` kept, empty entries dropped. -/
def firstOfEachKey (env : List String) : List String :=
  (env.foldl keepFirst ([], [])).1

end PseudoTerm.Environment
