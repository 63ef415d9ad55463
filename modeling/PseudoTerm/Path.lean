/-!
# Slash-separated paths

Lexical operations on paths, without looking at any file system.  `clean` gives the
shortest equivalent path: runs of slashes become one, `.` elements go, and `..` removes
the element before it (at the root it is dropped; in a relative path with nothing left
to remove it stays).  An empty result is `.`.  `join` puts the non-empty parts together
with slashes and cleans the result; `dir` is everything before the last slash, cleaned.
-/

namespace PseudoTerm.Path

/-- Whether a path starts at the root. -/
def isAbsolute (p : String) : Bool := p.startsWith "/"

/-- The non-empty elements between slashes. -/
def elements (p : String) : List String := (p.splitOn "/").filter (· ≠ "")

/-- Resolve `.` and `..` over a stack of kept elements (innermost first). -/
def resolve (rooted : Bool) : List String → List String → List String
  | kept, [] => kept
  | kept, "." :: rest => resolve rooted kept rest
  | kept, ".." :: rest =>
    match kept with
    | k :: ks => if k == ".." then resolve rooted (".." :: kept) rest else resolve rooted ks rest
    | [] => if rooted then resolve rooted [] rest else resolve rooted [".."] rest
  | kept, e :: rest => resolve rooted (e :: kept) rest

/-- The shortest path naming the same place, by lexical rules alone. -/
def clean (p : String) : String :=
  let rooted := isAbsolute p
  let kept := (resolve rooted [] (elements p)).reverse
  let body := "/".intercalate kept
  if rooted then "/" ++ body
  else if body.isEmpty then "." else body

/-- The non-empty parts joined by slashes and cleaned; empty when every part is empty. -/
def join (parts : List String) : String :=
  let nonEmpty := parts.filter (· ≠ "")
  if nonEmpty.isEmpty then "" else clean ("/".intercalate nonEmpty)

/-- Everything before the last slash, cleaned; `.` for a path without a slash. -/
def dir (p : String) : String :=
  let chars := p.toList
  match chars.reverse.dropWhile (· ≠ '/') with
  | [] => "."
  | rest => clean (String.ofList rest.reverse)

/-- The last element of a path, after dropping trailing slashes; `/` for the root. -/
def base (p : String) : String :=
  if p.isEmpty then "."
  else
    match (elements p).getLast? with
    | some last => last
    | none => "/"

/-- A path made absolute against a working directory, then cleaned. -/
def absolute (cwd p : String) : String :=
  if isAbsolute p then clean p else clean (cwd ++ "/" ++ p)

end PseudoTerm.Path
