import PseudoTerm.Programs.Tool
import PseudoTerm.Text.FloatText

/-!
# Comparing lines: `sort` and `uniq`

`sort` orders the lines of its inputs by keys (`-k`), each a stretch of the line from a
field and character to another, fields separated by a given character (`-t`) or by runs
of blanks (kept with the field that follows).  A key compares as bytes, or, by its
letters, as a number (`n`: optional minus, digits and a decimal fraction; what is not a
number is zero), a floating number (`g`), a number with a unit suffix (`h`), a month
name (`M`), a version (`V`); it may skip leading blanks (`b`), fold lower case to upper
(`f`), ignore all but letters, digits and blanks (`d`) or the bytes that do not print
(`i`), and be reversed (`r`).  Letters given as options apply to keys that have none of
their own, and to the whole line when no key is given.  Lines whose keys are equal are
ordered by all their bytes (reversed by `-r`) unless `-s` or `-u` is given; `-u` keeps
the first of each run of equal lines.  `-c` checks the order instead, reporting the
first line out of place; `-o` writes to a file after reading everything.

`uniq` writes one line of each run of equal adjacent lines, comparing after skipping
fields (`-f`) and characters (`-s`), at most some characters (`-w`), without case
(`-i`); `-c` counts the run, `-d` writes only repeated lines, `-u` only unrepeated ones,
`-D` every line of the repeated runs.
-/

namespace PseudoTerm.Programs

open PseudoTerm.Machine PseudoTerm.Text Tool

variable {μ : Type}

namespace Sorting

/-- A line as bytes, without its end. -/
abbrev Bytes := List UInt8

/-- Whether a byte is a decimal digit. -/
def isDigit (b : UInt8) : Bool := 48 ≤ b && b ≤ 57

/-- Whether a byte separates fields when no separator is given. -/
def isBlank (b : UInt8) : Bool := b == 32 || b == 9 || b == 10

/-- Whether a byte prints. -/
def prints (b : UInt8) : Bool := 32 ≤ b && b < 127

/-- Whether a byte is an ASCII letter or digit. -/
def isAlnum (b : UInt8) : Bool := isDigit b || (65 ≤ b && b ≤ 90) || (97 ≤ b && b ≤ 122)

/-- A byte in upper case. -/
def upper (b : UInt8) : UInt8 := if 97 ≤ b && b ≤ 122 then b - 32 else b

/-- The first byte, or zero at the end, as the end of a text reads. -/
def first (l : Bytes) : UInt8 := l.headD 0

/-- The bytes after a run of zeros. -/
def dropZeros (l : Bytes) : Bytes := l.dropWhile (· == 48)

/-- After a decimal point and zeros: the rest when it starts with a point, else as is. -/
def skipPointZeros (l : Bytes) : Bytes :=
  if first l == 46 then dropZeros l.tail else l

/-- Step past the digits two numbers share. -/
def commonDigits : Bytes → Bytes → Bytes × Bytes
  | x :: xs, y :: ys => if x == y && isDigit x then commonDigits xs ys else (x :: xs, y :: ys)
  | a, b => (a, b)

/-- Compare two fractions after the digits they share; both texts start at their
decimal point (or whatever follows the integer part). -/
def fractionOrder (a b : Bytes) : Int :=
  let trailing (l : Bytes) : Int := if isDigit (first (dropZeros l)) then 1 else 0
  match a, b with
  | 46 :: ra, 46 :: rb =>
    let rec go : Bytes → Bytes → Int
      | x :: xs, y :: ys =>
        if x == y then (if isDigit x then go xs ys else 0)
        else if isDigit x && isDigit y then (x.toNat : Int) - y.toNat
        else if isDigit x then trailing (x :: xs)
        else if isDigit y then -trailing (y :: ys)
        else 0
      | x :: xs, [] => if isDigit x then trailing (x :: xs) else 0
      | [], y :: ys => if isDigit y then -trailing (y :: ys) else 0
      | [], [] => 0
    go ra rb
  | 46 :: ra, _ => trailing ra
  | _, 46 :: rb => -trailing rb
  | _, _ => 0

/-- The count of digits a text starts with. -/
def digitCount (l : Bytes) : Nat := (l.takeWhile isDigit).length

/-- Compare two numbers of the same sign by magnitude, zeros already skipped. -/
def magnitudeOrder (a b : Bytes) : Int :=
  let (a, b) := commonDigits a b
  if (first a == 46 && !isDigit (first b)) || (first b == 46 && !isDigit (first a)) then
    fractionOrder a b
  else
    let diff : Int := (first a).toNat - (first b).toNat
    let la := digitCount a
    let lb := digitCount b
    if la != lb then (if la < lb then -1 else 1)
    else if la == 0 then 0
    else diff

/-- Compare two texts as decimal numbers with an optional minus sign (blanks skipped);
what is not a number counts as zero. -/
def numberOrder (a b : Bytes) : Int :=
  let a := a.dropWhile isBlank
  let b := b.dropWhile isBlank
  match a, b with
  | 45 :: ra, 45 :: rb => magnitudeOrder (dropZeros rb) (dropZeros ra)
  | 45 :: ra, _ =>
    if isDigit (first (skipPointZeros (dropZeros ra))) then -1
    else if isDigit (first (skipPointZeros (dropZeros b))) then -1 else 0
  | _, 45 :: rb =>
    if isDigit (first (skipPointZeros (dropZeros rb))) then 1
    else if isDigit (first (skipPointZeros (dropZeros a))) then 1 else 0
  | _, _ => magnitudeOrder (dropZeros a) (dropZeros b)

/-- The power of a unit suffix after a number: `K`/`k` 1, `M` 2, up to `Q` 10. -/
def unitOrder (b : UInt8) : Int :=
  match (Char.ofNat b.toNat) with
  | 'K' | 'k' => 1
  | 'M' => 2
  | 'G' => 3
  | 'T' => 4
  | 'P' => 5
  | 'E' => 6
  | 'Z' => 7
  | 'Y' => 8
  | 'R' => 9
  | 'Q' => 10
  | _ => 0

/-- The unit power of a number with a suffix, negative for a negative number. -/
def suffixPower (l : Bytes) : Int :=
  let (neg, body) := match l with
    | 45 :: r => (true, r)
    | r => (false, r)
  let rec scan : Nat → Bytes → Bytes
    | 0, r => r
    | fuel + 1, r =>
      let r := r.dropWhile isDigit
      if first r == 46 then scan fuel r.tail else r
  let rest := scan body.length body
  let order := unitOrder (first rest)
  if neg then -order else order

/-- Compare two numbers with unit suffixes: by unit, then as numbers. -/
def humanOrder (a b : Bytes) : Int :=
  let a := a.dropWhile isBlank
  let b := b.dropWhile isBlank
  let d := suffixPower a - suffixPower b
  if d != 0 then d else numberOrder a b

/-- A text as characters, one per byte. -/
def asText (l : Bytes) : String := String.ofList (l.map fun b => Char.ofNat b.toNat)

/-- Compare two texts as floating numbers: texts that are not numbers first, then
not-a-number values, then the numbers in order. -/
def floatOrder (a b : Bytes) : Int :=
  let ra := readFloat (asText a)
  let rb := readFloat (asText b)
  if ra.consumed == 0 then (if rb.consumed == 0 then 0 else -1)
  else if rb.consumed == 0 then 1
  else
    match ra.value.order? rb.value with
    | some .lt => -1
    | some .gt => 1
    | some .eq => 0
    | none =>
      match ra.value, rb.value with
      | .nan _, .nan _ => 0
      | .nan _, _ => -1
      | _, _ => 1

/-- The month names in upper case, in order. -/
def monthNames : List String :=
  ["JAN", "FEB", "MAR", "APR", "MAY", "JUN", "JUL", "AUG", "SEP", "OCT", "NOV", "DEC"]

/-- The month a text starts with (blanks skipped, case ignored), from 1, or 0. -/
def monthOf (l : Bytes) : Int :=
  let l := (l.dropWhile isBlank).map upper
  match (monthNames.zipIdx.find? fun (m, _) => m.toUTF8.toList.isPrefixOf l) with
  | some (_, i) => i + 1
  | none => 0

/-- The rank of a byte at a place of a version text: the end before everything but `~`,
digits apart, letters by code, `~` before the end, other bytes after letters. -/
def versionRank : Bytes → Int
  | [] => -1
  | c :: _ =>
    if isDigit c then 0
    else if (65 ≤ c && c ≤ 90) || (97 ≤ c && c ≤ 122) then c.toNat
    else if c == 126 then -2
    else c.toNat + 256

/-- Compare two version texts: runs of non-digits by rank, then runs of digits by value. -/
def versionRunOrder (a b : Bytes) : Int :=
  go (a.length + b.length + 1) a b
where
  /-- Compare the non-digit runs at the start. -/
  nonDigits : Nat → Bytes → Bytes → Except Int (Bytes × Bytes)
    | 0, a, b => .ok (a, b)
    | fuel + 1, a, b =>
      if (a.isEmpty || isDigit (first a)) && (b.isEmpty || isDigit (first b)) then .ok (a, b)
      else
        let ra := versionRank a
        let rb := versionRank b
        if ra != rb then .error (ra - rb) else nonDigits fuel a.tail b.tail
  /-- Compare run after run. -/
  go : Nat → Bytes → Bytes → Int
    | 0, _, _ => 0
    | fuel + 1, a, b =>
      if a.isEmpty && b.isEmpty then 0
      else
        match nonDigits (a.length + b.length + 1) a b with
        | .error d => d
        | .ok (a, b) =>
          let a := dropZeros a
          let b := dropZeros b
          let da := a.takeWhile isDigit
          let db := b.takeWhile isDigit
          let firstDiff := ((da.zip db).find? fun (x, y) => x != y).map fun (x, y) => (x.toNat : Int) - y.toNat
          let a' := a.drop (min da.length db.length)
          let b' := b.drop (min da.length db.length)
          if isDigit (first a') && !a'.isEmpty then 1
          else if isDigit (first b') && !b'.isEmpty then -1
          else
            match firstDiff with
            | some d => if d != 0 then d else go fuel a' b'
            | none => go fuel a' b'

/-- The length of a file name without its suffixes: the longest tail of `.` followed by a
letter or `~` and then letters, digits and `~`, repeated. -/
def versionPrefixLength (l : Bytes) : Nat :=
  let arr := l.toArray
  let n := arr.size
  let isSuffixChar (c : UInt8) : Bool := isAlnum c || c == 126
  let rec go : Nat → Nat → Nat → Nat
    | 0, _, p => p
    | fuel + 1, i, p =>
      if i ≥ n then p
      else
        let i := i + 1
        let p := i
        let rec skip : Nat → Nat → Nat
          | 0, j => j
          | f + 1, j =>
            if j + 1 < n && arr[j]! == 46 && (isAlnum arr[j + 1]! && !isDigit arr[j + 1]! || arr[j + 1]! == 126) then
              skip f (((List.range (n - (j + 2))).map (· + j + 2)).find? (fun k => !isSuffixChar arr[k]!) |>.getD n)
            else j
        go fuel (skip n i) p
  go (n + 1) 0 0

/-- Compare two texts as versions (file names with version numbers). -/
def versionOrder (a b : Bytes) : Int :=
  if a.isEmpty then (if b.isEmpty then 0 else -1)
  else if b.isEmpty then 1
  else
    let special : Option Int :=
      if first a == 46 then
        if first b != 46 then some (-1)
        else if a.length == 1 then some (if b.length == 1 then 0 else -1)
        else if b.length == 1 then some 1
        else if a == [46, 46] then some (if b == [46, 46] then 0 else -1)
        else if b == [46, 46] then some 1
        else none
      else if first b == 46 then some 1
      else none
    match special with
    | some d => d
    | none =>
      let pa := versionPrefixLength a
      let pb := versionPrefixLength b
      let r := versionRunOrder (a.take pa) (b.take pb)
      if r != 0 || (pa == a.length && pb == b.length) then r else versionRunOrder a b

/-- Which bytes a key ignores. -/
inductive Ignoring where
  | nothing
  /-- All but letters, digits and blanks. -/
  | nonDictionary
  /-- The bytes that do not print. -/
  | nonPrinting
  deriving DecidableEq, Repr, Inhabited

/-- Whether a byte is ignored. -/
def Ignoring.drops : Ignoring → UInt8 → Bool
  | .nothing, _ => false
  | .nonDictionary, b => !isAlnum b && !isBlank b
  | .nonPrinting, b => !prints b

/-- How a key is compared. -/
structure Collation where
  skipStart : Bool := false
  skipEnd : Bool := false
  ignoring : Ignoring := .nothing
  fold : Bool := false
  numeric : Bool := false
  general : Bool := false
  human : Bool := false
  month : Bool := false
  random : Bool := false
  version : Bool := false
  reverse : Bool := false
  deriving DecidableEq, Repr, Inhabited

/-- Whether an ordering is the plain one (reversal aside). -/
def Collation.plain (o : Collation) : Bool :=
  !o.skipStart && !o.skipEnd && o.ignoring == .nothing && !o.fold && !o.numeric && !o.general &&
  !o.human && !o.month && !o.random && !o.version

/-- A key: from field `startField` (from 0) and character `startChar` to field
`endField`'s character `endChar` (0: the end of that field), or the end of the line. -/
structure SortKey where
  startField : Nat := 0
  startChar : Nat := 0
  endField : Option Nat := none
  endChar : Nat := 0
  order : Collation := {}
  deriving Repr, Inhabited

/-- Skip `n` fields from the start of a text. -/
def skipFields (sep : Option UInt8) : Nat → Bytes → Bytes
  | 0, l => l
  | n + 1, l =>
    if l.isEmpty then l
    else
      match sep with
      | some t =>
        let r := l.dropWhile (· != t)
        skipFields sep n (if r.isEmpty then r else r.tail)
      | none => skipFields sep n ((l.dropWhile isBlank).dropWhile (!isBlank ·))

/-- Where a key starts in a line, as the number of bytes before it. -/
def keyStart (sep : Option UInt8) (k : SortKey) (line : Bytes) : Nat :=
  let r := skipFields sep k.startField line
  let r := if k.order.skipStart then r.dropWhile isBlank else r
  min line.length (line.length - r.length + k.startChar)

/-- Where a key ends in a line, as the number of bytes before its end. -/
def keyEnd (sep : Option UInt8) (k : SortKey) (line : Bytes) : Nat :=
  match k.endField with
  | none => line.length
  | some e =>
    let words := if k.endChar == 0 then e + 1 else e
    -- the last field skipped keeps its separator unless a character offset follows
    let r := match sep with
      | some t =>
        let rec go : Nat → Bytes → Bytes
          | 0, l => l
          | w + 1, l =>
            if l.isEmpty then l
            else
              let r := l.dropWhile (· != t)
              if !r.isEmpty && (w != 0 || k.endChar != 0) then go w r.tail else go w r
        go words line
      | none => skipFields none words line
    if k.endChar != 0 then
      let r := if k.order.skipEnd then r.dropWhile isBlank else r
      min line.length (line.length - r.length + k.endChar)
    else line.length - r.length

/-- The bytes of a key in a line. -/
def keyBytes (sep : Option UInt8) (k : SortKey) (line : Bytes) : Bytes :=
  let s := keyStart sep k line
  let e := max s (keyEnd sep k line)
  (line.drop s).take (e - s)

/-- Compare byte texts, shorter first on a common start. -/
def byteOrder : Bytes → Bytes → Int
  | [], [] => 0
  | [], _ => -1
  | _, [] => 1
  | x :: xs, y :: ys => if x == y then byteOrder xs ys else (x.toNat : Int) - y.toNat

/-- A simple deterministic mixing of bytes, standing for a random order. -/
def mix (l : Bytes) : Nat := l.foldl (fun h b => (h * 1099511628211 + b.toNat + 1) % 18446744073709551557) 14695981039346656037

/-- Compare two keys by an ordering, before reversal. -/
def keyOrder (o : Collation) (a b : Bytes) : Int :=
  let prepare (l : Bytes) : Bytes :=
    (l.filter fun x => !o.ignoring.drops x).map fun x => if o.fold then upper x else x
  let a := prepare a
  let b := prepare b
  if o.numeric then numberOrder a b
  else if o.general then floatOrder a b
  else if o.human then humanOrder a b
  else if o.month then monthOf a - monthOf b
  else if o.random then
    let d : Int := (mix a : Int) - mix b
    if d != 0 then d else byteOrder a b
  else if o.version then versionOrder a b
  else byteOrder a b

/-- What `sort` was asked. -/
structure Settings where
  keys : List SortKey := []
  global : Collation := {}
  sep : Option UInt8 := none
  unique : Bool := false
  stable : Bool := false
  zero : Bool := false
  deriving Repr, Inhabited

/-- Compare two lines: by their keys, then (unless stable or unique) by all their bytes;
without keys, by all their bytes. -/
def Settings.compare (s : Settings) (a b : Bytes) : Int :=
  let byKeys := s.keys.foldl (fun acc k =>
    if acc != 0 then acc
    else
      let d := keyOrder k.order (keyBytes s.sep k a) (keyBytes s.sep k b)
      if k.order.reverse then -d else d) 0
  if !s.keys.isEmpty && (byKeys != 0 || s.unique || s.stable) then byKeys
  else
    let d := byteOrder a b
    if s.global.reverse then -d else d

/-- Apply the letters of an ordering; answers the ordering and the rest of the text. -/
def orderingLetters (o : Collation) (start : Bool) : List Char → Collation × List Char
  | [] => (o, [])
  | c :: rest =>
    let next := match c with
      | 'b' => some (if start then { o with skipStart := true } else { o with skipEnd := true })
      | 'd' => some { o with ignoring := .nonDictionary }
      | 'f' => some { o with fold := true }
      | 'g' => some { o with general := true }
      | 'h' => some { o with human := true }
      | 'i' => some (if o.ignoring == .nothing then { o with ignoring := .nonPrinting } else o)
      | 'M' => some { o with month := true }
      | 'n' => some { o with numeric := true }
      | 'R' => some { o with random := true }
      | 'r' => some { o with reverse := true }
      | 'V' => some { o with version := true }
      | _ => none
    match next with
    | some o => orderingLetters o start rest
    | none => (o, c :: rest)

/-- A decimal count at the start of a text; none when there is none, the largest value
when too large. -/
def leadingCount (cs : List Char) : Option (Nat × List Char) :=
  let ds := cs.takeWhile Char.isDigit
  if ds.isEmpty then none
  else some (ds.foldl (fun acc d => min (acc * 10 + (d.toNat - 48)) (Nat.pow 2 64)) 0, cs.drop ds.length)

/-- Read a key specification `F[.C][OPTS][,F[.C][OPTS]]`, or the message refusing it. -/
def readKey (spec : String) : Except String SortKey := do
  let bad (why : String) : String := s!"{why}: invalid field specification {mention spec}"
  let count (cs : List Char) (why : String) : Except String (Nat × List Char) :=
    match leadingCount cs with
    | some r => .ok r
    | none => .error s!"{why}: invalid count at start of {mention (String.ofList cs)}"
  let (f, rest) ← count spec.toList "invalid number at field start"
  if f == 0 then throw (bad "field number is zero")
  let (c, rest) ← match rest with
    | '.' :: more => do
      let (c, more) ← count more "invalid number after '.'"
      if c == 0 then throw (bad "character offset is zero")
      pure (c - 1, more)
    | _ => pure (0, rest)
  let (o, rest) := orderingLetters {} true rest
  let key : SortKey := { startField := f - 1, startChar := c, order := o }
  match rest with
  | ',' :: more =>
    let (e, more) ← count more "invalid number after ','"
    if e == 0 then throw (bad "field number is zero")
    let (ec, more) ← match more with
      | '.' :: m => count m "invalid number after '.'"
      | _ => pure (0, more)
    let (o, more) := orderingLetters key.order false more
    if !more.isEmpty then throw (bad "stray character in field spec")
    pure { key with endField := some (e - 1), endChar := ec, order := o }
  | [] => pure key
  | _ => throw (bad "stray character in field spec")

/-- The letters of an ordering, for the message about letters that do not go together. -/
def Collation.letters (o : Collation) : String :=
  String.ofList <|
    (if o.ignoring == .nonDictionary then ['d'] else []) ++ (if o.fold then ['f'] else []) ++
    (if o.general then ['g'] else []) ++ (if o.human then ['h'] else []) ++
    (if o.ignoring == .nonPrinting then ['i'] else []) ++ (if o.month then ['M'] else []) ++
    (if o.numeric then ['n'] else []) ++ (if o.random then ['R'] else []) ++
    (if o.version then ['V'] else [])

/-- Whether an ordering asks for two kinds of comparison at once. -/
def Collation.clashes (o : Collation) : Bool :=
  let count := [o.numeric, o.general, o.human, o.month, o.version || o.random || o.ignoring != .nothing].count true
  count > 1

/-- Split input bytes into lines at an end byte; a last line without its end counts. -/
def splitLines (data : ByteArray) (sep : UInt8) : List Bytes :=
  let parts := data.toList.splitOn sep
  match parts.getLast? with
  | some [] => parts.dropLast
  | _ => parts

/-- The options of `sort`. -/
def sortOptions : List OptionDef :=
  [letterOption 'b' .none (some "ignore-leading-blanks"), letterOption 'c' .none none,
   { key := "check", long := some "check", value := .optional },
   letterOption 'C' .none none, letterOption 'd' .none (some "dictionary-order"),
   letterOption 'f' .none (some "ignore-case"), letterOption 'g' .none (some "general-numeric-sort"),
   letterOption 'h' .none (some "human-numeric-sort"), letterOption 'i' .none (some "ignore-nonprinting"),
   letterOption 'k' .required (some "key"), letterOption 'm' .none (some "merge"),
   letterOption 'M' .none (some "month-sort"), letterOption 'n' .none (some "numeric-sort"),
   letterOption 'o' .required (some "output"), letterOption 'r' .none (some "reverse"),
   letterOption 'R' .none (some "random-sort"), letterOption 's' .none (some "stable"),
   letterOption 'S' .required (some "buffer-size"), letterOption 't' .required (some "field-separator"),
   letterOption 'T' .required (some "temporary-directory"), letterOption 'u' .none (some "unique"),
   letterOption 'V' .none (some "version-sort"), letterOption 'z' .none (some "zero-terminated"),
   longOnly "parallel" .required, longOnly "batch-size" .required, longOnly "debug",
   longOnly "random-source" .required, longOnly "sort" .required,
   longOnly "compress-program" .required, longOnly "files0-from" .required]

end Sorting

open Sorting in
/-- `sort`. -/
def sortProgram (inv : Invocation) : Prog μ Unit := Tool.run inv do
  let c := readCommandLine sortOptions (inv.args.drop 1)
  let mut s : Settings := {}
  let mut check : Option Bool := none
  let mut output : Option String := none
  for o in c.options do
    let v := o.value.getD ""
    match o.key with
    | "b" => s := { s with global := { s.global with skipStart := true, skipEnd := true } }
    | "d" => s := { s with global := { s.global with ignoring := .nonDictionary } }
    | "f" => s := { s with global := { s.global with fold := true } }
    | "g" => s := { s with global := { s.global with general := true } }
    | "h" => s := { s with global := { s.global with human := true } }
    | "i" =>
      if s.global.ignoring == .nothing then s := { s with global := { s.global with ignoring := .nonPrinting } }
    | "M" => s := { s with global := { s.global with month := true } }
    | "n" => s := { s with global := { s.global with numeric := true } }
    | "R" => s := { s with global := { s.global with random := true } }
    | "r" => s := { s with global := { s.global with reverse := true } }
    | "V" => s := { s with global := { s.global with version := true } }
    | "sort" =>
      match v with
      | "general-numeric" => s := { s with global := { s.global with general := true } }
      | "human-numeric" => s := { s with global := { s.global with human := true } }
      | "month" => s := { s with global := { s.global with month := true } }
      | "numeric" => s := { s with global := { s.global with numeric := true } }
      | "random" => s := { s with global := { s.global with random := true } }
      | "version" => s := { s with global := { s.global with version := true } }
      | _ => pure ()
    | "c" => check := some true
    | "C" => check := some false
    | "check" => check := some (v != "quiet" && v != "silent")
    | "k" =>
      match readKey v with
      | .ok k => s := { s with keys := s.keys ++ [k] }
      | .error msg => fail msg 2
    | "o" => output := some v
    | "s" => s := { s with stable := true }
    | "u" => s := { s with unique := true }
    | "z" => s := { s with zero := true }
    | "t" =>
      let bs := v.toUTF8.toList
      let t ← match bs with
        | [] => fail "empty tab" 2
        | [b] => pure b
        | _ => if v == "\\0" then pure 0 else fail s!"multi-character tab {mention v}" 2
      if s.sep.isSome && s.sep != some t then fail "incompatible tabs" 2
      s := { s with sep := some t }
    | _ => pure ()
  checkOptions c 2
  -- keys without letters of their own take the global ones
  let keys := s.keys.map fun k =>
    if k.order.plain && !k.order.reverse then { k with order := s.global } else k
  let keys := if keys.isEmpty && !s.global.plain then [{ order := s.global }] else keys
  s := { s with keys }
  for k in s.keys do
    if k.order.clashes then fail s!"options '-{k.order.letters}' are incompatible" 2
  let paths := if c.operands.isEmpty then ["-"] else c.operands
  for p in paths do
    if p != "-" then
      if let .error e ← Sys.status (μ := μ) p then
        fail s!"cannot read: {mentionFile p}: {e.sentence}" 2
  let sep : UInt8 := if s.zero then 0 else 10
  let mut lines : Array (Bytes × String) := #[]
  for p in paths do
    match ← openInput p with
    | .error e => fail s!"open failed: {mentionFile p}: {e.sentence}" 2
    | .ok fd =>
      let (data, err) ← readAll fd
      closeInput fd
      if let some e := err then fail s!"read failed: {mentionFile p}: {e.sentence}" 2
      lines := lines ++ (splitLines data sep).toArray.map (·, p)
  match check with
  | some report =>
    let ls := lines.toList
    let bad := (ls.zip ls.tail).zipIdx.find? fun ((a, b), _) =>
      let d := s.compare a.1 b.1
      if s.unique then d ≥ 0 else d > 0
    match bad with
    | some ((_, b), i) =>
      if report then
        flush
        let name := (← get).name
        let _ ← Sys.writeAll (μ := μ) 2
          ((s!"{name}: {b.2}:{i + 2}: disorder: ").toUTF8 ++ ByteArray.mk b.1.toArray ++ ByteArray.mk #[10])
      modify fun st => { st with status := 1 }
    | none => pure ()
  | none =>
    let sorted := lines.toList.map (·.1) |>.mergeSort fun a b => s.compare a b ≤ 0
    let kept := if s.unique then
        (sorted.foldl (fun (acc : List Bytes × Option Bytes) l =>
          match acc.2 with
          | some prev => if s.compare prev l == 0 then acc else (l :: acc.1, some l)
          | none => (l :: acc.1, some l)) ([], none)).1.reverse
      else sorted
    let out := kept.foldl (fun acc l => acc ++ ByteArray.mk l.toArray |>.push sep) ByteArray.empty
    match output with
    | none => emit out
    | some path =>
      match ← Sys.openPath (μ := μ) path { read := false, write := true, create := true, truncate := true } with
      | .error e => fail s!"open failed: {mentionFile path}: {e.sentence}" 2
      | .ok fd =>
        let _ ← Sys.writeAll (μ := μ) fd out
        let _ ← Sys.close (μ := μ) fd

namespace Uniq

/-- What `uniq` was asked. -/
structure Settings where
  skipFields : Nat := 0
  skipChars : Nat := 0
  checkChars : Option Nat := none
  ignoreCase : Bool := false
  count : Bool := false
  /-- Write lines that are not repeated. -/
  unrepeated : Bool := true
  /-- Write the first line of repeated runs. -/
  firstRepeated : Bool := true
  /-- Write the later lines of repeated runs. -/
  laterRepeated : Bool := false
  zero : Bool := false
  deriving Repr, Inhabited

/-- The part of a line that is compared. -/
def Settings.part (s : Settings) (line : Sorting.Bytes) : Sorting.Bytes :=
  let rec fields : Nat → Sorting.Bytes → Sorting.Bytes
    | 0, l => l
    | n + 1, l => fields n ((l.dropWhile fun b => b == 32 || b == 9).dropWhile fun b => b != 32 && b != 9)
  let l := (fields s.skipFields line).drop s.skipChars
  let l := match s.checkChars with
    | some w => l.take w
    | none => l
  if s.ignoreCase then l.map Sorting.upper else l

/-- Group adjacent lines with equal parts, keeping their order. -/
def runs (s : Settings) (lines : List Sorting.Bytes) : List (List Sorting.Bytes) :=
  (lines.foldl (fun (acc : List (List Sorting.Bytes)) l =>
    match acc with
    | (g :: gs) :: rest =>
      if s.part g == s.part l then ((g :: gs) ++ [l]) :: rest else [l] :: (g :: gs) :: rest
    | _ => [l] :: acc) []).reverse

/-- The lines written for a run. -/
def Settings.written (s : Settings) (run : List Sorting.Bytes) : List (Nat × Sorting.Bytes) :=
  match run with
  | [] => []
  | [l] => if s.unrepeated then [(1, l)] else []
  | l :: later =>
    (if s.firstRepeated then [(run.length, l)] else []) ++
    (if s.laterRepeated then later.map (run.length, ·) else [])

/-- A size option's value, or the message refusing it. -/
def sizeValue (v : String) (what : String) : Except String Nat :=
  let t := String.ofList (v.toList.dropWhile Char.isWhitespace)
  if !t.isEmpty && t.all Char.isDigit then .ok (min t.toNat! (Nat.pow 2 64)) else .error s!"{v}: {what}"

/-- The options of `uniq`. -/
def uniqOptions : List OptionDef :=
  [letterOption 'c' .none (some "count"), letterOption 'd' .none (some "repeated"),
   letterOption 'D' .optional (some "all-repeated"), longOnly "group" .optional,
   letterOption 'i' .none (some "ignore-case"), letterOption 'u' .none (some "unique"),
   letterOption 'f' .required (some "skip-fields"), letterOption 's' .required (some "skip-chars"),
   letterOption 'w' .required (some "check-chars"), letterOption 'z' .none (some "zero-terminated")] ++
  ("0123456789".toList.map fun c => letterOption c)

end Uniq

open Uniq in
/-- `uniq`. -/
def uniqProgram (inv : Invocation) : Prog μ Unit := Tool.run inv do
  let c := readCommandLine uniqOptions (inv.args.drop 1)
  let mut s : Settings := {}
  let mut digits : Option Nat := none
  for o in c.options do
    let v := o.value.getD ""
    match o.key with
    | "c" => s := { s with count := true }
    | "d" => s := { s with unrepeated := false }
    | "D" => s := { s with unrepeated := false, laterRepeated := true }
    | "u" => s := { s with firstRepeated := false }
    | "i" => s := { s with ignoreCase := true }
    | "z" => s := { s with zero := true }
    | "f" =>
      match sizeValue v "invalid number of fields to skip" with
      | .ok n => s := { s with skipFields := n }
      | .error msg => fail msg
    | "s" =>
      match sizeValue v "invalid number of bytes to skip" with
      | .ok n => s := { s with skipChars := n }
      | .error msg => fail msg
    | "w" =>
      match sizeValue v "invalid number of bytes to compare" with
      | .ok n => s := { s with checkChars := some n }
      | .error msg => fail msg
    | k =>
      if k.length == 1 && k.all Char.isDigit then
        digits := some ((digits.getD 0) * 10 + (k.toNat!))
        s := { s with skipFields := (digits.getD 0) }
  checkOptions c
  -- an operand `+N` skips characters
  let mut files : List String := []
  for a in c.operands do
    if a.startsWith "+" && a.length > 1 && (a.drop 1).all Char.isDigit then
      s := { s with skipChars := (a.drop 1).toString.toNat! }
    else if files.length == 2 then misuse s!"extra operand {mention a}"
    else files := files ++ [a]
  if s.count && s.laterRepeated then
    misuse "printing all duplicated lines and repeat counts is meaningless"
  let input := files.headD "-"
  let fd ← match ← openInput input with
    | .ok fd => pure fd
    | .error e => fail s!"{mentionFile input}: {e.sentence}"
  let (data, _) ← readAll fd
  let sep : UInt8 := if s.zero then 0 else 10
  let lines := Sorting.splitLines data sep
  let out := (runs s lines).foldl (fun acc run =>
    (s.written run).foldl (fun acc (n, l) =>
      let countText := if s.count then
          let t := toString n
          String.ofList (List.replicate (7 - t.length) ' ') ++ t ++ " "
        else ""
      acc ++ countText.toUTF8 ++ ByteArray.mk l.toArray |>.push sep) acc) ByteArray.empty
  match files[1]? with
  | some path =>
    match ← Sys.openPath (μ := μ) path { read := false, write := true, create := true, truncate := true } with
    | .error e => fail s!"{mentionFile path}: {e.sentence}"
    | .ok fd =>
      let _ ← Sys.writeAll (μ := μ) fd out
      let _ ← Sys.close (μ := μ) fd
  | none => emit out

end PseudoTerm.Programs
