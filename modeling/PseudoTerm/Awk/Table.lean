import PseudoTerm.Awk.Value

/-!
# Arrays of the awk language

An array maps keys to values.  A key is a string, or an integer when it was given as a
number with an integral value; the two meet, so that `a[1]` and `a["1"]` are one element.

The order in which `for (k in a)` visits the keys is part of what a program prints, so
the array keeps the layout that decides it:

* An array made by `split` is a plain vector of the elements `1 .. n`.
* Any other array is a hash table of `hmask + 1` buckets (64 at first), each holding a
  list of entries by string key and a list by integer key.  A string key goes to the
  bucket of its FNV-1a hash, an integer to the bucket of its low bits.  A new entry goes
  to the front of its list, and an entry found is moved to the front.  When the entries
  outnumber twelve a bucket on average, the buckets double; a list splits into two,
  each keeping its order.
* Entries made by integer only get their string key when one is needed (a string key is
  looked up, or the keys are listed): the integer lists are walked bucket by bucket and
  each entry is put at the front of the string list of its bucket.

Listing the keys walks the string lists bucket by bucket.  Deleting the last element
empties the array to its first state.
-/

namespace PseudoTerm.Awk

/-- The key of an element. -/
inductive Key where
  | text (s : String)
  | int (i : Int)
  deriving DecidableEq, Inhabited

/-- The string of a key. -/
def Key.toText : Key → String
  | .text s => s
  | .int i => toString i

/-- An entry of a hash table. -/
structure Entry where
  /-- The string key, once it has one. -/
  text : Option String
  /-- The integer key, once it has one. -/
  int : Option Int
  /-- The hash of the string key. -/
  hash : Nat
  value : Value
  deriving Inhabited

/-- The layout of an array. -/
inductive Layout where
  | empty
  | vector
  | hashed
  deriving DecidableEq, Inhabited

/-- An array. -/
structure Table where
  layout : Layout := .empty
  /-- The elements of a vector. -/
  cells : Array Value := #[]
  /-- The entries of a hash table; removed ones stay, unreferenced. -/
  entries : Array Entry := #[]
  /-- The string lists of the buckets, entry numbers front first. -/
  byText : Array (List Nat) := #[]
  /-- The integer lists of the buckets. -/
  byInt : Array (List Nat) := #[]
  /-- Whether the entries have string keys, and integer keys. -/
  texts : Bool := false
  ints : Bool := false
  hmask : Nat := 0
  size : Nat := 0
  deriving Inhabited

/-- Where an element lives: a cell of a vector, or an entry. -/
inductive Slot where
  | cell (i : Nat)
  | entry (n : Nat)
  deriving Inhabited

/-- The FNV-1a hash of a string of one character a byte. -/
def fnvHash (s : String) : Nat :=
  (s.toList.foldl (fun (h : UInt32) c => (h ^^^ c.toNat.toUInt32) * 16777619) 2166136261).toNat

/-- The buckets of a new hash table. -/
def firstMask : Nat := 63

/-- The most entries a table of `hmask + 1` buckets holds before it doubles. -/
def entryLimit (hmask : Nat) : Nat := (hmask + 1) * 12

/-- The bucket of an integer key: its low bits, as two's complement has them. -/
def intBucket (hmask : Nat) (i : Int) : Nat := (i % ((hmask + 1 : Nat) : Int)).toNat

namespace Table

/-- A list with one element moved to its front. -/
def toFront (xs : List Nat) (n : Nat) : List Nat := n :: xs.erase n

/-- Split each list in two as the buckets double: entries whose bucket changes go, in
order, to the new list `i + old size`. -/
def splitLists (lists : Array (List Nat)) (oldSize : Nat) (bucket : Nat → Nat) : Array (List Nat) :=
  let grown := lists ++ Array.replicate oldSize []
  (List.range oldSize).foldl (fun acc i =>
    let l := acc[i]!
    (acc.set! i (l.filter fun n => bucket n == i)).set! (i + oldSize) (l.filter fun n => bucket n != i)) grown

/-- Double the buckets. -/
def double (t : Table) : Table :=
  let old := t.hmask + 1
  let mask := 2 * t.hmask + 1
  let byText := if t.texts then splitLists t.byText old fun n => t.entries[n]!.hash % (mask + 1)
    else t.byText ++ Array.replicate old []
  let byInt := if t.ints then splitLists t.byInt old fun n => intBucket mask (t.entries[n]!.int.getD 0)
    else t.byInt ++ Array.replicate old []
  { t with byText, byInt, hmask := mask }

/-- A new empty hash table. -/
def fresh (t : Table) : Table :=
  { t with layout := .hashed, hmask := firstMask, byText := Array.replicate (firstMask + 1) [],
           byInt := Array.replicate (firstMask + 1) [], entries := #[], texts := false, ints := false }

/-- Turn a vector into a hash table: element `i` goes to the integer list of bucket `i`. -/
def fromVector (t : Table) : Table :=
  let n := t.cells.size
  let mask := go firstMask 30
  let entries := t.cells.mapIdx fun (i : Nat) v => ({ text := none, int := some ((i : Int) + 1), hash := 0, value := v } : Entry)
  let byInt := (List.range n).foldl (fun (acc : Array (List Nat)) (i : Nat) =>
    acc.modify (intBucket mask ((i : Int) + 1)) fun l => i :: l) (Array.replicate (mask + 1) [])
  { layout := .hashed, cells := #[], entries, byText := Array.replicate (mask + 1) [], byInt,
    texts := false, ints := true, hmask := mask, size := n }
where
  /-- The smallest mask whose limit holds the elements. -/
  go (mask : Nat) : Nat → Nat
    | 0 => mask
    | fuel + 1 => if t.cells.size > entryLimit mask then go (2 * mask + 1) fuel else mask

/-- Give every entry its string key, walking the integer lists bucket by bucket. -/
def addTexts (t : Table) : Table :=
  match t.layout with
  | .empty => { (fresh t) with texts := true }
  | _ =>
    let t := if t.layout == .vector then fromVector t else t
    let t := (List.range (t.hmask + 1)).foldl (fun t i =>
      (t.byInt[i]!).foldl (fun t n =>
        let e := t.entries[n]!
        let s := toString (e.int.getD 0)
        let h := fnvHash s
        { t with entries := t.entries.set! n { e with text := some s, hash := h },
                 byText := t.byText.modify (h % (t.hmask + 1)) fun l => n :: l }) t) t
    { t with texts := true }

/-- Add an entry, doubling the buckets when there are too many; answers its number. -/
def addEntry (t : Table) (e : Entry) : Table × Nat :=
  let n := t.entries.size
  let t := { t with entries := t.entries.push e, size := t.size + 1 }
  let t := if t.size > entryLimit t.hmask then double t else t
  (t, n)

/-- Find an entry by string key, moving it to the front; make it when asked. -/
def findText (t : Table) (s : String) (create : Bool) : Table × Option Nat :=
  let t := if t.texts then t else addTexts t
  let h := fnvHash s
  let b := h % (t.hmask + 1)
  match (t.byText[b]!).find? fun n => t.entries[n]!.text == some s with
  | some n => ({ t with byText := t.byText.modify b fun l => toFront l n }, some n)
  | none =>
    if !create then (t, none)
    else
      let (t, n) := addEntry t { text := some s, int := none, hash := h, value := .uninit }
      let b := h % (t.hmask + 1)
      ({ t with byText := t.byText.modify b fun l => n :: l }, some n)

/-- Find an entry by integer key, moving it to the front; make it when asked. -/
def findInt (t : Table) (i : Int) (create : Bool) : Table × Option Nat :=
  let t := if t.layout == .empty then { (fresh t) with ints := true } else t
  let b := intBucket t.hmask i
  match (t.byInt[b]!).find? fun n => t.entries[n]!.int == some i with
  | some n => ({ t with byInt := t.byInt.modify b fun l => toFront l n }, some n)
  | none =>
    if !t.texts then
      if !create then (t, none)
      else
        let (t, n) := addEntry t { text := none, int := some i, hash := 0, value := .uninit }
        ({ t with byInt := t.byInt.modify (intBucket t.hmask i) fun l => n :: l, ints := true }, some n)
    else
      match findText t (toString i) create with
      | (t, some n) =>
        let e := t.entries[n]!
        ({ t with entries := t.entries.set! n { e with int := some i },
                  byInt := t.byInt.modify (intBucket t.hmask i) fun l => n :: l, ints := true }, some n)
      | (t, none) => (t, none)

/-- Find an element; make it when asked. -/
def find (t : Table) (k : Key) (create : Bool) : Table × Option Slot :=
  match k with
  | .int i =>
    if t.layout == .vector && 1 ≤ i && i ≤ t.cells.size then (t, some (.cell (i.toNat - 1)))
    else
      let t := if t.layout == .vector then fromVector t else t
      match findInt t i create with
      | (t, some n) => (t, some (.entry n))
      | (t, none) => (t, none)
  | .text s =>
    match findText t s create with
    | (t, some n) => (t, some (.entry n))
    | (t, none) => (t, none)

/-- The value in a slot. -/
def read (t : Table) : Slot → Value
  | .cell i => t.cells[i]!
  | .entry n => t.entries[n]!.value

/-- Store a value in a slot. -/
def write (t : Table) (v : Value) : Slot → Table
  | .cell i => { t with cells := t.cells.set! i v }
  | .entry n => { t with entries := t.entries.modify n fun e => { e with value := v } }

/-- The value of an element, made when missing (a reference makes it). -/
def get (t : Table) (k : Key) : Table × Value :=
  match find t k true with
  | (t, some s) => (t, t.read s)
  | (t, none) => (t, .uninit)

/-- Set an element. -/
def set (t : Table) (k : Key) (v : Value) : Table :=
  match find t k true with
  | (t, some s) => t.write v s
  | (t, none) => t

/-- Whether an element exists (a test moves it to the front too). -/
def holds (t : Table) (k : Key) : Table × Bool :=
  if t.size == 0 then (t, false)
  else
    match find t k false with
    | (t, some _) => (t, true)
    | (t, none) => (t, false)

/-- The array emptied. -/
def cleared : Table := {}

/-- Take a found entry out of its lists; the last one empties the array. -/
def eraseFound (t : Table) (k : Key) : Table :=
  match find t k false with
  | (t, some (.entry n)) =>
    let e := t.entries[n]!
    let byText := match e.text with
      | some _ => t.byText.modify (e.hash % (t.hmask + 1)) fun l => l.erase n
      | none => t.byText
    let byInt := match e.int with
      | some i => t.byInt.modify (intBucket t.hmask i) fun l => l.erase n
      | none => t.byInt
    let t := { t with byText, byInt, size := t.size - 1 }
    if t.size == 0 then cleared else t
  | (t, _) => t

/-- Delete an element; an integer outside a vector is left alone. -/
def erase (t : Table) (k : Key) : Table :=
  if t.size == 0 then t
  else
    match k, t.layout with
    | .int i, .vector => if 1 ≤ i && i ≤ t.cells.size then eraseFound (fromVector t) k else t
    | _, _ => eraseFound t k

/-- The keys in the order `for (k in a)` visits them. -/
def keys (t : Table) : Table × List String :=
  if t.size == 0 then (t, [])
  else
    let t := if t.texts then t else addTexts t
    (t, (t.byText.toList.flatMap id).map fun n => (t.entries[n]!.text).getD "")

/-- An array made by `split`: the vector of the parts. -/
def ofParts (parts : List String) : Table :=
  { layout := .vector, cells := (parts.map Value.strnum).toArray, size := parts.length }

end Table

end PseudoTerm.Awk
