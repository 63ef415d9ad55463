import PseudoTerm.Programs.Common

/-!
# Text filters: `cat`, `tr`, `wc`, `yes`

Each reads its input a chunk at a time as it arrives (a terminal gives a line at a
time) and writes what it makes of each chunk at once, so a filter between a terminal
and a reader answers line by line.

`tr` maps the bytes of its first set to those at the same place in the second (the
last one repeating), deletes them with `-d`, and squeezes repeats with `-s`; sets have
ranges `a-z`, classes `[:lower:]` and the like, and backslash escapes.
-/

namespace PseudoTerm.Programs

open PseudoTerm.Machine

variable {μ : Type}

/-- `cat`: copy files (or the input, for none or `-`) to the output. -/
def catProgram (inv : Invocation) : Prog μ Unit := do
  let (_, files) := splitOptions (inv.args.drop 1)
  let files := if files.isEmpty then ["-"] else files
  let mut status := 0
  for f in files do
    let fd ← if f == "-" then pure (Except.ok 0) else Sys.openPath (μ := μ) f {}
    match fd with
    | .error e =>
      Sys.print (μ := μ) 2 s!"cat: {f}: {e.sentence}\n"
      status := 1
    | .ok fd =>
      match ← pump (μ := μ) fd id pumpFuel with
      | some (e, true) =>
        Sys.print (μ := μ) 2 s!"cat: {f}: {e.sentence}\n"
        status := 1
      | some (e, false) =>
        die s!"cat: write error: {e.sentence}\n" 1
      | none => pure ()
      if fd != 0 then let _ ← Sys.close (μ := μ) fd
  Sys.exit status

/-- The bytes of a character class. -/
def classBytes (name : String) : Option (List UInt8) :=
  let range (a b : Nat) : List UInt8 := (List.range (b + 1 - a)).map fun i => (a + i).toUInt8
  match name with
  | "lower" => some (range 97 122)
  | "upper" => some (range 65 90)
  | "digit" => some (range 48 57)
  | "alpha" => some (range 65 90 ++ range 97 122)
  | "alnum" => some (range 48 57 ++ range 65 90 ++ range 97 122)
  | "space" => some [9, 10, 11, 12, 13, 32]
  | "blank" => some [9, 32]
  | "punct" => some (range 33 47 ++ range 58 64 ++ range 91 96 ++ range 123 126)
  | "cntrl" => some (range 0 31 ++ [127])
  | "xdigit" => some (range 48 57 ++ range 65 70 ++ range 97 102)
  | "print" => some (range 32 126)
  | "graph" => some (range 33 126)
  | _ => none

/-- One byte of a set, with its escape read: the byte and the rest. -/
def setByte (bs : List UInt8) : Option (UInt8 × List UInt8) :=
  match bs with
  | 92 :: 110 :: r => some (10, r)
  | 92 :: 116 :: r => some (9, r)
  | 92 :: 114 :: r => some (13, r)
  | 92 :: 92 :: r => some (92, r)
  | 92 :: 97 :: r => some (7, r)
  | 92 :: 98 :: r => some (8, r)
  | 92 :: 102 :: r => some (12, r)
  | 92 :: 118 :: r => some (11, r)
  | 92 :: d :: r =>
    if 48 ≤ d && d ≤ 55 then
      let ds := (d :: r).take 3 |>.takeWhile fun x => 48 ≤ x && x ≤ 55
      let v := ds.foldl (fun acc x => acc * 8 + (x.toNat - 48)) 0
      some (v.toUInt8, (d :: r).drop ds.length)
    else some (d, r)
  | [92] => some (92, [])
  | b :: r => some (b, r)
  | [] => none

/-- The bytes of a `tr` set. -/
def expandSet : Nat → List UInt8 → Array UInt8 → Array UInt8
  | 0, _, acc => acc
  | _, [], acc => acc
  | fuel + 1, bs, acc =>
    match bs with
    | 91 :: 58 :: rest =>
      let name := rest.takeWhile (· != 58)
      match rest.drop name.length with
      | 58 :: 93 :: after =>
        match classBytes (String.fromUTF8? ⟨name.toArray⟩ |>.getD "") with
        | some cls => expandSet fuel after (acc ++ cls.toArray)
        | none => expandSet fuel (rest) (acc.push 91 |>.push 58)
      | _ => expandSet fuel rest (acc.push 91 |>.push 58)
    | _ =>
      match setByte bs with
      | none => acc
      | some (a, rest) =>
        match rest with
        | 45 :: more =>
          match setByte more with
          | some (b, after) =>
            if a ≤ b then
              let span := (List.range (b.toNat + 1 - a.toNat)).map fun i => (a.toNat + i).toUInt8
              expandSet fuel after (acc ++ span.toArray)
            else expandSet fuel rest (acc.push a)
          | none => expandSet fuel rest (acc.push a)
        | _ => expandSet fuel rest (acc.push a)

/-- `tr`: translate, delete or squeeze bytes. -/
def trProgram (inv : Invocation) : Prog μ Unit := do
  let (opts, sets) := splitOptions (inv.args.drop 1)
  let delete := opts.contains 'd'
  let squeeze := opts.contains 's'
  let help := "Try 'tr --help' for more information.\n"
  match sets with
  | [] => die s!"tr: missing operand\n{help}" 1
  | [one] =>
    if !delete && !squeeze then
      die s!"tr: missing operand after '{one}'\nTwo strings must be given when translating.\n{help}" 1
  | _ => pure ()
  let set1 := expandSet 100000 (sets.headD "").toUTF8.toList #[]
  let set2 := expandSet 100000 ((sets.drop 1).headD "").toUTF8.toList #[]
  let table : Array UInt8 := (Array.range 256).map fun i =>
    match set1.toList.idxOf? i.toUInt8 with
    | some k =>
      if delete || set2.isEmpty then i.toUInt8
      else set2.getD (min k (set2.size - 1)) 0
    | none => i.toUInt8
  let squeezeSet := if set2.isEmpty then set1 else set2
  let transform (chunk : ByteArray) : ByteArray :=
    let bytes := chunk.toList
    let bytes := if delete then bytes.filter (fun b => !set1.contains b) else bytes.map (fun b => table.getD b.toNat b)
    let bytes := if squeeze then
        (bytes.foldl (fun (acc : Array UInt8) b =>
          if squeezeSet.contains b && acc.back? == some b then acc else acc.push b) #[]).toList
      else bytes
    ⟨bytes.toArray⟩
  match ← pump (μ := μ) 0 transform pumpFuel with
  | some (e, true) => die s!"tr: read error: {e.sentence}\n" 1
  | some (e, false) => die s!"tr: write error: {e.sentence}\n" 1
  | none => Sys.exit 0

/-- Counts of a text: lines, words, bytes. -/
structure Counts where
  lines : Nat := 0
  words : Nat := 0
  bytes : Nat := 0
  inWord : Bool := false

/-- Count a chunk. -/
def Counts.add (c : Counts) (chunk : ByteArray) : Counts :=
  chunk.foldl (fun c b =>
    let blank := b == 32 || (9 ≤ b && b ≤ 13)
    { lines := c.lines + (if b == 10 then 1 else 0),
      words := c.words + (if !blank && !c.inWord then 1 else 0),
      bytes := c.bytes + 1,
      inWord := !blank }) c

/-- Count what a descriptor gives until its end. -/
def countAll (fd : Nat) : Nat → Counts → Prog μ (Except Errno Counts)
  | 0, c => pure (.ok c)
  | fuel + 1, c => do
    match ← Sys.read (μ := μ) fd chunkSize with
    | .error e => pure (.error e)
    | .ok chunk => if chunk.size == 0 then pure (.ok c) else countAll fd fuel (c.add chunk)

/-- Right-align a number in a width. -/
def padLeft (width : Nat) (s : String) : String :=
  String.ofList (List.replicate (width - s.length) ' ') ++ s

/-- `wc`: count lines, words and bytes. -/
def wcProgram (inv : Invocation) : Prog μ Unit := do
  let (opts, files) := splitOptions (inv.args.drop 1)
  let chosen := [opts.contains 'l', opts.contains 'w', opts.contains 'c' || opts.contains 'm']
  let chosen := if chosen.any id then chosen else [true, true, true]
  let files := if files.isEmpty then ["-"] else files
  let mut rows : Array (List Nat × String) := #[]
  let mut status := 0
  let mut regularTotal := 0
  let mut allRegular := true
  for f in files do
    let fd ← if f == "-" then pure (Except.ok 0) else Sys.openPath (μ := μ) f {}
    match fd with
    | .error e =>
      Sys.print (μ := μ) 2 s!"wc: {f}: {e.sentence}\n"
      status := 1
    | .ok fd =>
      match ← Sys.statusOf (μ := μ) fd with
      | .ok st => if st.kind == .regular then regularTotal := regularTotal + st.size else allRegular := false
      | .error _ => allRegular := false
      match ← countAll (μ := μ) fd pumpFuel {} with
      | .ok c =>
        let values := [c.lines, c.words, c.bytes]
        let values := (values.zip chosen).filterMap fun (v, on) => if on then some v else none
        rows := rows.push (values, if f == "-" then "" else f)
      | .error e =>
        Sys.print (μ := μ) 2 s!"wc: {f}: {e.sentence}\n"
        status := 1
      if fd != 0 then let _ ← Sys.close (μ := μ) fd
  let single := chosen.count true == 1 && files.length == 1
  let width := if single then 1
    else max (if allRegular then 1 else 7) (toString regularTotal).length
  for (values, name) in rows do
    let cols := values.map fun v => padLeft width (toString v)
    let line := " ".intercalate cols ++ (if name.isEmpty then "" else " " ++ name)
    Sys.print (μ := μ) 1 (line ++ "\n")
  Sys.exit status

/-- Write the same bytes again and again until writing fails. -/
def repeatWrite (data : ByteArray) : Nat → Prog μ Unit
  | 0 => pure ()
  | fuel + 1 => do
    let (_, err) ← Sys.writeAll (μ := μ) 1 data
    match err with
    | some _ => pure ()
    | none => repeatWrite data fuel

/-- `yes`: a line again and again. -/
def yesProgram (inv : Invocation) : Prog μ Unit := do
  let line := if inv.args.length > 1 then " ".intercalate (inv.args.drop 1) else "y"
  let one := (line ++ "\n").toUTF8
  let block := (List.replicate (max 1 (8192 / one.size)) one).foldl (· ++ ·) .empty
  repeatWrite (μ := μ) block pumpFuel
  Sys.exit 1

end PseudoTerm.Programs
