/-!
# Names and values in messages of the standard utilities

The utilities mention a value given to them between apostrophes, a backslash before an
apostrophe or a backslash, the one-letter escapes for the common control characters and
three octal digits for every other byte that does not print (in the plain locale, bytes
past ASCII do not print).

A file name is mentioned as a shell would need it: as it is when nothing in it is special
to the shell, else between apostrophes, an apostrophe written `'\''`, and bytes that do not
print written as `$'\ooo'` pieces.
-/

namespace PseudoTerm.Text

/-- Whether a byte prints in the plain locale. -/
def bytePrints (b : UInt8) : Bool := 32 ≤ b && b < 127

/-- Three octal digits of a byte. -/
def octalByte (b : UInt8) : String :=
  let n := b.toNat
  String.ofList [Char.ofNat (48 + n / 64), Char.ofNat (48 + n / 8 % 8), Char.ofNat (48 + n % 8)]

/-- The escape letter of a control character that has one. -/
def escapeLetter (b : UInt8) : Option Char :=
  match b with
  | 7 => some 'a'
  | 8 => some 'b'
  | 12 => some 'f'
  | 10 => some 'n'
  | 13 => some 'r'
  | 9 => some 't'
  | 11 => some 'v'
  | _ => none

/-- One byte of a value between apostrophes. -/
def mentionByte (b : UInt8) : String :=
  match escapeLetter b with
  | some c => "\\" ++ c.toString
  | none =>
    if b == 92 then "\\\\"
    else if b == 39 then "\\'"
    else if bytePrints b then (Char.ofNat b.toNat).toString
    else "\\" ++ octalByte b

/-- A value between apostrophes, escaped as described above. -/
def mention (s : String) : String :=
  "'" ++ String.join (s.toUTF8.toList.map mentionByte) ++ "'"

/-- The bytes that make a shell word need quoting wherever they stand. -/
def shellSpecial (b : UInt8) : Bool :=
  " !\"$&()*;<=>[^`|'\\:".toUTF8.toList.contains b

/-- Whether a file name can be written as it is. -/
def plainName (s : String) : Bool :=
  let bs := s.toUTF8.toList
  !bs.isEmpty &&
  bs.all (fun b => bytePrints b && !shellSpecial b) &&
  (match bs.head? with
    | some b => b != 35 && b != 126
    | none => true) &&
  !(bs.length == 1 && (bs == [123] || bs == [125]))

/-- Whether a byte at position `i` of a name of `n` bytes reads the same between double
quotes as between apostrophes. -/
def doubleQuoteSafe (n i : Nat) (b : UInt8) : Bool :=
  bytePrints b && !"!\"$&()*;<=>[^`|\\?".toUTF8.toList.contains b &&
  (b != 35 && b != 126 || i == 0) && (b != 123 && b != 125 || n == 1)

/-- A file name as a shell would need it, described above; a name with an apostrophe and
nothing else special stands between double quotes.  With `always`, a plain name stands
between apostrophes too. -/
def mentionFile (s : String) (always : Bool := false) : String :=
  let bs := s.toUTF8.toList
  if plainName s then (if always then "'" ++ s ++ "'" else s)
  else if bs.contains 39 && (bs.zipIdx.all fun (b, i) => doubleQuoteSafe bs.length i b) then
    "\"" ++ s ++ "\""
  else
    -- pieces of printable bytes go between apostrophes, the others in $'...' escapes
    let step (acc : String × Bool) (b : UInt8) : String × Bool :=
      let (out, escaping) := acc
      if bytePrints b then
        let piece := if b == 39 then "'\\''" else (Char.ofNat b.toNat).toString
        if escaping then (out ++ "''" ++ piece, false) else (out ++ piece, false)
      else
        let esc := match escapeLetter b with
          | some c => "\\" ++ c.toString
          | none => "\\" ++ octalByte b
        if escaping then (out ++ esc, true) else (out ++ "'$'" ++ esc, true)
    "'" ++ (bs.foldl step ("", false)).1 ++ "'"

end PseudoTerm.Text
