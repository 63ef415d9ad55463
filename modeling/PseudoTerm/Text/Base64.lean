/-!
# Base64 text

The standard base64 alphabet (`A`–`Z`, `a`–`z`, `0`–`9`, `+`, `/`) with `=` padding.
Line breaks (`\r`, `\n`) anywhere in the text are ignored.  The text must consist of
whole groups of four characters; the last group may end in `==` (one byte) or `=`
(two bytes), and only line breaks may follow the padding.  Bits left over in the last
character of a padded group are dropped.
-/

namespace PseudoTerm.Text

/-- The six-bit value of a base64 character. -/
def base64Value (c : Char) : Option Nat :=
  if 'A' ≤ c && c ≤ 'Z' then some (c.toNat - 65)
  else if 'a' ≤ c && c ≤ 'z' then some (c.toNat - 71)
  else if '0' ≤ c && c ≤ '9' then some (c.toNat + 4)
  else if c == '+' then some 62
  else if c == '/' then some 63
  else none

/-- The bytes of a group of base64 values, `count` of which (two to four) carry data. -/
def groupBytes (values : List Nat) (count : Nat) : List UInt8 :=
  let v := values.foldl (fun acc x => acc * 64 + x) 0 * Nat.pow 64 (4 - values.length)
  let bytes := [(v / 65536) % 256, (v / 256) % 256, v % 256].map Nat.toUInt8
  bytes.take (count - 1)

/-- Decode base64 text, or nothing when it is not valid. -/
def decodeBase64 (text : String) : Option (List UInt8) :=
  let cs := text.toList.filter fun c => c != '\n' && c != '\r'
  go cs cs.length []
where
  /-- Decode one group of four characters per round. -/
  go : List Char → Nat → List UInt8 → Option (List UInt8)
    | [], _, acc => some acc
    | _, 0, _ => none
    | cs, fuel + 1, acc =>
      let group := cs.take 4
      let rest := cs.drop 4
      if group.length < 4 then none
      else
        match group.map base64Value with
        | [some a, some b, some c, some d] => go rest fuel (acc ++ groupBytes [a, b, c, d] 4)
        | [some a, some b, some c, none] =>
          if group.getLast? == some '=' && rest.isEmpty then some (acc ++ groupBytes [a, b, c] 3)
          else none
        | [some a, some b, none, none] =>
          if group.drop 2 == ['=', '='] && rest.isEmpty then some (acc ++ groupBytes [a, b] 2)
          else none
        | _ => none

end PseudoTerm.Text
