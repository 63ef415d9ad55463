import PseudoTerm.Text.Printable

/-!
# Quoted text

The double-quoted form of a text that error messages use for names and values: the text
between two `"`, with a backslash before `"` and `\`, the usual one-letter escapes for the
common control characters, `\xNN` for the other ASCII controls, and `\uNNNN` or
`\UNNNNNNNN` for characters that do not print (see `isPrintable`).  Printable characters stand as they are.
-/

namespace PseudoTerm.Text

/-- Lowercase hexadecimal digits of `n`, padded with zeros to `width`. -/
def hexPadded (width n : Nat) : String :=
  let digits := Nat.toDigits 16 n
  String.ofList (List.replicate (width - digits.length) '0' ++ digits)

/-- The written form of one character inside a quoted text. -/
def quoteChar (c : Char) : String :=
  match c with
  | '\x07' => "\\a"
  | '\x08' => "\\b"
  | '\x0c' => "\\f"
  | '\n' => "\\n"
  | '\r' => "\\r"
  | '\t' => "\\t"
  | '\x0b' => "\\v"
  | '\\' => "\\\\"
  | '"' => "\\\""
  | _ =>
    let code := c.toNat
    if code < 0x20 || code == 0x7F then "\\x" ++ hexPadded 2 code
    else if code < 0x80 then c.toString
    else if !isPrintable code then
      if code < 0x10000 then "\\u" ++ hexPadded 4 code else "\\U" ++ hexPadded 8 code
    else c.toString

/-- A text between double quotes, escaped as described above. -/
def quote (s : String) : String :=
  "\"" ++ String.join (s.toList.map quoteChar) ++ "\""

/-- A character between apostrophes, escaped as in a quoted text except that the
apostrophe is escaped and the double quote is not. -/
def quoteRune (c : Char) : String :=
  let body := if c == '\'' then "\\'" else if c == '"' then "\"" else quoteChar c
  "'" ++ body ++ "'"

end PseudoTerm.Text
