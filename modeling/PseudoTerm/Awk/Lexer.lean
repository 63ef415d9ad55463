import PseudoTerm.Awk.Syntax
import PseudoTerm.Awk.Number

/-!
# Tokens of awk programs

A program's text is cut into tokens: punctuation, operators, numbers, strings with their
escapes turned into bytes, patterns between slashes, names (a name written right before
`(` calls a function), keywords and the names of built-in functions.  Line feeds are
tokens, as they end statements; a backslash before a line feed joins the lines, and `#`
starts a comment.

A `/` starts a pattern unless what came before can end an operand (a name, a number, a
string, `)`, `]`, `$`-less operands, `++`, `--`), where it divides.
-/

namespace PseudoTerm.Awk

/-- A token. -/
inductive Tok where
  | newline
  | punct (s : String)
  | number (v : Float)
  | string (s : String)
  | regex (s : String)
  | name (s : String)
  | funcName (s : String)
  | builtin (b : Builtin)
  | keyword (s : String)
  | eof
  deriving Repr, Inhabited

/-- The text of a token in messages. -/
def Tok.text : Tok → String
  | .newline => "end of line"
  | .punct s => s
  | .number v => showNumber "%.6g" v
  | .string s => "\"" ++ s ++ "\""
  | .regex s => "/" ++ s ++ "/"
  | .name s | .funcName s | .keyword s => s
  | .builtin b => b.name
  | .eof => "end of file"

/-- The keywords. -/
def keywords : List String :=
  ["BEGIN", "END", "function", "func", "if", "else", "while", "for", "do", "break", "continue",
   "next", "nextfile", "exit", "return", "delete", "in", "getline", "print", "printf"]

/-- The built-in function a name stands for. -/
def builtinNamed : String → Option Builtin
  | "length" => some .length | "substr" => some .substr | "index" => some .index
  | "split" => some .split | "sub" => some .sub | "gsub" => some .gsub | "match" => some .match
  | "sprintf" => some .sprintf | "sin" => some .sin | "cos" => some .cos | "atan2" => some .atan2
  | "exp" => some .exp | "log" => some .log | "sqrt" => some .sqrt | "int" => some .int
  | "rand" => some .rand | "srand" => some .srand | "tolower" => some .tolower
  | "toupper" => some .toupper | "system" => some .system | "close" => some .close
  | "fflush" => some .fflush
  | _ => none

/-- The operators, longest first. -/
def operators : List String :=
  ["+=", "-=", "*=", "/=", "%=", "^=", "==", "<=", ">=", "!=", "++", "--", "&&", "||", ">>", "!~", "**=", "**",
   "+", "-", "*", "/", "%", "^", ">", "<", "|", "?", ":", "~", "$", "=", "!", "\x7b", "\x7d", "(", ")",
   "[", "]", ";", ","]

/-- Whether a token can end an operand, so that `/` after it divides. -/
def Tok.endsOperand : Tok → Bool
  | .number _ | .string _ | .name _ | .builtin _ | .regex _ => true
  | .punct s => s == ")" || s == "]" || s == "++" || s == "--"
  | _ => false

/-- A problem in a program's text, with its line. -/
structure LexError where
  line : Nat
  message : String
  deriving Inhabited

/-- The value of an octal digit. -/
def octalDigit? (c : Char) : Option Nat := if '0' ≤ c && c ≤ '7' then some (c.toNat - 48) else none

/-- Turn the escape after a backslash into its character: answers the text and the rest.
In a pattern, escapes the pattern knows are kept. -/
def escapeIn (inPattern : Bool) (c : Char) (rest : List Char) : String × List Char :=
  match c with
  | 'n' => ("\n", rest) | 't' => ("\t", rest) | 'r' => ("\r", rest)
  | 'a' => ("\x07", rest) | 'b' => (if inPattern then "\\b" else "\x08", rest)
  | 'f' => ("\x0c", rest) | 'v' => ("\x0b", rest)
  | '"' => ("\"", rest) | '/' => ("/", rest)
  | '\\' => (if inPattern then "\\\\" else "\\", rest)
  | _ =>
    match octalDigit? c with
    | some d0 =>
      let (v, rest) := match rest with
        | c1 :: r1 =>
          match octalDigit? c1 with
          | some d1 =>
            match r1 with
            | c2 :: r2 =>
              match octalDigit? c2 with
              | some d2 => (d0 * 64 + d1 * 8 + d2, r2)
              | none => (d0 * 8 + d1, r1)
            | [] => (d0 * 8 + d1, r1)
          | none => (d0, rest)
        | [] => (d0, rest)
      ((Char.ofNat (v % 256)).toString, rest)
    | none => ("\\" ++ c.toString, rest)

/-- Turn the escapes of a value given on the command line into characters. -/
def unescapeValue : List Char → Nat → String
  | _, 0 => ""
  | [], _ => ""
  | '\\' :: c :: rest, fuel + 1 =>
    let (piece, rest) := escapeIn false c rest
    piece ++ unescapeValue rest fuel
  | c :: rest, fuel + 1 => c.toString ++ unescapeValue rest fuel

/-- Read a string or pattern body up to its closing delimiter; answers the text, the
rest, and whether it was closed.  A pattern's bracket expressions may hold the delimiter. -/
def readQuoted (delim : Char) (inPattern : Bool) : List Char → Bool → Nat → String × List Char × Bool
  | _, _, 0 => ("", [], false)
  | [], _, _ => ("", [], false)
  | '\n' :: rest, _, _ => ("", '\n' :: rest, false)
  | '\\' :: '\n' :: rest, br, fuel + 1 =>
    let (t, r, ok) := readQuoted delim inPattern rest br fuel
    (t, r, ok)
  | '\\' :: c :: rest, br, fuel + 1 =>
    let (piece, rest) := escapeIn inPattern c rest
    let (t, r, ok) := readQuoted delim inPattern rest br fuel
    (piece ++ t, r, ok)
  | c :: rest, br, fuel + 1 =>
    if c == delim && !br then ("", rest, true)
    else
      let br := if inPattern then (if c == '[' then true else if c == ']' then false else br) else br
      let (t, r, ok) := readQuoted delim inPattern rest br fuel
      (c.toString ++ t, r, ok)

/-- Read a number: digits, a point, more digits and an exponent. -/
def readNumberText (cs : List Char) : String × List Char :=
  let int := cs.takeWhile Char.isDigit
  let rest := cs.drop int.length
  let (frac, rest) := match rest with
    | '.' :: more => let f := more.takeWhile Char.isDigit; ('.' :: f, more.drop f.length)
    | _ => ([], rest)
  let (expo, rest) := match rest with
    | e :: more =>
      if e == 'e' || e == 'E' then
        let (sign, more') := match more with
          | s :: m => if s == '+' || s == '-' then ([s], m) else ([], more)
          | [] => ([], more)
        let ds := more'.takeWhile Char.isDigit
        if ds.isEmpty then ([], rest) else (e :: sign ++ ds, more'.drop ds.length)
      else ([], rest)
    | [] => ([], rest)
  (String.ofList (int ++ frac ++ expo), rest)

/-- Cut a program into tokens, each with its line. -/
def tokenize (text : String) : Except LexError (Array (Tok × Nat)) :=
  go text.toList 1 #[] (text.length + 1)
where
  /-- Character after character. -/
  go : List Char → Nat → Array (Tok × Nat) → Nat → Except LexError (Array (Tok × Nat))
    | _, line, out, 0 => pure (out.push (.eof, line))
    | [], line, out, _ => pure (out.push (.eof, line))
    | c :: rest, line, out, fuel + 1 =>
      let prev := (out.back?.map (·.1)).getD .newline
      if c == '\n' then go rest (line + 1) (out.push (.newline, line)) fuel
      else if c == ' ' || c == '\t' || c == '\r' then go rest line out fuel
      else if c == '\\' && rest.head? == some '\n' then go (rest.drop 1) (line + 1) out fuel
      else if c == '\\' && rest.take 2 == ['\r', '\n'] then go (rest.drop 2) (line + 1) out fuel
      else if c == '#' then go (rest.dropWhile (· != '\n')) line out fuel
      else if c == '"' then
        let (s, after, ok) := readQuoted '"' false rest false (rest.length + 1)
        if !ok then throw { line, message := s!"runaway string constant \"{(s.take 10).toString} ..." }
        else go after line (out.push (.string s, line)) fuel
      else if c == '/' && !prev.endsOperand then
        let (s, after, ok) := readQuoted '/' true rest false (rest.length + 1)
        if !ok then throw { line, message := s!"runaway regular expression /{(s.take 10).toString} ..." }
        else go after line (out.push (.regex s, line)) fuel
      else if c.isDigit || (c == '.' && (rest.head?.map Char.isDigit).getD false) then
        let (t, after) := readNumberText (c :: rest)
        go after line (out.push (.number (numberOf t), line)) fuel
      else if c.isAlpha || c == '_' then
        let word := (c :: rest).takeWhile fun x => x.isAlphanum || x == '_'
        let after := (c :: rest).drop word.length
        let w := String.ofList word
        let tok : Tok :=
          if keywords.contains w then (if w == "func" then .keyword "function" else .keyword w)
          else match builtinNamed w with
            | some b => .builtin b
            | none => if after.head? == some '(' then .funcName w else .name w
        go after line (out.push (tok, line)) fuel
      else
        let text := String.ofList (c :: rest)
        match operators.find? (text.startsWith ·) with
        | some op =>
          let op' := if op == "**" then "^" else if op == "**=" then "^=" else op
          go ((c :: rest).drop op.length) line (out.push (.punct op', line)) fuel
        | none => throw { line, message := s!"syntax error at or near {c}" }

end PseudoTerm.Awk
