import PseudoTerm.Text.Hex

/-!
# Bench values

The bench drives the library with requests and reports answers, both written as plain
data values: null, booleans, decimal numbers, texts, lists and objects with named
fields.  A number is kept exactly as `mantissa / 10 ^ decimals`, so an integer written
with a fraction part is still told apart from a true fraction.

Bytes travel as a text when they are valid UTF-8 and otherwise as an object with one
field `hex` holding their hexadecimal digits.
-/

namespace PseudoTerm.Bench

/-- A request or answer value. -/
inductive Value where
  | null
  | bool (b : Bool)
  | num (mantissa : Int) (decimals : Nat)
  | str (s : String)
  | arr (items : List Value)
  | obj (fields : List (String × Value))
  deriving Repr, Inhabited

namespace Value

/-- An integer value. -/
def int (n : Int) : Value := .num n 0

/-- A natural-number value. -/
def nat (n : Nat) : Value := .num n 0

/-- A list of texts. -/
def strs (xs : List String) : Value := .arr (xs.map .str)

/-- Bytes as a text when they are valid UTF-8, else as their hexadecimal digits. -/
def ofBytes (bytes : List UInt8) : Value :=
  match String.fromUTF8? (ByteArray.mk bytes.toArray) with
  | some s => .str s
  | none => .obj [("hex", .str (Text.hexOfBytes bytes))]

/-- The value of a field of an object. -/
def field? (v : Value) (name : String) : Option Value :=
  match v with
  | .obj fields => fields.lookup name
  | _ => none

/-- An object with one more field, put last. -/
def withField (v : Value) (name : String) (x : Value) : Value :=
  match v with
  | .obj fields => .obj (fields ++ [(name, x)])
  | other => other

end Value

end PseudoTerm.Bench
