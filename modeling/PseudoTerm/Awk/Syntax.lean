import PseudoTerm.Pattern.Syntax

/-!
# The awk language: programs as trees

A program is a list of rules and functions.  A rule has a pattern (`BEGIN`, `END`, an
expression, a range of two expressions, or none) and an action (a statement; none means
printing the record).  Expressions and statements are trees; strings are kept one
character a byte, so that lengths and positions count bytes.
-/

namespace PseudoTerm.Awk

open PseudoTerm.Pattern

/-- A binary operator on numbers. -/
inductive Arith where
  | add
  | sub
  | mul
  | div
  | mod
  | pow
  deriving DecidableEq, Repr, Inhabited

/-- A comparison. -/
inductive Relation where
  | lt
  | le
  | eq
  | ne
  | gt
  | ge
  deriving DecidableEq, Repr, Inhabited

/-- The built-in functions. -/
inductive Builtin where
  | length
  | substr
  | index
  | split
  | sub
  | gsub
  | match
  | sprintf
  | sin
  | cos
  | atan2
  | exp
  | log
  | sqrt
  | int
  | rand
  | srand
  | tolower
  | toupper
  | system
  | close
  | fflush
  deriving DecidableEq, Repr, Inhabited

/-- The name of a built-in function. -/
def Builtin.name : Builtin → String
  | .length => "length" | .substr => "substr" | .index => "index" | .split => "split"
  | .sub => "sub" | .gsub => "gsub" | .match => "match" | .sprintf => "sprintf"
  | .sin => "sin" | .cos => "cos" | .atan2 => "atan2" | .exp => "exp" | .log => "log"
  | .sqrt => "sqrt" | .int => "int" | .rand => "rand" | .srand => "srand"
  | .tolower => "tolower" | .toupper => "toupper" | .system => "system" | .close => "close"
  | .fflush => "fflush"

/-- Where `getline` reads from. -/
inductive Source where
  /-- The main input. -/
  | main
  /-- A file named by an expression. -/
  | file
  /-- The output of a command named by an expression. -/
  | command
  deriving DecidableEq, Repr, Inhabited

/-- An expression. -/
inductive Expr where
  | num (v : Float)
  | str (s : String)
  /-- A pattern written between slashes: alone, it matches the record. -/
  | regex (source : String) (p : Compiled)
  | var (name : String)
  | field (e : Expr)
  | index (name : String) (subs : List Expr)
  /-- Assignment, plain or with an operator. -/
  | assign (op : Option Arith) (target : Expr) (value : Expr)
  | cond (test yes no : Expr)
  | and (a b : Expr)
  | or (a b : Expr)
  | arith (op : Arith) (a b : Expr)
  | compare (rel : Relation) (a b : Expr)
  | concat (a b : Expr)
  | not (a : Expr)
  | neg (a : Expr)
  | plus (a : Expr)
  /-- A match of a string against a pattern (or, `negated`, not). -/
  | matches (negated : Bool) (subject pat : Expr)
  /-- Increment or decrement, before or after the value is taken. -/
  | step (pre : Bool) (delta : Float) (target : Expr)
  | inArray (subs : List Expr) (name : String)
  | builtin (f : Builtin) (args : List Expr)
  | call (name : String) (args : List Expr)
  /-- `getline`, into a variable or the record, from a source named by an expression. -/
  | getline (source : Source) (target : Option Expr) (from_ : Option Expr)
  | group (e : Expr)
  /-- A parenthesised list, as the arguments of `print`. -/
  | grouping (es : List Expr)
  deriving Repr, Inhabited

/-- Where print output goes. -/
inductive Redirect where
  | file (e : Expr)
  | append (e : Expr)
  | pipe (e : Expr)
  deriving Repr, Inhabited

/-- A statement. -/
inductive Stmt where
  | expr (e : Expr)
  | print (args : List Expr) (dest : Option Redirect)
  | printf (args : List Expr) (dest : Option Redirect)
  | ifElse (test : Expr) (yes : Stmt) (no : Option Stmt)
  | while (test : Expr) (body : Stmt)
  | doWhile (body : Stmt) (test : Expr)
  | loop (init : Option Stmt) (test : Option Expr) (step : Option Stmt) (body : Stmt)
  | forIn (var : String) (arr : String) (body : Stmt)
  | block (body : List Stmt)
  | next
  | nextFile
  | exit (code : Option Expr)
  | ret (value : Option Expr)
  | brk
  | cont
  | delete (name : String) (subs : Option (List Expr))
  deriving Repr, Inhabited

/-- When a rule applies. -/
inductive RulePattern where
  | begin
  | finish
  | always
  | when (e : Expr)
  | range (first last : Expr)
  deriving Repr, Inhabited

/-- A rule: a pattern and an action (none prints the record). -/
structure Rule where
  pattern : RulePattern
  action : Option Stmt
  deriving Repr, Inhabited

/-- A function: its name, its parameters and its body. -/
structure Function where
  name : String
  params : List String
  body : Stmt
  deriving Repr, Inhabited

/-- A program. -/
structure Program where
  rules : List Rule
  functions : List Function
  deriving Repr, Inhabited

end PseudoTerm.Awk
