import PseudoTerm.Shell.State

/-!
# Reading options with `getopts`

`getopts optstring name [word...]` reads the next option from the words given, or from
the positional parameters.  It keeps its place in the shell: the number of the next
word (`OPTIND`) and, after an option inside a word of several (`-ab`), where the word
goes on.  A letter followed by `:` in the option string takes an argument, the rest of
the word or else the next word, which is put in `OPTARG`.  The option letter is put in
the named variable; an unknown letter or a missing argument give `?` and a message, or,
when the option string starts with `:`, `?` or `:` with the letter in `OPTARG` and no
message.  At the first word that is not an option, and after `--`, it answers 1.
-/

namespace PseudoTerm.Shell

open ShellM

variable {μ : Type}

/-- The part of an option string after letter `c`, if the letter is an option: each
letter may be followed by `:`. -/
def optionAfter (c : Char) : List Char → Nat → Option (List Char)
  | [], _ => none
  | _, 0 => none
  | x :: rest, fuel + 1 =>
    if x == c then some rest
    else
      match rest with
      | ':' :: more => optionAfter c more fuel
      | _ => optionAfter c rest fuel

/-- What one call of `getopts` found: the letter to store, the value of `OPTARG` (none
to unset it), the message to print, the index of the next word, the place left inside
the word before it, and whether the options ended. -/
structure OptionStep where
  letter : Char
  arg : Option String
  message : Option String := none
  nextIndex : Nat
  rest : Option (List Char) := none
  finished : Bool := false

/-- Read one option from `words` (numbered from 1), going on at word `ind` or, when
`within` is given, inside the word before it. -/
def readOption (optstr : List Char) (words : List String) (ind : Nat) (within : Option (List Char)) :
    OptionStep :=
  let atEnd (next : Nat) : OptionStep := { letter := '?', arg := none, nextIndex := next, finished := true }
  -- the letters to read now, and the index of the next word
  let start : Option (List Char × Nat) :=
    match within with
    | some (c :: cs) => some (c :: cs, ind)
    | _ =>
      match words[ind - 1]? with
      | some w =>
        match w.toList with
        | '-' :: c :: cs => if c == '-' && cs.isEmpty then none else some (c :: cs, ind + 1)
        | _ => none
      | none => none
  match start with
  | none =>
    -- after `--` the index moves past it
    let next := if (words[ind - 1]?) == some "--" && within.all List.isEmpty then ind + 1 else ind
    atEnd next
  | some ([], next) => atEnd next
  | some (c :: cs, next) =>
    let silent := optstr.head? == some ':'
    let rest := if cs.isEmpty then none else some cs
    match optionAfter c optstr (optstr.length + 1) with
    | none =>
      if silent then { letter := '?', arg := some (String.singleton c), nextIndex := next, rest }
      else { letter := '?', arg := none, message := some s!"Illegal option -{c}", nextIndex := next, rest }
    | some after =>
      if after.head? == some ':' then
        if !cs.isEmpty then { letter := c, arg := some (String.ofList cs), nextIndex := next }
        else
          match words[next - 1]? with
          | some w => { letter := c, arg := some w, nextIndex := next + 1 }
          | none =>
            if silent then { letter := ':', arg := some (String.singleton c), nextIndex := next }
            else { letter := '?', arg := none, message := some s!"No arg for -{c} option", nextIndex := next }
      else { letter := c, arg := some "", nextIndex := next, rest }

/-- Run `getopts`. -/
def getoptsBuiltin (args : List String) : ShellM μ Nat := do
  match args with
  | optstr :: name :: given =>
    let s ← get
    let words := if given.isEmpty then s.params else given
    let (ind, within) := if s.optIndex > words.length + 1 then (1, none) else (s.optIndex, s.optOffset)
    let within := within.map fun off =>
      if ind ≤ 1 then [] else ((words[ind - 2]?).getD "").toList.drop off
    let step := readOption optstr.toList words ind within
    if let some m := step.message then say 2 (m ++ "\n")
    modify fun s =>
      let s := match step.arg with
        | some a => s.set "OPTARG" a
        | none => s.unset "OPTARG"
      s.setPlain "OPTIND" (toString step.nextIndex)
    if !isVarName name then fail s!"{name}: bad variable name"
    modify fun s =>
      let s := s.set name (String.singleton step.letter)
      let offset := step.rest.map fun r => ((words[step.nextIndex - 2]?).getD "").length - r.length
      { s with optIndex := step.nextIndex, optOffset := offset }
    pure (if step.finished then 1 else 0)
  | _ => fail "Usage: getopts optstring var [arg]"

end PseudoTerm.Shell
