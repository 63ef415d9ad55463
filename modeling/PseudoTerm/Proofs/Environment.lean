import PseudoTerm.Control.Command

namespace PseudoTerm.Environment

/-!
# Keeping one entry of each key

Two passes over an environment keep one entry of each key.  Starting a program keeps the
last entry of each key, reading the key from the second character on
(`Control.dedupEnvironment`); a program reading its environment at start keeps the first
entry of each key, the key being the text before the first `=` (`firstOfEachKey`).  Both
are restated here as recursions over the list, from which follow the facts the setup
helper relies on: the first pass commutes with removing every entry of a key, appending
an entry to a list kept once removes the older entries of its key, and a lookup only sees
the entries that define its key.
-/

/-- Whether an entry gives a value to the key `k`. -/
def defines (k entry : String) : Bool := entry.contains '=' && key entry == k

/-- Every character of a name without `=` is kept by reading up to the first `=`. -/
private theorem ne_eq_of_plain
    {k : String}
    (plain : '=' ∉ k.toList) :
    ∀ c ∈ k.toList, decide (c ≠ '=') = true := by
  intro c member
  simp only [ne_eq, decide_eq_true_eq]
  intro same
  exact plain (same ▸ member)

theorem key_assignment
    {k : String}
    (plain : '=' ∉ k.toList)
    (v : String) :
    key (k ++ "=" ++ v) = k := by
  simp only [key, String.toList_append, List.append_assoc]
  rw [List.takeWhile_append_of_pos (ne_eq_of_plain plain)]
  simp

theorem value?_assignment
    {k : String}
    (plain : '=' ∉ k.toList)
    (v : String) :
    value? (k ++ "=" ++ v) = some v := by
  simp only [value?, String.toList_append, List.append_assoc]
  rw [List.dropWhile_append_of_pos (ne_eq_of_plain plain)]
  simp

/-- The first entry of each key whose key is not in `seen`; entries without `=` stay and
empty ones go. -/
def firstFrom (seen : List String) : List String → List String
  | [] => []
  | entry :: rest =>
    if entry.isEmpty then firstFrom seen rest
    else if !entry.contains '=' then entry :: firstFrom seen rest
    else if seen.contains (key entry) then firstFrom seen rest
    else entry :: firstFrom (key entry :: seen) rest

theorem firstOfEachKey_eq_firstFrom (env : List String) :
    firstOfEachKey env = firstFrom [] env := by
  suffices kept : ∀ out seen : List String,
      (env.foldl keepFirst (out, seen)).1 = out ++ firstFrom seen env by
    exact kept [] []
  induction env with
  | nil => simp [firstFrom]
  | cons entry rest inductionHypothesis =>
      intro out seen
      rw [List.foldl_cons]
      by_cases empty : entry = ""
      · simpa [keepFirst, firstFrom, empty] using inductionHypothesis out seen
      by_cases hasValue : '=' ∈ entry.toList
      · by_cases met : key entry ∈ seen
        · simpa [keepFirst, firstFrom, empty, hasValue, met] using inductionHypothesis out seen
        · simpa [keepFirst, firstFrom, empty, hasValue, met] using
            inductionHypothesis (out ++ [entry]) (key entry :: seen)
      · simpa [keepFirst, firstFrom, empty, hasValue] using inductionHypothesis (out ++ [entry]) seen

theorem firstFrom_congr
    {seen₁ seen₂ : List String}
    (env : List String)
    (sameMet : ∀ entry ∈ env, '=' ∈ entry.toList → (key entry ∈ seen₁ ↔ key entry ∈ seen₂)) :
    firstFrom seen₁ env = firstFrom seen₂ env := by
  induction env generalizing seen₁ seen₂ with
  | nil => rfl
  | cons entry rest inductionHypothesis =>
      have restMet := fun e (member : e ∈ rest) => sameMet e (List.mem_cons_of_mem _ member)
      have entryMet := sameMet entry List.mem_cons_self
      by_cases empty : entry = ""
      · simpa [firstFrom, empty] using inductionHypothesis restMet
      by_cases hasValue : '=' ∈ entry.toList
      · by_cases met : key entry ∈ seen₁
        · have met₂ := (entryMet hasValue).mp met
          simpa [firstFrom, empty, hasValue, met, met₂] using inductionHypothesis restMet
        · have unmet₂ : key entry ∉ seen₂ := fun met₂ => met ((entryMet hasValue).mpr met₂)
          simp only [firstFrom, String.isEmpty_iff, empty, hasValue, met, unmet₂,
            String.contains_char_eq, List.contains_iff_mem, decide_true, Bool.not_true,
            Bool.false_eq_true, if_false, List.cons.injEq, true_and]
          apply inductionHypothesis
          intro e member eHasValue
          simp only [List.mem_cons, restMet e member eHasValue]
      · simpa [firstFrom, empty, hasValue] using inductionHypothesis restMet

theorem firstFrom_cons_of_unmet
    {k : String}
    (seen env : List String)
    (unmet : ∀ entry ∈ env, '=' ∈ entry.toList → key entry ≠ k) :
    firstFrom (k :: seen) env = firstFrom seen env := by
  apply firstFrom_congr
  intro entry member hasValue
  simp [unmet entry member hasValue]

theorem firstFrom_filter
    {P : String → Bool}
    (byKey : ∀ a b, '=' ∈ a.toList → '=' ∈ b.toList → key a = key b → P a = P b)
    (seen env : List String) :
    (firstFrom seen env).filter P = firstFrom seen (env.filter P) := by
  induction env generalizing seen with
  | nil => rfl
  | cons entry rest inductionHypothesis =>
      by_cases empty : entry = ""
      · subst empty
        by_cases kept : P "" <;> simp [firstFrom, kept, inductionHypothesis]
      by_cases hasValue : '=' ∈ entry.toList
      · by_cases met : key entry ∈ seen
        · by_cases kept : P entry <;>
            simp [firstFrom, empty, hasValue, met, kept, inductionHypothesis]
        · by_cases kept : P entry
          · simp [firstFrom, empty, hasValue, met, kept, inductionHypothesis]
          · -- the entries left of the removed key are all removed too
            have unmet : ∀ e ∈ rest.filter P, '=' ∈ e.toList → key e ≠ key entry := by
              intro e member eHasValue sameKey
              have sameKept := byKey e entry eHasValue hasValue sameKey
              simp_all
            simp only [firstFrom, String.isEmpty_iff, empty, hasValue, met, kept,
              String.contains_char_eq, List.contains_iff_mem, decide_true, Bool.not_true,
              Bool.false_eq_true, if_false, List.filter_cons, inductionHypothesis,
              firstFrom_cons_of_unmet _ _ unmet]
      · by_cases kept : P entry <;>
          simp [firstFrom, empty, hasValue, kept, inductionHypothesis]

theorem firstOfEachKey_filter
    {P : String → Bool}
    (byKey : ∀ a b, '=' ∈ a.toList → '=' ∈ b.toList → key a = key b → P a = P b)
    (env : List String) :
    (firstOfEachKey env).filter P = firstOfEachKey (env.filter P) := by
  rw [firstOfEachKey_eq_firstFrom, firstOfEachKey_eq_firstFrom, firstFrom_filter byKey]

theorem defines_byKey (k : String) :
    ∀ a b, '=' ∈ a.toList → '=' ∈ b.toList → key a = key b → defines k a = defines k b := by
  intro a b aHasValue bHasValue sameKey
  simp [defines, String.contains_char_eq, aHasValue, bHasValue, sameKey]

/-- Dropping up to a character leaves nothing exactly when the character is absent. -/
private theorem dropWhile_ne_eq_nil_iff (l : List Char) (c : Char) :
    l.dropWhile (fun x => decide (x ≠ c)) = [] ↔ c ∉ l := by
  induction l with
  | nil => simp
  | cons x rest inductionHypothesis =>
      rw [List.dropWhile_cons]
      by_cases same : x = c
      · simp [same]
      · rw [if_pos (by simpa using same), inductionHypothesis]
        simp [Ne.symm same]

theorem value?_eq_none_iff (entry : String) : value? entry = none ↔ '=' ∉ entry.toList := by
  rw [← dropWhile_ne_eq_nil_iff]
  unfold value?
  split <;> simp_all

/-- A search skipping what a filter removes finds the same in the filtered list. -/
private theorem findSome?_filter_of_skipped
    {α β : Type}
    {f : α → Option β}
    {p : α → Bool}
    (skipped : ∀ a, p a = false → f a = none)
    (l : List α) :
    (l.filter p).findSome? f = l.findSome? f := by
  induction l with
  | nil => rfl
  | cons a rest inductionHypothesis =>
      cases kept : p a
      · simp [kept, skipped a kept, inductionHypothesis]
      · simp [kept, List.findSome?_cons, inductionHypothesis]

theorem lookup_filter_defines (env : List String) (k : String) :
    lookup env k = lookup (env.filter (defines k)) k := by
  unfold lookup
  rw [← List.filter_reverse, findSome?_filter_of_skipped]
  intro entry undefined
  cases hasValue : value? entry with
  | none => rfl
  | some v =>
      have : '=' ∈ entry.toList := by
        apply Classical.byContradiction
        intro absent
        simp [(value?_eq_none_iff entry).mpr absent] at hasValue
      simp_all [defines, String.contains_char_eq]

theorem lookup_of_defines_eq_singleton
    {env : List String}
    {k entry : String}
    (alone : env.filter (defines k) = [entry]) :
    lookup env k = value? entry := by
  have defined : defines k entry := by
    have : entry ∈ env.filter (defines k) := by simp [alone]
    exact (List.mem_filter.mp this).2
  have definition : '=' ∈ entry.toList ∧ key entry = k := by
    simpa [defines, String.contains_char_eq] using defined
  rw [lookup_filter_defines, alone]
  cases found : value? entry with
  | none => exact absurd definition.1 ((value?_eq_none_iff entry).mp found)
  | some v => simp [lookup, found, definition.2]

end PseudoTerm.Environment

namespace PseudoTerm.Control

/-- The last entry of each key, the key read as starting a program reads it: entries
holding a NUL byte go, entries without a key stay unless empty, and of the entries of one
key only the last stays. -/
def lastOfEachKey : List String → List String
  | [] => []
  | kv :: rest =>
    let kept := lastOfEachKey rest
    if kv.contains (Char.ofNat 0) then kept
    else
      match entryKey? kv with
      | none => if kv.isEmpty then kept else kv :: kept
      | some k => if kept.any (entryKey? · == some k) then kept else kv :: kept

/-- The fold of `dedupEnvironment`, run from the end, keeps the last entry of each key and
the keys it kept, and notes whether an entry held a NUL byte. -/
private theorem foldr_keepLast (env : List String) :
    ∃ seen, env.foldr (fun kv (acc : List String × List String × Bool) =>
        let (out, seen, nul) := acc
        if kv.contains (Char.ofNat 0) then (out, seen, true)
        else
          match entryKey? kv with
          | none => (if kv.isEmpty then out else kv :: out, seen, nul)
          | some k => if seen.contains k then (out, seen, nul) else (kv :: out, k :: seen, nul))
      ([], [], false) = (lastOfEachKey env, seen, env.any (·.contains (Char.ofNat 0))) ∧
      ∀ k, k ∈ seen ↔ ∃ e ∈ lastOfEachKey env, entryKey? e = some k := by
  induction env with
  | nil => exact ⟨[], rfl, by simp [lastOfEachKey]⟩
  | cons kv rest inductionHypothesis =>
      obtain ⟨seen, folded, seenKeys⟩ := inductionHypothesis
      rw [List.foldr_cons, folded]
      by_cases nulByte : Char.ofNat 0 ∈ kv.toList
      · exact ⟨seen, by simp [nulByte, lastOfEachKey], by simpa [lastOfEachKey, nulByte] using seenKeys⟩
      cases keyed : entryKey? kv with
      | none =>
          refine ⟨seen, ?_, ?_⟩
          · by_cases empty : kv.isEmpty <;> simp [nulByte, keyed, empty, lastOfEachKey]
          · by_cases empty : kv.isEmpty <;> simp [nulByte, keyed, empty, lastOfEachKey, seenKeys]
      | some k =>
          by_cases met : k ∈ seen
          · have kept : (lastOfEachKey rest).any (entryKey? · == some k) := by
              simpa using (seenKeys k).mp met
            exact ⟨seen, by simp [nulByte, keyed, met, kept, lastOfEachKey],
              by simpa [lastOfEachKey, nulByte, keyed, kept] using seenKeys⟩
          · have unkept : (lastOfEachKey rest).any (entryKey? · == some k) = false := by
              simpa [seenKeys] using met
            refine ⟨k :: seen, by simp [nulByte, keyed, met, unkept, lastOfEachKey], ?_⟩
            intro k'
            simp [lastOfEachKey, nulByte, keyed, unkept, seenKeys, eq_comm]

theorem dedupEnvironment_fst (env : List String) :
    (dedupEnvironment env).1 = lastOfEachKey env := by
  obtain ⟨seen, folded, -⟩ := foldr_keepLast env
  unfold dedupEnvironment
  simp only [List.foldl_reverse]
  exact congrArg Prod.fst folded

/-- Starting a program refuses its environment exactly when an entry holds a NUL byte. -/
theorem dedupEnvironment_snd (env : List String) :
    (dedupEnvironment env).2 = env.any (·.contains (Char.ofNat 0)) := by
  obtain ⟨seen, folded, -⟩ := foldr_keepLast env
  unfold dedupEnvironment
  simp only [List.foldl_reverse]
  exact congrArg (·.2.2) folded

/-- Cutting a list at the first place of a character keeps what comes before it. -/
private theorem take_of_idxOf?_eq_some
    {l : List Char}
    {c : Char}
    {i : Nat}
    (found : l.idxOf? c = some i) :
    l.take i = l.takeWhile (fun x => decide (x ≠ c)) := by
  induction l generalizing i with
  | nil => simp at found
  | cons x rest inductionHypothesis =>
      rw [List.idxOf?_cons] at found
      by_cases same : x = c
      · simp_all
      · obtain ⟨j, later, rfl⟩ : ∃ j, rest.idxOf? c = some j ∧ i = j + 1 := by
          cases h : rest.idxOf? c <;> simp_all
        simp [same, inductionHypothesis later]

/-- A plain name, one that is not empty and holds no `=`, is the key of an entry as
starting a program reads keys exactly when the entry gives it a value. -/
theorem entryKey?_eq_some_iff_defines
    {k : String}
    (named : k ≠ "")
    (plain : '=' ∉ k.toList)
    (entry : String) :
    entryKey? entry = some k ↔ Environment.defines k entry := by
  simp only [Environment.defines, Environment.key, String.contains_char_eq, Bool.and_eq_true,
    decide_eq_true_eq, beq_iff_eq]
  simp only [entryKey?]
  generalize entry.toList = cs
  rcases cs with _ | ⟨c, rest⟩
  · simp
  by_cases leading : c = '='
  · -- a key read from a leading `=` starts with `=`, the key before the first `=` is empty
    subst leading
    constructor
    · intro read
      cases found : rest.idxOf? '=' with
      | none =>
          simp only [found, Option.some.injEq] at read
          exact absurd read.symm named
      | some i =>
          simp only [found, Option.some.injEq] at read
          subst read
          simp at plain
    · rintro ⟨-, before⟩
      simp [← before] at named
  · cases found : (c :: rest).idxOf? '=' with
    | none =>
        have absent : '=' ∉ c :: rest := List.idxOf?_eq_none_iff.mp found
        simp_all
    | some i =>
        have hasValue : '=' ∈ c :: rest := by
          apply Classical.byContradiction
          intro absent
          simp [List.idxOf?_eq_none_iff.mpr absent] at found
        have cut := take_of_idxOf?_eq_some found
        simp_all

theorem lastOfEachKey_cons_of_nul
    {kv : String}
    (nulByte : kv.contains (Char.ofNat 0) = true)
    (rest : List String) :
    lastOfEachKey (kv :: rest) = lastOfEachKey rest := by
  simp [lastOfEachKey, nulByte]

theorem lastOfEachKey_cons_of_unkeyed
    {kv : String}
    (noNul : kv.contains (Char.ofNat 0) = false)
    (unkeyed : entryKey? kv = none)
    (rest : List String) :
    lastOfEachKey (kv :: rest) = if kv.isEmpty then lastOfEachKey rest else kv :: lastOfEachKey rest := by
  simp [lastOfEachKey, noNul, unkeyed]

theorem lastOfEachKey_cons_of_keyed
    {kv k : String}
    (noNul : kv.contains (Char.ofNat 0) = false)
    (keyed : entryKey? kv = some k)
    (rest : List String) :
    lastOfEachKey (kv :: rest) =
      if (lastOfEachKey rest).any (entryKey? · == some k) then lastOfEachKey rest
      else kv :: lastOfEachKey rest := by
  simp only [lastOfEachKey, noNul, keyed, Bool.false_eq_true, if_false]

/-- Appending an entry with a key to a list of entries keeps the entry, and drops the
older ones of its key. -/
theorem lastOfEachKey_append_singleton
    {entry k : String}
    (noNul : entry.contains (Char.ofNat 0) = false)
    (keyed : entryKey? entry = some k)
    (env : List String) :
    lastOfEachKey (env ++ [entry]) =
      (lastOfEachKey env).filter (entryKey? · != some k) ++ [entry] := by
  induction env with
  | nil => simp [lastOfEachKey, noNul, keyed]
  | cons kv rest inductionHypothesis =>
      cases nulByte : kv.contains (Char.ofNat 0)
      case true =>
        rw [lastOfEachKey_cons_of_nul nulByte, List.cons_append,
          lastOfEachKey_cons_of_nul nulByte, inductionHypothesis]
      cases kvKeyed : entryKey? kv with
      | none =>
          rw [List.cons_append, lastOfEachKey_cons_of_unkeyed nulByte kvKeyed,
            lastOfEachKey_cons_of_unkeyed nulByte kvKeyed, inductionHypothesis]
          split <;> simp [kvKeyed]
      | some k' =>
          rw [List.cons_append, lastOfEachKey_cons_of_keyed nulByte kvKeyed,
            lastOfEachKey_cons_of_keyed nulByte kvKeyed, inductionHypothesis]
          by_cases sameKey : k' = k
          · -- the appended entry is a later entry of the same key
            subst sameKey
            have dropped : (entryKey? kv != some k') = false := by simp [kvKeyed]
            simp [keyed, dropped, apply_ite (List.filter _)]
          · -- the entries of other keys are untouched by dropping those of `k`
            have sameLater : ((lastOfEachKey rest).filter (entryKey? · != some k) ++ [entry]).any
                (entryKey? · == some k') = (lastOfEachKey rest).any (entryKey? · == some k') := by
              have otherKey : (some k == some k') = false := by simp [Ne.symm sameKey]
              rw [List.any_append, List.any_filter]
              simp only [List.any_cons, List.any_nil, keyed, otherKey, Bool.or_false]
              apply List.any_congr rfl
              intro e
              cases entryKey? e <;> simp_all
            have kept : (entryKey? kv != some k) = true := by simp [kvKeyed, sameKey]
            rw [sameLater]
            split <;> simp [kept]

theorem lastOfEachKey_lastOfEachKey (env : List String) :
    lastOfEachKey (lastOfEachKey env) = lastOfEachKey env := by
  induction env with
  | nil => rfl
  | cons kv rest inductionHypothesis =>
      cases noNul : kv.contains (Char.ofNat 0)
      case true => rw [lastOfEachKey_cons_of_nul noNul, inductionHypothesis]
      cases kvKeyed : entryKey? kv with
      | none =>
          rw [lastOfEachKey_cons_of_unkeyed noNul kvKeyed]
          split
          · exact inductionHypothesis
          · rw [lastOfEachKey_cons_of_unkeyed noNul kvKeyed, inductionHypothesis]
            simp_all
      | some k =>
          rw [lastOfEachKey_cons_of_keyed noNul kvKeyed]
          by_cases later : (lastOfEachKey rest).any (entryKey? · == some k)
          · rw [if_pos later, inductionHypothesis]
          · rw [if_neg later, lastOfEachKey_cons_of_keyed noNul kvKeyed, inductionHypothesis,
              if_neg later]

end PseudoTerm.Control
