import Mathlib.Data.List.Basic
import Mathlib.Data.List.Induction
import Mathlib.Data.List.TakeWhile
import PseudoTerm.Proofs.Environment
import PseudoTerm.Config.Session

/-!
# Merging environments

Merging overlays entries one at a time: an entry takes the place of the entry of its key,
or goes last when its key is new.  Read as a whole, the merge of a list keeps, for each key
in the order the keys first appear, the last entry of that key (`lastPerKey`).  The laws
of merging follow from this form: merging a merged list with more entries is merging the
concatenation, and a merged list merges to itself.

A key is the text before the first `=`, or the whole entry, while a lookup only sees the
entries that hold an `=`.  The merged list answers a lookup with the value of the last
entry of the key, so the two agree on every key whose last entry holds an `=`, and a bare
entry after a definition of its key hides the definition.  The environment of a session
inherits this: it answers the lookups of the entries it is built from, keeps one entry per
key and adds the terminal type, except where a bare entry is the last of its key.
-/

namespace PseudoTerm.Environment

/-! ## The reference form of a merge -/

/-- The keys of a list, each once, in the order they first appear. -/
def firstKeys (env : List String) : List String := (env.map key).eraseDups

/-- The last entry of a list whose key is `k`. -/
def lastWithKey (env : List String) (k : String) : Option String :=
  env.reverse.find? (key · == k)

/-- For each key in the order the keys first appear, the last entry of that key. -/
def lastPerKey (env : List String) : List String :=
  (firstKeys env).filterMap (lastWithKey env)

theorem mem_firstKeys {env : List String} {k : String} :
    k ∈ firstKeys env ↔ k ∈ env.map key :=
  List.mem_eraseDups

theorem firstKeys_append_singleton (env : List String) (entry : String) :
    firstKeys (env ++ [entry]) =
      if key entry ∈ env.map key then firstKeys env else firstKeys env ++ [key entry] := by
  simp only [firstKeys, List.map_append, List.map_cons, List.map_nil, List.eraseDups_append]
  split
  · next met =>
      obtain ⟨first, member, keyed⟩ := List.mem_map.mp met
      have present : ∃ e, e ∈ env ∧ key e = key entry := ⟨first, member, keyed⟩
      simp [List.removeAll, present]
  · next fresh =>
      have absent : ¬∃ e, e ∈ env ∧ key e = key entry := by simpa using fresh
      simp [List.removeAll, absent, List.eraseDups_cons]

theorem firstKeys_nodup (env : List String) : (firstKeys env).Nodup := by
  induction env using List.reverseRecOn with
  | nil => simp [firstKeys]
  | append_singleton env entry inductionHypothesis =>
      rw [firstKeys_append_singleton]
      split
      · exact inductionHypothesis
      · next fresh =>
          have unmet : key entry ∉ firstKeys env := fun met => fresh (mem_firstKeys.1 met)
          rw [List.nodup_append]
          refine ⟨inductionHypothesis, by simp, ?_⟩
          rintro k member _ single rfl
          exact unmet (List.mem_singleton.mp single ▸ member)

theorem lastWithKey_append_singleton (env : List String) (entry k : String) :
    lastWithKey (env ++ [entry]) k = if key entry = k then some entry else lastWithKey env k := by
  by_cases same : key entry = k <;> simp [lastWithKey, same]

theorem key_of_lastWithKey
    {env : List String}
    {k entry : String}
    (found : lastWithKey env k = some entry) :
    key entry = k ∧ entry ∈ env := by
  have keyed := List.find?_some found
  have member := List.mem_of_find?_eq_some found
  simp_all

theorem lastWithKey_eq_none_iff {env : List String} {k : String} :
    lastWithKey env k = none ↔ k ∉ env.map key := by
  simp [lastWithKey]

theorem exists_lastWithKey
    {env : List String}
    {k : String}
    (present : k ∈ env.map key) :
    ∃ entry, lastWithKey env k = some entry ∧ key entry = k := by
  cases found : lastWithKey env k with
  | none => exact absurd present (lastWithKey_eq_none_iff.1 found)
  | some entry => exact ⟨entry, rfl, (key_of_lastWithKey found).1⟩

theorem keys_lastPerKey (env : List String) : (lastPerKey env).map key = firstKeys env := by
  rw [lastPerKey, List.map_filterMap]
  calc (firstKeys env).filterMap (fun k => (lastWithKey env k).map key)
      = (firstKeys env).filterMap some := by
        apply List.filterMap_congr
        intro k member
        obtain ⟨entry, found, keyed⟩ := exists_lastWithKey (mem_firstKeys.1 member)
        simp [found, keyed]
    _ = firstKeys env := List.filterMap_some

theorem mem_keys_lastPerKey {env : List String} {k : String} :
    k ∈ (lastPerKey env).map key ↔ k ∈ env.map key := by
  rw [keys_lastPerKey, mem_firstKeys]

/-! ## One overlay -/

theorem overlay_of_mem
    {merged : List String}
    {entry : String}
    (met : key entry ∈ merged.map key) :
    overlay merged entry = merged.map fun e => if key e = key entry then entry else e := by
  have found : merged.any (fun e => key e == key entry) = true := by simpa using met
  simp [overlay, found]

theorem overlay_of_not_mem
    {merged : List String}
    {entry : String}
    (fresh : key entry ∉ merged.map key) :
    overlay merged entry = merged ++ [entry] := by
  have missing : merged.any (fun e => key e == key entry) = false := by simpa using fresh
  simp [overlay, missing]

theorem lastPerKey_append_singleton (env : List String) (entry : String) :
    lastPerKey (env ++ [entry]) = overlay (lastPerKey env) entry := by
  by_cases met : key entry ∈ env.map key
  · -- the entry takes the place of the last entry of its key, every other key keeps its own
    rw [overlay_of_mem (mem_keys_lastPerKey.2 met), lastPerKey, lastPerKey,
      firstKeys_append_singleton, if_pos met, List.map_filterMap]
    apply List.filterMap_congr
    intro k member
    obtain ⟨last, found, keyed⟩ := exists_lastWithKey (mem_firstKeys.1 member)
    by_cases same : key entry = k
    · simp [lastWithKey_append_singleton, found, keyed, same]
    · simp [lastWithKey_append_singleton, found, keyed, same, Ne.symm same]
  · -- a new key goes last, after the keys met before it
    have unmet : ∀ k ∈ firstKeys env, key entry ≠ k := by
      intro k member same
      exact met (same ▸ mem_firstKeys.1 member)
    rw [overlay_of_not_mem (fun present => met (mem_keys_lastPerKey.1 present)), lastPerKey,
      lastPerKey, firstKeys_append_singleton, if_neg met, List.filterMap_append]
    congr 1
    · apply List.filterMap_congr
      intro k member
      simp [lastWithKey_append_singleton, unmet k member]
    · simp [lastWithKey_append_singleton]

theorem foldl_overlay_nil (env : List String) : env.foldl overlay [] = lastPerKey env := by
  induction env using List.reverseRecOn with
  | nil => rfl
  | append_singleton env entry inductionHypothesis =>
      rw [List.foldl_append, inductionHypothesis, lastPerKey_append_singleton]
      rfl

theorem merge_eq_lastPerKey (base extra : List String) :
    merge base extra = lastPerKey (base ++ extra) :=
  foldl_overlay_nil (base ++ extra)

theorem keys_merge_nodup (base extra : List String) : ((merge base extra).map key).Nodup := by
  rw [merge_eq_lastPerKey, keys_lastPerKey]
  exact firstKeys_nodup _

theorem foldl_overlay_of_nodup
    {acc env : List String}
    (distinct : ((acc ++ env).map key).Nodup) :
    env.foldl overlay acc = acc ++ env := by
  induction env generalizing acc with
  | nil => simp
  | cons entry rest inductionHypothesis =>
      have fresh : key entry ∉ acc.map key := by
        intro met
        simp only [List.map_append, List.map_cons, List.nodup_append, List.nodup_cons] at distinct
        exact distinct.2.2 _ met _ List.mem_cons_self rfl
      rw [List.foldl_cons, overlay_of_not_mem fresh, inductionHypothesis (by simpa using distinct)]
      simp

theorem merge_merge (base extra more : List String) :
    merge (merge base extra) more = merge base (extra ++ more) := by
  have remerged : (merge base extra).foldl overlay [] = merge base extra :=
    foldl_overlay_of_nodup (by simpa using keys_merge_nodup base extra)
  calc merge (merge base extra) more
      = more.foldl overlay ((merge base extra).foldl overlay []) := by
        rw [merge, List.foldl_append]
    _ = more.foldl overlay ((base ++ extra).foldl overlay []) := by
        rw [remerged, merge]
    _ = (base ++ extra ++ more).foldl overlay [] := List.foldl_append.symm
    _ = merge base (extra ++ more) := by
        rw [merge, List.append_assoc]

/-- A merge keeps the last entry of each key, at the place where the key first appears;
merging its result with more entries merges the concatenation, and with none gives the
result back. -/
theorem merge_keeps_last_of_each_key (base extra : List String) :
    merge base extra = lastPerKey (base ++ extra) ∧
    (∀ more, merge (merge base extra) more = merge base (extra ++ more)) ∧
    merge (merge base extra) [] = merge base extra := by
  refine ⟨merge_eq_lastPerKey base extra, merge_merge base extra, ?_⟩
  rw [merge_merge, List.append_nil]

/-! ## Looking a key up -/

theorem value?_ne_none {entry : String} (assigns : '=' ∈ entry.toList) : value? entry ≠ none :=
  fun bare => (value?_eq_none_iff entry).mp bare assigns

theorem lookup_append (front back : List String) (k : String) :
    lookup (front ++ back) k = (lookup back k).or (lookup front k) := by
  simp [lookup, List.findSome?_append]

theorem lookup_singleton (entry k : String) :
    lookup [entry] k = if key entry = k then value? entry else none := by
  cases assigned : value? entry <;> by_cases same : key entry = k <;> simp [lookup, assigned, same]

theorem lookup_cons (entry : String) (rest : List String) (k : String) :
    lookup (entry :: rest) k = (lookup rest k).or (lookup [entry] k) :=
  lookup_append [entry] rest k

theorem lookup_eq_none_of_not_mem
    {env : List String}
    {k : String}
    (absent : k ∉ env.map key) :
    lookup env k = none := by
  rw [lookup_filter_defines, List.filter_eq_nil_iff.mpr]
  · rfl
  · intro entry member defined
    simp only [defines, Bool.and_eq_true, beq_iff_eq] at defined
    exact absent (defined.2 ▸ List.mem_map_of_mem member)

theorem lookup_of_lastWithKey
    {env : List String}
    {k entry : String}
    (found : lastWithKey env k = some entry)
    (assigns : '=' ∈ entry.toList) :
    lookup env k = value? entry := by
  induction env using List.reverseRecOn with
  | nil => simp [lastWithKey] at found
  | append_singleton env last inductionHypothesis =>
      rw [lastWithKey_append_singleton] at found
      rw [lookup_append, lookup_singleton]
      by_cases same : key last = k
      · -- the entry found is the last one, and it gives a value
        simp only [same, if_true, Option.some.injEq] at found
        subst found
        obtain ⟨v, assigned⟩ := Option.ne_none_iff_exists'.mp (value?_ne_none assigns)
        simp [same, assigned]
      · simp only [same, if_false] at found
        simp [same, inductionHypothesis found]

theorem lookup_map_replace_of_ne
    {entry k : String}
    (other : key entry ≠ k)
    (merged : List String) :
    lookup (merged.map fun e => if key e = key entry then entry else e) k = lookup merged k := by
  induction merged with
  | nil => rfl
  | cons first rest inductionHypothesis =>
      rw [List.map_cons, lookup_cons, lookup_cons first, inductionHypothesis]
      by_cases replaced : key first = key entry
      · simp [lookup_singleton, replaced, other]
      · simp [replaced]

theorem lookup_map_replace_self
    {entry : String}
    (merged : List String)
    (met : key entry ∈ merged.map key) :
    lookup (merged.map fun e => if key e = key entry then entry else e) (key entry) =
      value? entry := by
  induction merged with
  | nil => simp at met
  | cons first rest inductionHypothesis =>
      rw [List.map_cons, lookup_cons]
      by_cases later : key entry ∈ rest.map key
      · -- a later entry of the key answers, and this one agrees or says nothing
        rw [inductionHypothesis later]
        by_cases replaced : key first = key entry <;> simp [lookup_singleton, replaced]
      · -- this is the one entry of the key
        have replaced : key first = key entry := by
          simp only [List.map_cons, List.mem_cons] at met
          exact (met.resolve_right later).symm
        have untouched : (rest.map fun e => if key e = key entry then entry else e) = rest := by
          conv => rhs; rw [← List.map_id rest]
          apply List.map_congr_left
          intro e member
          have : key e ≠ key entry := fun same => later (same ▸ List.mem_map_of_mem member)
          simp [this]
        rw [untouched, lookup_eq_none_of_not_mem later]
        simp [lookup_singleton, replaced]

/-- An overlay answers the lookup of its entry's key with the entry's value, none when the
entry is bare, and leaves every other key as it was. -/
theorem lookup_overlay (merged : List String) (entry k : String) :
    lookup (overlay merged entry) k = if key entry = k then value? entry else lookup merged k := by
  by_cases met : key entry ∈ merged.map key
  · rw [overlay_of_mem met]
    by_cases same : key entry = k
    · subst same
      simp [lookup_map_replace_self merged met]
    · simp [lookup_map_replace_of_ne same, same]
  · rw [overlay_of_not_mem met, lookup_append, lookup_singleton]
    by_cases same : key entry = k
    · subst same
      simp [lookup_eq_none_of_not_mem met]
    · simp [same]

theorem lookup_lastPerKey (env : List String) (k : String) :
    lookup (lastPerKey env) k = (lastWithKey env k).bind value? := by
  induction env using List.reverseRecOn with
  | nil => rfl
  | append_singleton env entry inductionHypothesis =>
      rw [lastPerKey_append_singleton, lookup_overlay, inductionHypothesis,
        lastWithKey_append_singleton]
      by_cases same : key entry = k <;> simp [same]

theorem lookup_lastPerKey_eq_none
    {env : List String}
    {k : String}
    (missing : lookup env k = none) :
    lookup (lastPerKey env) k = none := by
  rw [lookup_lastPerKey]
  cases found : lastWithKey env k with
  | none => rfl
  | some entry =>
      by_cases assigns : '=' ∈ entry.toList
      · rw [lookup_of_lastWithKey found assigns] at missing
        exact absurd missing (value?_ne_none assigns)
      · exact (value?_eq_none_iff entry).mpr assigns

theorem key_of_bare {entry : String} (bare : '=' ∉ entry.toList) : key entry = entry := by
  have kept : entry.toList.takeWhile (· ≠ '=') = entry.toList := by
    rw [List.takeWhile_eq_self_iff]
    intro c member
    simp only [ne_eq, decide_eq_true_eq]
    exact fun same => bare (same ▸ member)
  rw [key, kept]
  simp

theorem key_term (term : String) : key ("TERM=" ++ term) = "TERM" := by
  simpa using key_assignment (k := "TERM") (by decide) term

theorem lookup_append_term (env : List String) (term k : String) :
    lookup (env ++ ["TERM=" ++ term]) k = if k = "TERM" then some term else lookup env k := by
  have assigned : value? ("TERM=" ++ term) = some term := by
    simpa using value?_assignment (k := "TERM") (by decide) term
  rw [lookup_append, lookup_singleton, key_term]
  by_cases named : k = "TERM"
  · simp [named, assigned]
  · simp [named, Ne.symm named]

end PseudoTerm.Environment

namespace PseudoTerm.Config

open Environment

/-- The entries a session's environment is merged from: the inherited ones unless the
session starts clean, then its own. -/
def SessionSpec.sources (s : SessionSpec) (inherited : List String) : List String :=
  (if s.cleanEnv then [] else inherited) ++ s.env

variable (s : SessionSpec) (inherited : List String)

/-- The environment is the reference form of its sources, with `TERM` appended exactly when
that form defines none. -/
theorem environment_cases :
    (s.environment inherited = lastPerKey (s.sources inherited) ∧
      lookup (lastPerKey (s.sources inherited)) "TERM" ≠ none) ∨
    (s.environment inherited = lastPerKey (s.sources inherited) ++ ["TERM=" ++ s.term] ∧
      lookup (lastPerKey (s.sources inherited)) "TERM" = none) := by
  have merged := merge_eq_lastPerKey (if s.cleanEnv then [] else inherited) s.env
  simp only [SessionSpec.environment, forSession, SessionSpec.sources] at merged ⊢
  rw [merged]
  cases found : lookup (lastPerKey ((if s.cleanEnv then [] else inherited) ++ s.env)) "TERM" with
  | none => exact .inr ⟨rfl, rfl⟩
  | some v => exact .inl ⟨rfl, by simp⟩

/-- The keys of the environment are distinct unless a bare `TERM` is the last entry of its
key: the merge drops its definition and `TERM` is added a second time. -/
theorem environment_keys_nodup_iff :
    ((s.environment inherited).map key).Nodup ↔
      lastWithKey (s.sources inherited) "TERM" ≠ some "TERM" := by
  have distinct := keys_lastPerKey (s.sources inherited) ▸ firstKeys_nodup (s.sources inherited)
  rcases environment_cases s inherited with ⟨same, defined⟩ | ⟨added, undefined⟩
  · -- a bare `TERM` last would leave `TERM` undefined
    rw [same]
    refine iff_of_true distinct ?_
    intro bareLast
    rw [lookup_lastPerKey, bareLast] at defined
    exact defined rfl
  · rw [added, List.map_append, List.map_singleton, key_term, List.nodup_append]
    have lastBare : ∀ entry, lastWithKey (s.sources inherited) "TERM" = some entry →
        entry = "TERM" := by
      intro entry found
      rw [lookup_lastPerKey, found] at undefined
      have bare := (value?_eq_none_iff entry).mp undefined
      rw [← key_of_bare bare]
      exact (key_of_lastWithKey found).1
    constructor
    · rintro ⟨-, -, apart⟩ bareLast
      have present : "TERM" ∈ (s.sources inherited).map key :=
        (key_of_lastWithKey bareLast).1 ▸ List.mem_map_of_mem (key_of_lastWithKey bareLast).2
      exact apart "TERM" (mem_keys_lastPerKey.2 present) "TERM" (List.mem_singleton_self _) rfl
    · intro notBareLast
      have absent : lastWithKey (s.sources inherited) "TERM" = none := by
        cases found : lastWithKey (s.sources inherited) "TERM" with
        | none => rfl
        | some entry =>
            have bareTerm := lastBare entry found
            subst bareTerm
            exact absurd found notBareLast
      refine ⟨distinct, by simp, ?_⟩
      rintro k member _ single rfl
      rw [List.mem_singleton.mp single, mem_keys_lastPerKey] at member
      exact lastWithKey_eq_none_iff.1 absent member

theorem lookup_environment_of_assigned
    {k entry : String}
    (found : lastWithKey (s.sources inherited) k = some entry)
    (assigns : '=' ∈ entry.toList) :
    lookup (s.environment inherited) k = lookup (s.sources inherited) k := by
  have kept : lookup (lastPerKey (s.sources inherited)) k = value? entry := by
    rw [lookup_lastPerKey, found]
    rfl
  rw [lookup_of_lastWithKey found assigns]
  rcases environment_cases s inherited with ⟨same, -⟩ | ⟨added, undefined⟩
  · rw [same, kept]
  · -- the key is defined, so it is not the `TERM` that was added
    have other : k ≠ "TERM" := by
      rintro rfl
      exact value?_ne_none assigns (kept ▸ undefined)
    rw [added, lookup_append_term, if_neg other, kept]

theorem lookup_environment_term (missing : lookup (s.sources inherited) "TERM" = none) :
    lookup (s.environment inherited) "TERM" = some s.term := by
  rcases environment_cases s inherited with ⟨-, defined⟩ | ⟨added, -⟩
  · exact absurd (lookup_lastPerKey_eq_none missing) defined
  · rw [added, lookup_append_term, if_pos rfl]

theorem lookup_environment_of_missing
    {k : String}
    (other : k ≠ "TERM")
    (missing : lookup (s.sources inherited) k = none) :
    lookup (s.environment inherited) k = none := by
  rcases environment_cases s inherited with ⟨same, -⟩ | ⟨added, -⟩
  · rw [same, lookup_lastPerKey_eq_none missing]
  · rw [added, lookup_append_term, if_neg other, lookup_lastPerKey_eq_none missing]

/-- The environment of a session against the entries it is merged from: one entry per key
unless a bare `TERM` is the last entry of its key; the lookups of every key whose last entry
holds an `=`; the session's terminal type when the sources define no `TERM`; and no other key
the sources leave undefined. -/
theorem environment_follows_sources :
    (((s.environment inherited).map key).Nodup ↔
      lastWithKey (s.sources inherited) "TERM" ≠ some "TERM") ∧
    (∀ k entry, lastWithKey (s.sources inherited) k = some entry → '=' ∈ entry.toList →
      lookup (s.environment inherited) k = lookup (s.sources inherited) k) ∧
    (lookup (s.sources inherited) "TERM" = none →
      lookup (s.environment inherited) "TERM" = some s.term) ∧
    (∀ k, k ≠ "TERM" → lookup (s.sources inherited) k = none →
      lookup (s.environment inherited) k = none) :=
  ⟨environment_keys_nodup_iff s inherited,
    fun _ _ found assigns => lookup_environment_of_assigned s inherited found assigns,
    lookup_environment_term s inherited,
    fun _ other missing => lookup_environment_of_missing s inherited other missing⟩

/-- A bare `TERM` after a definition of it hides the definition, and the default terminal
type is added beside it. -/
theorem bare_term_hides_definition :
    let s : SessionSpec := { cleanEnv := true, env := ["TERM=vt100", "TERM"], term := "xterm-256color" }
    s.environment [] = ["TERM", "TERM=xterm-256color"] ∧
      lookup (s.sources []) "TERM" = some "vt100" ∧
      lookup (s.environment []) "TERM" = some "xterm-256color" ∧
      ¬((s.environment []).map key).Nodup := by
  decide

end PseudoTerm.Config
