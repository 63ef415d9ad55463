import PseudoTerm.Registry
import Mathlib.Data.List.Nodup

/-!
# Registries used from many threads

Every call on a registry holds the registry's lock, so the calls of all threads take
effect one at a time, in the order they took the lock.  A history is that order: a list
of calls, each carried out on the registry the calls before it left (`perform`,
`replay`).

Two counts carry every statement about a history: the last id handed out is the number
of adds so far (`replay_lastId`), and the stored entries are the adds that no later call
deleted, each under the number of its add (`mem_replay_iff`).  With the registry's own
invariant (`WellFormed`: ids increase along the entries and none is above the last id),
a lookup finds the one item under its id, a delete succeeds once per id, and the
delete of an id an add answered removes that add's entry and nothing else.  The last
fact is what a session manager relies on when the thread that collects a session
removes it by the id its start was answered.
-/

namespace PseudoTerm.Registry

variable {α : Type}

/-- A call on a registry. -/
inductive Call (α : Type) where
  | add (item : α)
  | get (id : Int)
  | delete (id : Int)
  | listAll
  | count

/-- The answer to a call. -/
inductive Reply (α : Type) where
  | added (id : Nat)
  | found (result : Except Fault α)
  | deleted (result : Except Fault Unit)
  | listed (entries : List (Nat × α))
  | counted (n : Nat)

/-- Carry out one call under the lock: its answer and the registry after it.  A delete
that finds nothing answers the not-found fault and leaves the registry as it was. -/
def perform (r : Registry α) : Call α → Reply α × Registry α
  | .add item =>
    let (id, r') := r.add item
    (.added id, r')
  | .get id => (.found (r.get id), r)
  | .delete id =>
    match r.delete id with
    | .ok r' => (.deleted (.ok ()), r')
    | .error f => (.deleted (.error f), r)
  | .listAll => (.listed r.toList, r)
  | .count => (.counted r.size, r)

/-- The registry a history of calls leaves, from `r`. -/
def replay (r : Registry α) (calls : List (Call α)) : Registry α :=
  calls.foldl (fun r c => (perform r c).2) r

/-- The answers to a history of calls from `r`, in order. -/
def replies (r : Registry α) : List (Call α) → List (Reply α)
  | [] => []
  | c :: rest => (perform r c).1 :: replies (perform r c).2 rest

/-- Whether a call is an add. -/
def Call.isAdd : Call α → Bool
  | .add _ => true
  | _ => false

/-- The number of adds in a history. -/
def addCount (calls : List (Call α)) : Nat := calls.countP Call.isAdd

/-- What a history stores under `id`: the item of an add, `id` being the number of that
add, when no later call deletes `id`. -/
def Stored (calls : List (Call α)) (id : Nat) (item : α) : Prop :=
  ∃ before after, calls = before ++ .add item :: after ∧ id = addCount before + 1 ∧
    ∀ c ∈ after, c ≠ .delete id

/-- Ids increase along the entries, and none is above the last id handed out. -/
structure WellFormed (r : Registry α) : Prop where
  increasing : (r.entries.map Prod.fst).Pairwise (· < ·)
  belowLast : ∀ e ∈ r.entries, e.1 ≤ r.lastId

/-! ## One call -/

@[simp] theorem perform_add (r : Registry α) (item : α) :
    perform r (.add item) =
      (.added (r.lastId + 1), { entries := r.entries ++ [(r.lastId + 1, item)], lastId := r.lastId + 1 }) :=
  rfl

@[simp] theorem perform_get (r : Registry α) (id : Int) : perform r (.get id) = (.found (r.get id), r) :=
  rfl

@[simp] theorem perform_listAll (r : Registry α) : perform r .listAll = (.listed r.toList, r) := rfl

@[simp] theorem perform_count (r : Registry α) : perform r .count = (.counted r.size, r) := rfl

/-- A delete that finds an entry under its id answers success and removes every entry
under it. -/
theorem perform_delete_of_present
    {r : Registry α}
    {id : Int}
    (present : r.entries.any (fun e => (e.1 : Int) == id) = true) :
    perform r (.delete id) =
      (.deleted (.ok ()), { r with entries := r.entries.filter fun e => (e.1 : Int) != id }) := by
  simp only [perform, Registry.delete, present, if_true]

/-- A delete that finds nothing under its id answers the not-found fault and changes
nothing. -/
theorem perform_delete_of_absent
    {r : Registry α}
    {id : Int}
    (absent : r.entries.any (fun e => (e.1 : Int) == id) = false) :
    perform r (.delete id) = (.deleted (.error .notFound), r) := by
  simp only [perform, Registry.delete, absent, Bool.false_eq_true, if_false]

@[simp] theorem perform_delete_snd (r : Registry α) (id : Int) :
    (perform r (.delete id)).2 = { r with entries := r.entries.filter fun e => (e.1 : Int) != id } := by
  cases present : r.entries.any (fun e => (e.1 : Int) == id)
  · -- no entry is under the id, so the filter keeps every entry
    have kept : r.entries.filter (fun e => (e.1 : Int) != id) = r.entries := by
      rw [List.filter_eq_self]
      intro e member
      simp only [bne_iff_ne, ne_eq]
      intro same
      simp only [List.any_eq_false, beq_iff_eq] at present
      exact present e member same
    rw [perform_delete_of_absent present, kept]
  · rw [perform_delete_of_present present]

/-- A delete answers success exactly when some entry is under its id, and the not-found
fault otherwise. -/
theorem perform_delete_fst (r : Registry α) (id : Int) :
    (perform r (.delete id)).1 =
      if r.entries.any (fun e => (e.1 : Int) == id) then .deleted (.ok ()) else .deleted (.error .notFound) := by
  cases present : r.entries.any (fun e => (e.1 : Int) == id)
  · rw [perform_delete_of_absent present]
    rfl
  · rw [perform_delete_of_present present]
    rfl

theorem perform_lastId (r : Registry α) (c : Call α) :
    (perform r c).2.lastId = r.lastId + if c.isAdd then 1 else 0 := by
  cases c <;> simp [Call.isAdd]

/-! ## Histories -/

@[simp] theorem replay_nil (r : Registry α) : replay r [] = r := rfl

@[simp] theorem replay_cons (r : Registry α) (c : Call α) (rest : List (Call α)) :
    replay r (c :: rest) = replay (perform r c).2 rest := rfl

theorem replay_append (r : Registry α) (first second : List (Call α)) :
    replay r (first ++ second) = replay (replay r first) second := by
  simp [replay, List.foldl_append]

@[simp] theorem addCount_nil : addCount ([] : List (Call α)) = 0 := rfl

@[simp] theorem addCount_cons (c : Call α) (rest : List (Call α)) :
    addCount (c :: rest) = addCount rest + if c.isAdd then 1 else 0 := by
  simp [addCount, List.countP_cons]

@[simp] theorem addCount_append (first second : List (Call α)) :
    addCount (first ++ second) = addCount first + addCount second := by
  simp [addCount, List.countP_append]

theorem replay_lastId (r : Registry α) (calls : List (Call α)) :
    (replay r calls).lastId = r.lastId + addCount calls := by
  induction calls generalizing r with
  | nil => rfl
  | cons c rest inductionHypothesis =>
      rw [replay_cons, inductionHypothesis, perform_lastId, addCount_cons]
      omega

theorem replies_append (r : Registry α) (first second : List (Call α)) :
    replies r (first ++ second) = replies r first ++ replies (replay r first) second := by
  induction first generalizing r with
  | nil => rfl
  | cons c rest inductionHypothesis => simp [replies, inductionHypothesis]

/-! ## The invariant -/

theorem wellFormed_add {r : Registry α} (wf : r.WellFormed) (item : α) :
    (perform r (.add item)).2.WellFormed := by
  constructor
  · simp only [perform_add, List.map_append, List.map_cons, List.map_nil]
    refine List.pairwise_append.mpr ⟨wf.increasing, List.pairwise_singleton _ _, ?_⟩
    intro a fromOld b fromNew
    obtain ⟨e, member, rfl⟩ := List.mem_map.mp fromOld
    simp only [List.mem_singleton] at fromNew
    have := wf.belowLast e member
    omega
  · intro e member
    simp only [perform_add, List.mem_append, List.mem_singleton] at member
    rcases member with old | rfl
    · exact Nat.le_succ_of_le (wf.belowLast e old)
    · exact Nat.le_refl _

theorem wellFormed_delete {r : Registry α} (wf : r.WellFormed) (id : Int) :
    (perform r (.delete id)).2.WellFormed := by
  constructor
  · simp only [perform_delete_snd]
    exact (wf.increasing.sublist ((List.filter_sublist).map Prod.fst))
  · intro e member
    simp only [perform_delete_snd, List.mem_filter] at member ⊢
    exact wf.belowLast e member.1

theorem wellFormed_perform {r : Registry α} (wf : r.WellFormed) (c : Call α) :
    (Registry.perform r c).2.WellFormed := by
  cases c with
  | add item => exact wellFormed_add wf item
  | delete id => exact wellFormed_delete wf id
  | get id => exact wf
  | listAll => exact wf
  | count => exact wf

theorem wellFormed_replay {r : Registry α} (wf : r.WellFormed) (calls : List (Call α)) :
    (Registry.replay r calls).WellFormed := by
  induction calls generalizing r with
  | nil => exact wf
  | cons c rest inductionHypothesis => exact inductionHypothesis (wellFormed_perform wf c)

theorem wellFormed_empty : (empty : Registry α).WellFormed :=
  ⟨List.Pairwise.nil, fun _ member => nomatch member⟩

theorem WellFormed.eq_of_mem
    {r : Registry α}
    (wf : r.WellFormed)
    {e e' : Nat × α}
    (first : e ∈ r.entries)
    (second : e' ∈ r.entries)
    (sameId : e.1 = e'.1) :
    e = e' :=
  List.inj_on_of_nodup_map (wf.increasing.imp Nat.ne_of_lt) first second sameId

/-! ## What a history stores -/

theorem exists_split_cons
    {c x : Call α}
    {rest : List (Call α)}
    {P : List (Call α) → List (Call α) → Prop} :
    (∃ before after, c :: rest = before ++ x :: after ∧ P before after) ↔
      (c = x ∧ P [] rest) ∨ ∃ before after, rest = before ++ x :: after ∧ P (c :: before) after := by
  constructor
  · rintro ⟨before, after, split, holds⟩
    cases before with
    | nil =>
        obtain ⟨rfl, rfl⟩ := List.cons.inj split
        exact .inl ⟨rfl, holds⟩
    | cons b before =>
        obtain ⟨rfl, later⟩ := List.cons.inj split
        exact .inr ⟨before, after, later, holds⟩
  · rintro (⟨rfl, holds⟩ | ⟨before, after, rfl, holds⟩)
    · exact ⟨[], rest, rfl, holds⟩
    · exact ⟨c :: before, after, rfl, holds⟩

/-- The entries a history leaves: those of `r` under an id no call deletes, and the item
of each add, under `r`'s last id plus the number of that add, when no later call deletes
it. -/
theorem mem_replay_iff
    (r : Registry α)
    (calls : List (Call α))
    (id : Nat)
    (item : α) :
    (id, item) ∈ (replay r calls).entries ↔
      ((id, item) ∈ r.entries ∧ ∀ c ∈ calls, c ≠ .delete id) ∨
        ∃ before after, calls = before ++ .add item :: after ∧
          id = r.lastId + addCount before + 1 ∧ ∀ c ∈ after, c ≠ .delete id := by
  induction calls generalizing r with
  | nil => simp
  | cons c rest inductionHypothesis =>
      rw [replay_cons, inductionHypothesis, exists_split_cons]
      cases c with
      | add added =>
          simp only [perform_add, List.mem_append, Prod.mk.injEq, List.mem_cons, forall_eq_or_imp, ne_eq, reduceCtorEq, not_false_eq_true, true_and,
            Call.add.injEq, addCount_cons, Call.isAdd, if_true, addCount_nil, List.not_mem_nil,
            or_false]
          constructor
          · rintro (⟨old | ⟨rfl, rfl⟩, kept⟩ | ⟨before, after, rfl, rfl, kept⟩)
            · exact .inl ⟨old, kept⟩
            · exact .inr (.inl ⟨rfl, by omega, kept⟩)
            · exact .inr (.inr ⟨before, after, rfl, by omega, kept⟩)
          · rintro (⟨old, kept⟩ | ⟨rfl, rfl, kept⟩ | ⟨before, after, rfl, rfl, kept⟩)
            · exact .inl ⟨.inl old, kept⟩
            · exact .inl ⟨.inr ⟨by omega, rfl⟩, kept⟩
            · exact .inr ⟨before, after, rfl, by omega, kept⟩
      | delete gone =>
          simp only [perform_delete_snd, List.mem_filter, bne_iff_ne, ne_eq, List.mem_cons,
            forall_eq_or_imp, Call.delete.injEq, reduceCtorEq, false_and, false_or, addCount_cons,
            Call.isAdd, Bool.false_eq_true, if_false, Nat.add_zero]
          constructor
          · rintro (⟨⟨old, kept⟩, later⟩ | added)
            · exact .inl ⟨old, fun same => kept same.symm, later⟩
            · exact .inr added
          · rintro (⟨old, kept, later⟩ | added)
            · exact .inl ⟨⟨old, fun same => kept same.symm⟩, later⟩
            · exact .inr added
      | get _ | listAll | count =>
          simp [addCount_cons, Call.isAdd]

theorem mem_replay_empty_iff (calls : List (Call α)) (id : Nat) (item : α) :
    (id, item) ∈ (replay empty calls).entries ↔ Stored calls id item := by
  rw [mem_replay_iff]
  simp [Stored, empty]

/-! ## Lookups and deletes -/

theorem WellFormed.get_eq_ok_iff
    {r : Registry α}
    (wf : r.WellFormed)
    (id : Int)
    (item : α) :
    r.get id = .ok item ↔ ∃ n : Nat, (n : Int) = id ∧ (n, item) ∈ r.entries := by
  unfold Registry.get
  constructor
  · intro found
    split at found
    · next n v located =>
        cases found
        have same := List.find?_some located
        simp only [beq_iff_eq] at same
        exact ⟨n, same, List.mem_of_find?_eq_some located⟩
    · cases found
  · rintro ⟨n, rfl, member⟩
    cases located : r.entries.find? (fun e => (e.1 : Int) == n) with
    | none => exact absurd (List.find?_eq_none.mp located (n, item) member) (by simp)
    | some e =>
        have same : e = (n, item) :=
          wf.eq_of_mem (List.mem_of_find?_eq_some located) member
            (by have := List.find?_some located; simp only [beq_iff_eq] at this; omega)
        subst same
        rfl

theorem get_eq_notFound_iff (r : Registry α) (id : Int) :
    r.get id = .error .notFound ↔ ∀ e ∈ r.entries, (e.1 : Int) ≠ id := by
  unfold Registry.get
  split
  · next n v located =>
      simp only [reduceCtorEq, false_iff, not_forall, not_not]
      exact ⟨_, List.mem_of_find?_eq_some located, by simpa using List.find?_some located⟩
  · next located =>
      simp only [true_iff]
      intro e member same
      exact List.find?_eq_none.mp located e member (by simp [same])

/-- A call keeps an id unstored once it was handed out: an add hands out a higher one. -/
theorem absent_perform
    {r : Registry α}
    {id : Int}
    (absent : ∀ e ∈ r.entries, (e.1 : Int) ≠ id)
    (handedOut : id ≤ r.lastId)
    (c : Call α) :
    (∀ e ∈ (perform r c).2.entries, (e.1 : Int) ≠ id) ∧ id ≤ (perform r c).2.lastId := by
  cases c with
  | add item =>
      simp only [perform_add, List.mem_append, List.mem_singleton]
      refine ⟨fun e member => ?_, by omega⟩
      rcases member with old | rfl
      · exact absent e old
      · simp only
        omega
  | delete gone =>
      simp only [perform_delete_snd, List.mem_filter]
      exact ⟨fun e member => absent e member.1, handedOut⟩
  | get _ | listAll | count => exact ⟨absent, handedOut⟩

theorem absent_replay
    {r : Registry α}
    {id : Int}
    (absent : ∀ e ∈ r.entries, (e.1 : Int) ≠ id)
    (handedOut : id ≤ r.lastId)
    (calls : List (Call α)) :
    (∀ e ∈ (replay r calls).entries, (e.1 : Int) ≠ id) ∧ id ≤ (replay r calls).lastId := by
  induction calls generalizing r with
  | nil => exact ⟨absent, handedOut⟩
  | cons c rest inductionHypothesis =>
      obtain ⟨stillAbsent, stillHandedOut⟩ := absent_perform absent handedOut c
      exact inductionHypothesis stillAbsent stillHandedOut

/-- A delete succeeds once per id: after it succeeded, every later delete of the id
answers the not-found fault. -/
theorem WellFormed.delete_once
    {r : Registry α}
    (wf : r.WellFormed)
    (id : Int)
    (mid : List (Call α))
    (succeeded : (perform r (.delete id)).1 = .deleted (.ok ())) :
    (perform (replay r (.delete id :: mid)) (.delete id)).1 = .deleted (.error .notFound) := by
  have present : r.entries.any (fun e => (e.1 : Int) == id) = true := by
    by_contra missing
    simp [perform_delete_fst, missing] at succeeded
  obtain ⟨e, member, same⟩ := List.any_eq_true.mp present
  have handedOut : id ≤ r.lastId := by
    have := wf.belowLast e member
    simp only [beq_iff_eq] at same
    omega
  have gone : ∀ e ∈ (perform r (.delete id)).2.entries, (e.1 : Int) ≠ id := by
    simp only [perform_delete_snd, List.mem_filter, bne_iff_ne, ne_eq]
    exact fun e member => member.2
  obtain ⟨stillGone, -⟩ := absent_replay gone (by simpa using handedOut) mid
  have missing : (replay (perform r (.delete id)).2 mid).entries.any
      (fun e => (e.1 : Int) == id) = false := by
    simpa using stillGone
  rw [replay_cons, perform_delete_fst, missing]
  rfl

/-! ## Answers that read the registry -/

@[simp] theorem length_replies (r : Registry α) (calls : List (Call α)) :
    (replies r calls).length = calls.length := by
  induction calls generalizing r with
  | nil => rfl
  | cons c rest inductionHypothesis => simp [replies, inductionHypothesis]

/-- A listing answers the entries stored when it was made, whatever calls come after it. -/
theorem replies_listAll (r : Registry α) (before after : List (Call α)) :
    (replies r (before ++ .listAll :: after))[before.length]? =
      some (.listed (replay r before).toList) := by
  rw [replies_append, List.getElem?_append_right (by simp)]
  simp [replies]

/-- While the entry of an add is stored, it is the only entry under the id the add was
answered. -/
theorem WellFormed.mem_replay_add
    {r : Registry α}
    (wf : r.WellFormed)
    (item : α)
    (mid : List (Call α))
    {e : Nat × α}
    (member : e ∈ (replay r (.add item :: mid)).entries)
    (sameId : e.1 = r.lastId + 1) :
    e = (r.lastId + 1, item) := by
  obtain ⟨n, v⟩ := e
  simp only at sameId
  subst sameId
  rw [replay_cons, mem_replay_iff] at member
  rcases member with ⟨inAdded, -⟩ | ⟨before, after, -, tooHigh, -⟩
  · simp only [perform_add, List.mem_append, List.mem_singleton, Prod.mk.injEq] at inAdded
    rcases inAdded with old | ⟨-, rfl⟩
    · have := wf.belowLast _ old
      omega
    · rfl
  · simp only [perform_add] at tooHigh
    omega

/-- From the empty registry, an entry is under an id exactly when the history stores an
item under it. -/
theorem any_replay_empty_iff (calls : List (Call α)) (id : Int) :
    (replay empty calls).entries.any (fun e => (e.1 : Int) == id) = true ↔
      ∃ (n : Nat) (item : α), (n : Int) = id ∧ Stored calls n item := by
  simp only [List.any_eq_true, beq_iff_eq, Prod.exists, ← mem_replay_empty_iff]
  constructor
  · rintro ⟨n, item, member, rfl⟩
    exact ⟨n, item, rfl, member⟩
  · rintro ⟨n, item, rfl, member⟩
    exact ⟨n, item, member, rfl⟩

/-! ## Histories in lock order -/

/-- Calls on a registry made from any threads, taken in the order they held its lock: the
add numbered `k` answers id `k`, so no id is handed out twice; the stored entries, by
increasing id, are the adds that no later call deleted, each under the number of its add;
a lookup answers the item stored under its id, or the not-found fault when there is
none; a delete succeeds and removes the entry when one is under its id, answers the
not-found fault and changes nothing otherwise, and succeeds once per id; the count is
the length of the listing; a listing answers the entries of its moment, whatever calls
come after it; and the entry under the id an add answered is that add's own, so a
delete of that id removes that entry and no other. -/
theorem history_stores_undeleted_adds (calls : List (Call α)) :
    (∀ before item after, calls = before ++ .add item :: after →
      (perform (replay empty before) (.add item)).1 = .added (addCount before + 1)) ∧
    ((replay empty calls).toList.map Prod.fst).Pairwise (· < ·) ∧
    (∀ id item, (id, item) ∈ (replay empty calls).toList ↔ Stored calls id item) ∧
    (∀ (id : Int) (item : α), (replay empty calls).get id = .ok item ↔
      ∃ n : Nat, (n : Int) = id ∧ Stored calls n item) ∧
    (∀ id : Int, (replay empty calls).get id = .error .notFound ↔
      ¬∃ (n : Nat) (item : α), (n : Int) = id ∧ Stored calls n item) ∧
    (∀ id : Int, (∃ (n : Nat) (item : α), (n : Int) = id ∧ Stored calls n item) →
      perform (replay empty calls) (.delete id) =
        (.deleted (.ok ()), { replay empty calls with
          entries := (replay empty calls).entries.filter fun e => (e.1 : Int) != id })) ∧
    (∀ id : Int, (¬∃ (n : Nat) (item : α), (n : Int) = id ∧ Stored calls n item) →
      perform (replay empty calls) (.delete id) = (.deleted (.error .notFound), replay empty calls)) ∧
    (∀ before mid after (id : Int), calls = before ++ .delete id :: mid ++ .delete id :: after →
      (perform (replay empty before) (.delete id)).1 = .deleted (.ok ()) →
      (perform (replay empty (before ++ .delete id :: mid)) (.delete id)).1 =
        .deleted (.error .notFound)) ∧
    (replay empty calls).size = (replay empty calls).toList.length ∧
    (∀ before after, calls = before ++ .listAll :: after →
      (replies empty calls)[before.length]? = some (.listed (replay empty before).toList)) ∧
    (∀ before item mid, calls = before ++ .add item :: mid →
      ∀ e ∈ (replay empty calls).toList, e.1 = addCount before + 1 → e = (addCount before + 1, item)) := by
  have wf : (replay empty calls).WellFormed := wellFormed_replay wellFormed_empty calls
  have present := any_replay_empty_iff calls
  have lastId : ∀ before : List (Call α), (replay empty before).lastId = addCount before := by
    intro before
    simp [replay_lastId, empty]
  refine ⟨?added, wf.increasing, mem_replay_empty_iff calls, ?lookup, ?missing, ?deleted, ?kept,
    ?once, rfl, ?listing, ?ownEntry⟩
  case added =>
    intro before item after _
    simp [lastId]
  case lookup =>
    intro id item
    rw [wf.get_eq_ok_iff]
    exact exists_congr fun n => and_congr_right fun _ => mem_replay_empty_iff calls n item
  case missing =>
    intro id
    rw [get_eq_notFound_iff, ← present]
    simp [List.any_eq_true]
  case deleted =>
    intro id found
    exact perform_delete_of_present ((present id).mpr found)
  case kept =>
    intro id notFound
    apply perform_delete_of_absent
    cases found : (replay empty calls).entries.any (fun e => (e.1 : Int) == id)
    · rfl
    · exact absurd ((present id).mp found) notFound
  case once =>
    intro before mid after id _ succeeded
    rw [replay_append]
    exact (wellFormed_replay wellFormed_empty before).delete_once id mid succeeded
  case listing =>
    intro before after split
    rw [split]
    exact replies_listAll empty before after
  case ownEntry =>
    intro before item mid split e member sameId
    rw [split, replay_append] at member
    have owned := (wellFormed_replay wellFormed_empty before).mem_replay_add item mid member
      (by rw [lastId]; exact sameId)
    rwa [lastId] at owned

end PseudoTerm.Registry
