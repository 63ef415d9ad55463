import PseudoTerm.Fault

/-!
# Registries

A registry stores items under numeric ids.  Ids are handed out in order from 1 and never
reused, even after the item under an id is deleted.  The stored items, listed by id, are
the registry's view: adding appends, deleting removes one entry, looking up reads it.
-/

namespace PseudoTerm

/-- Items stored under ids handed out from 1, listed in increasing id order. -/
structure Registry (α : Type) where
  entries : List (Nat × α) := []
  lastId : Nat := 0
  deriving Repr, Inhabited

namespace Registry

variable {α : Type}

/-- The empty registry. -/
def empty : Registry α := {}

/-- Store an item under the next id; the new id is returned with the registry. -/
def add (r : Registry α) (item : α) : Nat × Registry α :=
  let id := r.lastId + 1
  (id, { entries := r.entries ++ [(id, item)], lastId := id })

/-- The item under an id, or the not-found fault. -/
def get (r : Registry α) (id : Int) : Except Fault α :=
  match r.entries.find? (fun e => (e.1 : Int) == id) with
  | some (_, item) => .ok item
  | none => .error .notFound

/-- Remove the item under an id; the not-found fault when there is none. -/
def delete (r : Registry α) (id : Int) : Except Fault (Registry α) :=
  if r.entries.any (fun e => (e.1 : Int) == id) then
    .ok { r with entries := r.entries.filter (fun e => (e.1 : Int) != id) }
  else .error .notFound

/-- The stored items with their ids, in increasing id order. -/
def toList (r : Registry α) : List (Nat × α) := r.entries

/-- The number of stored items. -/
def size (r : Registry α) : Nat := r.entries.length

/-- Whether an id is stored. -/
def contains (r : Registry α) (id : Nat) : Bool := r.entries.any (·.1 == id)

/-- Change the item under an id, when it is stored. -/
def modify (r : Registry α) (id : Nat) (f : α → α) : Registry α :=
  { r with entries := r.entries.map fun e => if e.1 == id then (e.1, f e.2) else e }

end Registry

end PseudoTerm
