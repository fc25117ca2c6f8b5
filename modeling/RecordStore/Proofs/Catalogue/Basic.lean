import Mathlib
import RecordStore.Store.Operation

/-!
A store as its users see it.  Each type that they have used has a number that comes next and, under
numbers that have been given out, entries: objects that are live, in quarantine or deleted.  Of the
schemas a catalogue knows only for which types there is one.
-/
namespace RecordStore

/-- How an object stands. -/
inductive Standing
  | live
  | quarantined
  | deleted
deriving DecidableEq, Repr

/-- An object under a number. -/
structure Entry where
  value : Record
  standing : Standing
deriving Repr

namespace Entry

/-- The entry with another object, unless it is deleted. -/
def replaced (r : Record) (e : Entry) : Entry :=
  if e.standing = .deleted then e else { e with value := r }

def struck (e : Entry) : Entry :=
  { e with standing := .deleted }

/-- The entry moved from one standing to another, if it stands there. -/
def moved (source goal : Standing) (e : Entry) : Entry :=
  if e.standing = source then { e with standing := goal } else e

/-- Whether a scan lists an entry. -/
def listed (includeQuarantined : Bool) (e : Entry) : Bool :=
  e.standing = .live || includeQuarantined && e.standing = .quarantined

end Entry

/-- The entries of a type.  Their numbers ascend and are below the next one, so that no number has two
entries and none comes twice. -/
structure Holding where
  next : Nat
  entries : List (Nat × Entry)
  ascending : (entries.map (·.1) ++ [next]).Pairwise (· < ·)

namespace Holding

/-- What a new type has. -/
def empty : Holding := ⟨1, [], List.pairwise_singleton _ _⟩

theorem lt_next (h : Holding) : ∀ p ∈ h.entries, p.1 < h.next := by
  intro p hp
  exact (List.pairwise_append.1 h.ascending).2.2 p.1 (List.mem_map_of_mem hp) h.next
    (List.mem_singleton_self _)

theorem pairwise_lt (h : Holding) : (h.entries.map (·.1)).Pairwise (· < ·) :=
  (List.pairwise_append.1 h.ascending).1

theorem pairwise_append_of_lt {ids : List Nat} {n : Nat} (h : ids.Pairwise (· < ·))
    (hn : ∀ id ∈ ids, id < n) : (ids ++ [n]).Pairwise (· < ·) := by
  refine List.pairwise_append.2 ⟨h, List.pairwise_singleton _ _, ?_⟩
  intro id hid m hm
  rw [List.mem_singleton.1 hm]
  exact hn id hid

/-- The next number is given up. -/
def skip (h : Holding) : Holding where
  next := h.next + 1
  entries := h.entries
  ascending := by
    apply pairwise_append_of_lt h.pairwise_lt
    intro id hid
    obtain ⟨p, hp, rfl⟩ := List.mem_map.1 hid
    exact Nat.lt_succ_of_lt (h.lt_next p hp)

/-- A live entry under the next number. -/
def add (r : Record) (h : Holding) : Holding where
  next := h.next + 1
  entries := h.entries ++ [(h.next, ⟨r, .live⟩)]
  ascending := by
    rw [List.map_append]
    apply pairwise_append_of_lt h.ascending
    intro id hid
    rcases List.mem_append.1 hid with hid | hid
    · obtain ⟨p, hp, rfl⟩ := List.mem_map.1 hid
      exact Nat.lt_succ_of_lt (h.lt_next p hp)
    · rw [List.mem_singleton.1 hid]
      exact Nat.lt_succ_self _

/-- The entry of a number changed, if there is one. -/
def change (id : Nat) (f : Entry → Entry) (h : Holding) : Holding where
  next := h.next
  entries := h.entries.map fun p => (p.1, if p.1 = id then f p.2 else p.2)
  ascending := by
    rw [List.map_map]
    exact h.ascending

/-- No entries, and the same number next. -/
def cleared (h : Holding) : Holding := ⟨h.next, [], List.pairwise_singleton _ _⟩

def found? (h : Holding) (id : Nat) : Option Entry :=
  (h.entries.find? (·.1 == id)).map (·.2)

/-- The numbers of the entries that a scan lists, in order. -/
def listed (includeQuarantined : Bool) (h : Holding) : List Nat :=
  (h.entries.filter (·.2.listed includeQuarantined)).map (·.1)

theorem found?_eq_some {h : Holding} {id : Nat} {e : Entry} :
    h.found? id = some e ↔ (id, e) ∈ h.entries := by
  rw [found?, Option.map_eq_some_iff]
  constructor
  · rintro ⟨p, hp, rfl⟩
    have hid : p.1 = id := by simpa using List.find?_some hp
    rw [← hid]
    exact List.mem_of_find?_eq_some hp
  · intro hmem
    obtain ⟨p, hp⟩ : ∃ p, h.entries.find? (·.1 == id) = some p := by
      apply Option.isSome_iff_exists.1
      rw [List.find?_isSome]
      exact ⟨(id, e), hmem, beq_self_eq_true id⟩
    -- a number has one entry at most, so the one that is found is this one
    have hid : p.1 = id := by simpa using List.find?_some hp
    have hnodup : (h.entries.map (·.1)).Nodup := h.pairwise_lt.imp fun hlt => ne_of_lt hlt
    have hsame := List.inj_on_of_nodup_map hnodup (List.mem_of_find?_eq_some hp) hmem hid
    exact ⟨p, hp, congrArg Prod.snd hsame⟩

end Holding

/-- What a store holds, and for which types there is a schema that guards it. -/
structure Catalogue where
  holding? : String → Option Holding
  guarded : String → Bool

namespace Catalogue

def empty : Catalogue := ⟨fun _ => none, fun _ => false⟩

/-- What a type has, which for a type that is not registered is nothing. -/
def holding (c : Catalogue) (T : String) : Holding :=
  (c.holding? T).getD .empty

def alter (c : Catalogue) (T : String) (f : Option Holding → Option Holding) : Catalogue :=
  { c with holding? := Function.update c.holding? T (f (c.holding? T)) }

/-! ### Changes -/

def register (c : Catalogue) (T : String) : Catalogue :=
  c.alter T fun h => some (h.getD .empty)

/-- The next number of a type is given up. -/
def skip (c : Catalogue) (T : String) : Catalogue :=
  c.alter T fun h => some (h.getD .empty).skip

/-- A live entry under the next number of a type, which is registered by that. -/
def add (c : Catalogue) (T : String) (r : Record) : Catalogue :=
  c.alter T fun h => some ((h.getD .empty).add r)

/-- The entry of a key changed, if there is one. -/
def change (c : Catalogue) (key : Key) (f : Entry → Entry) : Catalogue :=
  c.alter key.typeName (Option.map (Holding.change key.id.toNat f))

/-- No entries of a type. -/
def clear (c : Catalogue) (T : String) : Catalogue :=
  c.alter T (Option.map Holding.cleared)

/-- There is a schema for a type, or there is none. -/
def guard (c : Catalogue) (T : String) (b : Bool) : Catalogue :=
  { c with guarded := Function.update c.guarded T b }

/-! ### Answers -/

/-- The key of the next entry of a type. -/
def nextKey (c : Catalogue) (T : String) : Key :=
  ⟨T, UInt64.ofNat (c.holding T).next⟩

def found? (c : Catalogue) (key : Key) : Option Entry :=
  (c.holding key.typeName).found? key.id.toNat

/-- Whether there is an entry in one of some standings. -/
def has (c : Catalogue) (key : Key) (allowed : Standing → Bool) : Bool :=
  (c.found? key).any fun e => allowed e.standing

/-- The object of an entry that is not deleted. -/
def value? (c : Catalogue) (key : Key) : Option Record :=
  ((c.found? key).filter fun e => e.standing ≠ .deleted).map (·.value)

/-- The keys that a scan lists, in the order of their numbers or the other way round. -/
def listed (c : Catalogue) (T : String) (d : Direction) (includeQuarantined : Bool) : List Key :=
  let keys := ((c.holding T).listed includeQuarantined).map fun id => ⟨T, UInt64.ofNat id⟩
  match d with
  | .ascending => keys
  | .descending => keys.reverse

end Catalogue

end RecordStore
