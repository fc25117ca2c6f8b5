import Mathlib
import RecordStore.Proofs.Catalogue.Basic
import RecordStore.Proofs.Query.Pages
import RecordStore.Proofs.Store.SessionKeys

/-!
What an operation answers and does, told of catalogues alone.  An operation that fails leaves all
entries as they are, and has one of few reasons to fail: a text or a number that is no key, a value that
is no object, numbers that are used up, a page that cannot be asked for, and for types that have a schema
whatever the schema objects to.
-/
namespace RecordStore

namespace Operation

/-- The text of the key whose record an operation is about. -/
def keyText? : Operation → Option String
  | .retrieve text => some text
  | .update text _ => some text
  | .delete text => some text
  | .quarantine text => some text
  | .release text => some text
  | _ => none

/-- Whether an operation is a question that is about schemas, indexes or the texts of keys, or about
many records at once. -/
def Asks : Operation → Prop
  | .schema _ => True
  | .multiRetrieve _ => True
  | .query _ _ _ => True
  | .encodeKey _ => True
  | .decodeKey _ => True
  | _ => False

end Operation

namespace Catalogue

/-- The errors that an operation may end with. -/
inductive Refuses (s : Store) (c : Catalogue) : Operation → Error → Prop
  | typeName {T : String} {v : Json} : validTypeName T = false →
    Refuses s c (.create T v) (.invalidKey (.badTypeName T))
  | createValue {T : String} {v : Json} : v.record? = none →
    Refuses s c (.create T v) (.schemaMismatch .notObject)
  | updateValue {text : String} {v : Json} : v.record? = none →
    Refuses s c (.update text v) (.schemaMismatch .notObject)
  | typesUsed {T : String} {v : Json} : c.holding? T = none →
    Refuses s c (.create T v) (.unknownType (.invalidNumber T 0x100000000))
  | numbersUsed {T : String} {v : Json} : (c.holding T).next = 0x7fffffffffffffff →
    Refuses s c (.create T v) (.database .counterOverflow)
  | createGuarded {T : String} {v : Json} {e : Error} : c.guarded T = true →
    Refuses s c (.create T v) e
  | updateGuarded {text : String} {v : Json} {key : Key} {e : Error} : s.reads text = .ok key →
    c.guarded key.typeName = true → Refuses s c (.update text v) e
  | unreadable {o : Operation} {text : String} {f : Key.Fault} : o.keyText? = some text →
    s.reads text = .error f → Refuses s c o (.invalidKey f)
  | outOfRange {o : Operation} {text : String} {key : Key} : o.keyText? = some text →
    s.reads text = .ok key → c.holding? key.typeName ≠ none → 0x8000000000000000 ≤ key.id.toNat →
    Refuses s c o (.invalidKey (.outOfRange key))
  | page {T : String} {d : Direction} {token : Option String} {size : Option UInt64} {q : Bool}
    {e : Error} : c.holding? T ≠ none →
    (Query.offsetOf token >>= fun offset => Query.pageLimit offset size) = .error e →
    Refuses s c (.scan T d token size q) e
  | createSchema {T : String} {S : Schema} {e : Error} : Refuses s c (.createSchema T S) e
  | asks {o : Operation} {e : Error} : o.Asks → Refuses s c o e

/-- What an operation that fails leaves.  A type may have been registered for it, and the next number
of the type may be given up. -/
inductive Leaves (c : Catalogue) : Operation → Catalogue → Prop
  | same {o : Operation} : Leaves c o c
  | registered {T : String} {S : Schema} : Leaves c (.createSchema T S) (c.register T)
  | unnumbered {T : String} {v : Json} : Leaves c (.create T v) (c.register T)
  | skipped {T : String} {v : Json} : Leaves c (.create T v) (c.skip T)

/-- One operation: its answer, and the catalogue after it. -/
inductive Step (s : Store) (c : Catalogue) : Operation → Except Error Answer → Catalogue → Prop
  | create {T : String} {v : Json} {r : Record} : validTypeName T = true → v.record? = some r →
    (c.holding T).next < 0x7fffffffffffffff →
    Step s c (.create T v) (.ok (.key (c.nextKey T))) (c.add T r)
  | retrieve {text : String} {key : Key} : s.reads text = .ok key →
    Step s c (.retrieve text) (.ok (.record ((c.value? key).map .object))) c
  | update {text : String} {key : Key} {v : Json} {r : Record} : s.reads text = .ok key →
    v.record? = some r →
    Step s c (.update text v) (.ok (.changed (c.has key (· != .deleted))))
      (c.change key (.replaced r))
  | delete {text : String} {key : Key} : s.reads text = .ok key →
    Step s c (.delete text) (.ok (.changed (c.has key (· != .deleted)))) (c.change key .struck)
  | quarantine {text : String} {key : Key} : s.reads text = .ok key →
    Step s c (.quarantine text) (.ok (.changed (c.has key (· == .live))))
      (c.change key (.moved .live .quarantined))
  | release {text : String} {key : Key} : s.reads text = .ok key →
    Step s c (.release text) (.ok (.changed (c.has key (· == .quarantined))))
      (c.change key (.moved .quarantined .live))
  | clear {T : String} :
    Step s c (.clear T) (.ok (.removed (c.holding T).entries.length)) (c.clear T)
  | scan {T : String} {d : Direction} {token : Option String} {size : Option UInt64} {q : Bool}
    {offset : UInt64} {limit : Option UInt64} : Query.offsetOf token = .ok offset →
    Query.pageLimit offset size = .ok limit →
    Step s c (.scan T d token size q) (.ok (.page (Page.part (c.listed T d q) offset size))) c
  /-- Nobody looks at the token and the size when the type is not registered. -/
  | scanNothing {T : String} {d : Direction} {token : Option String} {size : Option UInt64}
    {q : Bool} : c.holding? T = none → Step s c (.scan T d token size q) (.ok (.page .empty)) c
  | publish {T : String} {S : Schema} :
    Step s c (.createSchema T S) (.ok .done) ((c.register T).guard T true)
  /-- A store that remembers the schema does nothing. -/
  | remembered {T : String} {S : Schema} : Step s c (.createSchema T S) (.ok .done) c
  | dropSchema {T : String} :
    Step s c (.dropSchema T) (.ok (.changed (c.guarded T))) (c.guard T false)
  | asked {o : Operation} {a : Answer} : o.Asks → Step s c o (.ok a) c
  | refused {o : Operation} {e : Error} {c' : Catalogue} : c.Refuses s o e → c.Leaves o c' →
    Step s c o (.error e) c'

/-- A run: the operations, their answers, and the catalogue at the end. -/
inductive Explains (s : Store) :
    Catalogue → List Operation → List (Except Error Answer) → Catalogue → Prop
  | nil {c : Catalogue} : Explains s c [] [] c
  | cons {c c₁ c' : Catalogue} {o : Operation} {a : Except Error Answer} {os : List Operation}
    {as : List (Except Error Answer)} : Step s c o a c₁ → Explains s c₁ os as c' →
    Explains s c (o :: os) (a :: as) c'

section
variable {c c' : Catalogue} {T T' : String}

theorem holding?_alter (c : Catalogue) (T : String) (f : Option Holding → Option Holding)
    (T' : String) : (c.alter T f).holding? T' = if T' = T then f (c.holding? T) else c.holding? T' := by
  simp only [alter, Function.update_apply]

theorem Leaves.entries {o : Operation} (h : c.Leaves o c') (T : String) :
    (c'.holding T).entries = (c.holding T).entries := by
  have hregister (T' : String) : ((c.register T').holding T).entries = (c.holding T).entries := by
    rw [holding, register, holding?_alter]
    split
    · next hT => rw [hT, holding, Option.getD_some]
    · rfl
  cases h with
  | same => rfl
  | registered => exact hregister _
  | unnumbered => exact hregister _
  | @skipped T' v =>
    rw [holding, skip, holding?_alter]
    split
    · next hT =>
      rw [hT, holding, Option.getD_some]
      rfl
    · rfl

/-- An operation that fails leaves every entry as it is. -/
theorem Step.entries_of_error {s : Store} {o : Operation} {e : Error} (h : Step s c o (.error e) c')
    (T : String) : (c'.holding T).entries = (c.holding T).entries := by
  cases h with
  | refused _ hleaves => exact hleaves.entries T

end

end Catalogue

end RecordStore
