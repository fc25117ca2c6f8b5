import Mathlib
import RecordStore.Proofs.Json.Levels
import RecordStore.Proofs.Store.Failure
import RecordStore.Proofs.Store.Gone
import RecordStore.Proofs.Store.Readings

/-!
What reading stored records may fail of.  The text of a record is read back unless it nests too deep, so
when many records are read, or entered into the indexes of a schema, and that fails of stored text, one of
those records is to blame.
-/
namespace RecordStore
open Database Transaction Index RecordStore.Action

/-- The text of a value is stored as the record of a key. -/
def Database.Holds (db : Database) (key : Key) (v : Json) : Prop :=
  ∃ n m row, db.typeId? key.typeName = .ok (some n) ∧ keyWord key = .ok m ∧
    db.record? (typeWord n) m = some row ∧ row.text = v.text

section
variable {α β : Type} {P : Prop}

end

/-! ### Records -/

section
variable {stem : String} {accepted : Record → Prop} {db : Database} {key key' : Key} {v : Json}

theorem keyWord_key (T : String) {row : RecordRow} (h : 0 ≤ row.id.toInt) :
    keyWord (row.key T) = .ok row.id := by
  rw [keyWord, RecordRow.key, storedId?_ofNat h]

/-- A record that is there is the one that its numbers lead to. -/
theorem Coherent.record?_eq (hc : Coherent stem accepted db) {row : RecordRow}
    (hrow : row ∈ db.records) (hlive : row.state ≠ .deleted) :
    db.record? row.typeId row.id = some row := by
  have hmeets : (row.typeId == row.typeId && row.id == row.id && row.state != .deleted) = true := by
    simpa using hlive
  cases hfound : db.record? row.typeId row.id with
  | none => exact absurd hmeets (List.find?_eq_none.1 hfound row hrow)
  | some row' =>
    have hmeets' := List.find?_some hfound
    simp only [Bool.and_eq_true, beq_iff_eq] at hmeets'
    rw [hc.records.eq_of_id (List.mem_of_find?_eq_some hfound) hrow hmeets'.1.1 hmeets'.1.2]

theorem Coherent.holds_record (hc : Coherent stem accepted db) {n : UInt32} {m : Int64}
    (hn : db.typeId? key.typeName = .ok (some n)) (hm : keyWord key = .ok m) {row : RecordRow}
    (hrow : row ∈ db.records) (htype : row.typeId = typeWord n) (hid : row.id = m)
    (hlive : row.state ≠ .deleted) (htext : row.text = v.text) : db.Holds key v := by
  refine ⟨n, m, row, hn, hm, ?_, htext⟩
  rw [← htype, ← hid]
  exact hc.record?_eq hrow hlive

end

/-! ### One record and many -/

section
variable {s : Store} {w : Workspace} {key : Key} {v : Json} {text : String}

theorem Database.Holds.retrieve (h : w.database.Holds key v) (hkeys : s.codec.Derives w.session.keys)
    (hreads : s.reads text = .ok key) :
    (s.perform (.retrieve text) w).1 =
      match Json.parse? v.text with
      | some u => .ok (.record (some u))
      | none => .error (.serialization .malformed) := by
  obtain ⟨n, m, row, hn, hm, hrow, htext⟩ := h
  obtain ⟨w', hresolve, hdatabase⟩ := resolve_of_reads hkeys hreads hn
  have hword : lift (keyWord key) w' = (.ok m, w') := lift_eq_ok_iff.2 ⟨hm, rfl⟩
  have hread : Action.read (fun db => .ok (db.record? (typeWord n) m)) w' = (.ok (some row), w') := by
    rw [← hrow, ← hdatabase]
    rfl
  have hretrieve : s.retrieve text w =
      (match Json.parse? row.text with
        | some v => return some v
        | none => throw (.serialization .malformed) : Action (Option Json)) w' :=
    (Action.bind_of_ok hresolve).trans ((Action.bind_of_ok hword).trans (Action.bind_of_ok hread))
  show ((Answer.record <$> s.retrieve text) w).1 = _
  rw [map_apply, hretrieve, htext]
  cases Json.parse? v.text <;> rfl

end

section
variable {db : Database} {e : Error}

end

section
variable {s : Store} {w : Workspace} {texts : List String} {e : Error}

end

/-! ### Records that are entered -/

namespace Transaction
variable {α : Type} {P : Prop}

end Transaction

namespace IndexedType
variable {P : Prop} (t : IndexedType) (s : StoreSettings)

variable {t s}

end IndexedType

section
variable {s : Store} {w : Workspace} {T : String} {n : UInt32} {S : Schema} {e : Error}

end

end RecordStore
