import Mathlib
import RecordStore.Proofs.Catalogue.Operations
import RecordStore.Proofs.Store.Isolation
import RecordStore.Proofs.Store.Permanence
import RecordStore.Proofs.Store.ReadBack

/-!
Values that are stored stay readable.  Until a record is replaced or removed its text is what was stored,
whatever else happens, and the text is read back as long as the value does not nest too deep.
-/
namespace RecordStore
open Database Transaction RecordStore.Action

/-- The answer to an operation says that a value was stored under a key: it was created there, or it
replaced what was there. -/
inductive Stores (s : Store) (key : Key) (v : Json) : Operation → Except Error Answer → Prop
  | create {T : String} : Stores s key v (.create T v) (.ok (.key key))
  | update {text : String} : s.reads text = .ok key →
    Stores s key v (.update text v) (.ok (.changed true))

/-- Whether the answer to an operation says that the record of a key was replaced or removed. -/
def alters (s : Store) (key : Key) : Operation → Except Error Answer → Bool
  | .update text _, .ok (.changed true) | .delete text, .ok (.changed true) => s.reads text = .ok key
  | .clear T, .ok (.removed _) => T = key.typeName
  | _, _ => false

/-! ### The record of a key -/

section
variable {stem : String} {accepted : Record → Prop} {db db' : Database} {key : Key} {v : Json}

theorem record?_eq_find? (db : Database) (n : UInt32) (m : Int64) :
    db.record? (typeWord n) m = (db.recordsUnder n m).find? (·.state != .deleted) := by
  rw [record?, recordsUnder, List.find?_filter]
  simp only [Bool.decide_and, Bool.decide_eq_true]

/-- A record lasts where the rows under its number do. -/
theorem Database.Holds.of_recordsUnder (h : db.Holds key v) (hgrow : TypesGrow db db')
    (hsame : ∀ n m, db'.typeId? key.typeName = .ok (some n) → keyWord key = .ok m →
      db'.recordsUnder n m = db.recordsUnder n m) : db'.Holds key v := by
  obtain ⟨n, m, row, hn, hm, hrow, htext⟩ := h
  have hn' := hgrow.number _ n hn
  refine ⟨n, m, row, hn', hm, ?_, htext⟩
  rw [record?_eq_find?, hsame n m hn' hm, ← record?_eq_find?]
  exact hrow

theorem Database.Holds.of_records (h : db.Holds key v) (hgrow : TypesGrow db db')
    (hrecords : db'.records = db.records) : db'.Holds key v :=
  h.of_recordsUnder hgrow fun _ _ _ _ => congrArg (List.filter _) hrecords

/-- A key under which a value is stored has been given out. -/
theorem Database.Holds.givenOut (h : db.Holds key v) (hcounted : Counted db) : GivenOut key db := by
  obtain ⟨n, m, row, hn, hm, hrow, -⟩ := h
  have hmeets := List.find?_some hrow
  simp only [Bool.and_eq_true, beq_iff_eq] at hmeets
  obtain ⟨⟨htype, rfl⟩, -⟩ := hmeets
  exact hcounted.givenOut hn (List.mem_of_find?_eq_some hrow) htype hm

/-- A record that is put in quarantine or released keeps its text. -/
theorem Database.Holds.moveRecord (h : db.Holds key v) (hc' : Coherent stem accepted db')
    {s : StoreSettings} {n : UInt32} {quarantined b : Bool} (hn : db.typeId? key.typeName = .ok (some n))
    (hstep : RecordStore.moveRecord s n key quarantined db = .ok (b, db')) : db'.Holds key v := by
  obtain ⟨n', m, row, hn', hm, hrow, htext⟩ := h
  obtain rfl := Option.some.inj (Except.ok.inj (hn.symm.trans hn'))
  have hmeets := List.find?_some hrow
  simp only [Bool.and_eq_true, beq_iff_eq, bne_iff_ne] at hmeets
  obtain ⟨⟨htype, rfl⟩, hlive⟩ := hmeets
  obtain ⟨m', -, -, hrecords⟩ := (moveRecord_changesOne hstep).records_eq
  have hafter := List.mem_map_of_mem (List.mem_of_find?_eq_some hrow) |> (hrecords ▸ ·)
  have hnumber : db'.typeId? key.typeName = .ok (some n) :=
    (typeId?_congr (fixedKept_moveRecord s n key quarantined _ _ _ hstep).types _).trans hn
  by_cases hhit : (row.typeId == typeWord n && row.id == m' &&
      row.state == movedFrom quarantined) = true
  · have hmoved : movedTo quarantined ≠ .deleted := by cases quarantined <;> decide
    rw [if_pos hhit] at hafter
    exact hc'.holds_record hnumber hm hafter htype rfl hmoved htext
  · rw [if_neg hhit] at hafter
    exact hc'.holds_record hnumber hm hafter htype rfl hlive htext

end

section
variable {accepted : Record → Prop} {s : Store} {w : Workspace} {o : Operation} {key : Key} {v : Json}

/-- The records are the same. -/
def RecordsSame (db db' : Database) : Prop :=
  db'.records = db.records

theorem composes_recordsSame : Composes RecordsSame where
  refl _ := rfl
  trans h h' := h'.trans h

/-- Schemas come and go, and the records stay. -/
theorem recordsSame_createSchema (s : Store) (T : String) (S : Schema) :
    Relates RecordsSame (s.createSchema T S) := by
  have hc := composes_recordsSame
  refine relates_bind hc (relates_lift hc.refl _) fun _ => ?_
  refine relates_bind hc (relates_schema hc.refl T) fun found => ?_
  cases found with
  | some known =>
    simp only
    split
    · exact relates_pure hc.refl ()
    · exact relates_throw hc.refl _
  | none =>
    have hregister : Ensures RecordsSame
        (fun db => db.typeId T true : Transaction (Option UInt32)) :=
      fun db found db' h => (ensures_typeId_unchanged T true db found db' h).records
    refine relates_bind hc (relates_typeId hc.refl hregister) fun n => ?_
    have hpublish : Ensures RecordsSame (IndexedType.publish ⟨n, T, S⟩ s.settings) :=
      fun _ _ _ h => (publish_onlyTables h).2.records
    exact relates_bind hc (relates_transact hc.refl hpublish) fun _ => relates_onSession hc.refl _

theorem recordsSame_dropSchema (s : Store) (T : String) : Relates RecordsSame (s.dropSchema T) := by
  have hc := composes_recordsSame
  refine relates_bind hc (relates_typeId? hc.refl T) fun found => ?_
  cases found with
  | none => exact relates_pure hc.refl false
  | some n =>
    have hdrop : Ensures RecordsSame (unpublish s.settings n T) :=
      fun _ _ _ h => (unpublish_onlyTables h).records
    exact relates_bind hc (relates_transact hc.refl hdrop) fun b =>
      relates_bind hc (relates_onSession hc.refl _) fun _ => relates_pure hc.refl b

theorem recordsSame_perform (s : Store) (hone : ¬ o.OnOneRecord) (hclear : ∀ T, o ≠ .clear T) :
    Relates RecordsSame (s.perform o) := by
  have hc := composes_recordsSame
  cases o with
  | createSchema T S => exact relates_map (recordsSame_createSchema s T S)
  | dropSchema T => exact relates_map (recordsSame_dropSchema s T)
  | retrieve text => exact relates_map (relates_retrieve hc s text)
  | scan T d token size q => exact relates_map (relates_read hc.refl _)
  | clear T => exact absurd rfl (hclear T)
  | create | update | delete | quarantine | release => exact absurd trivial hone
  | schema T => exact relates_map (relates_schema hc.refl T)
  | multiRetrieve texts => exact relates_map (relates_multiRetrieve hc s texts)
  | query T index q => exact relates_map (relates_query hc s T index q)
  | encodeKey key => exact relates_map (relates_of_database_eq hc.refl fun _ => rfl)
  | decodeKey text => exact relates_map (relates_keyOf hc.refl s text _)

/-- What belongs to the numbers of a type is kept with the type. -/
theorem TypeKept.recordsUnder {stem T : String} {db db' : Database} (h : TypeKept stem T db db')
    {n : UInt32} (hn : db.typeId? T = .ok (some n)) (m : Int64) :
    db'.recordsUnder n m = db.recordsUnder n m := by
  have hsplit (d : Database) : d.recordsUnder n m =
      (d.records.filter (·.typeId == typeWord n)).filter (·.id == m) := by
    rw [Database.recordsUnder, List.filter_filter]
    exact List.filter_congr fun r _ => Bool.and_comm _ _
  rw [hsplit, hsplit, h.records n hn]

/-- The number of a record that is created was not given out before. -/
theorem Database.Holds.ne_created (h : w.database.Holds key v) (hcounted : Counted w.database)
    (hone : o.OnOneRecord) : (s.perform o w).1 ≠ .ok (.key key) := by
  intro hanswer
  cases o with
  | create T v' =>
    obtain ⟨k, w', hcreate, hk⟩ := exists_of_map (x := s.create T v') hanswer
    obtain rfl := Answer.key.inj hk
    have hnext := (givenOut_of_create hcounted hcreate).1
    have hpassed := (h.givenOut hcounted).passed
    omega
  | update text v' =>
    obtain ⟨b, w', -, hb⟩ := exists_of_map (x := s.update text v') hanswer
    cases hb
  | delete text =>
    obtain ⟨b, w', -, hb⟩ := exists_of_map (x := s.delete text) hanswer
    cases hb
  | quarantine text | release text =>
    obtain ⟨b, w', -, hb⟩ := exists_of_map (x := s.setQuarantined text _) hanswer
    cases hb
  | _ => exact hone.elim

/-- An operation that does not answer that it has changed something has changed nothing. -/
theorem idle_of_ne_changed {x : Action Bool} (h : ((Answer.changed <$> x) w).1 ≠ .ok (.changed true)) :
    (∃ e, ((Answer.changed <$> x) w).1 = .error e) ∨
      ∃ a, ((Answer.changed <$> x) w).1 = .ok a ∧ a = .changed false := by
  rw [map_apply] at h ⊢
  cases hx : (x w).1 with
  | error e => exact .inl ⟨e, rfl⟩
  | ok b =>
    rw [hx] at h
    cases b with
    | false => exact .inr ⟨_, rfl, rfl⟩
    | true => exact absurd rfl h

section
variable (haccepted : ∀ r, accepted r → (Json.object r).WellFormed)
  (hc : Coherent s.settings.stem accepted w.database) (ho : o.Admits accepted)
include haccepted hc ho

/-- An operation on the record of a key that does not replace or remove it. -/
theorem Database.Holds.perform_same (h : w.database.Holds key v)
    (hkeys : s.codec.Derives w.session.keys) (hkey : o.key? s w.session = some key)
    (hleft : alters s key o (s.perform o w).1 = false) :
    (s.perform o w).2.database.Holds key v := by
  have hgrow := typesGrow_perform s o w
  have hafter := coherent_perform haccepted rfl ho hc
  have hread {text : String} (ht : (s.codec.decode text w.session.keys).1.toOption = some key) :
      (s.codec.decode text w.session.keys).1 = .ok key := by
    cases hdecode : (s.codec.decode text w.session.keys).1 with
    | error f => rw [hdecode] at ht; cases ht
    | ok k => rw [hdecode] at ht; rw [Option.some.inj ht]
  have hreads {text : String} (ht : (s.codec.decode text w.session.keys).1.toOption = some key) :
      s.reads text = .ok key :=
    (hkeys.decode text).1.symm.trans (hread ht)
  have hmoved (text : String) (quarantined : Bool)
      (ht : (s.codec.decode text w.session.keys).1.toOption = some key)
      (hafter : Coherent s.settings.stem accepted (s.setQuarantined text quarantined w).2.database) :
      (s.setQuarantined text quarantined w).2.database.Holds key v := by
    rcases resolved_cases s text (fun key n => RecordStore.moveRecord s.settings n key quarantined) w with
      hsame | ⟨key', n, b, hread', hn, hstep⟩
    · rw [show (s.setQuarantined text quarantined w).2.database = _ from hsame]
      exact h
    · obtain rfl := Except.ok.inj ((hread ht).symm.trans hread')
      exact h.moveRecord hafter hn hstep
  cases o with
  | update text v' =>
    refine h.of_records hgrow (guards_perform s _ w (idle_of_ne_changed fun hanswer => ?_)).records
    rw [show (s.perform (.update text v') w).1 = _ from hanswer] at hleft
    simp [alters, hreads hkey] at hleft
  | delete text =>
    refine h.of_records hgrow (guards_perform s _ w (idle_of_ne_changed fun hanswer => ?_)).records
    rw [show (s.perform (.delete text) w).1 = _ from hanswer] at hleft
    simp [alters, hreads hkey] at hleft
  | quarantine text | release text =>
    rw [Store.perform, map_apply] at hafter ⊢
    exact hmoved text _ hkey hafter
  | _ => cases hkey

/-- Whatever a store does, a value stays stored until its record is replaced or removed. -/
theorem Database.Holds.perform (h : w.database.Holds key v) (hcounted : Counted w.database)
    (hkeys : s.codec.Derives w.session.keys) (hleft : alters s key o (s.perform o w).1 = false) :
    (s.perform o w).2.database.Holds key v := by
  have hgrow := typesGrow_perform s o w
  have hafter := coherent_perform haccepted rfl ho hc
  by_cases hone : o.OnOneRecord
  · by_cases hkey : o.key? s w.session = some key
    · exact h.perform_same haccepted hc ho hkeys hkey hleft
    · have hother := otherKept_perform hone hc.types hafter hkey (h.ne_created hcounted hone)
      exact h.of_recordsUnder hgrow hother.records
  by_cases hclear : ∃ T, o = .clear T
  · obtain ⟨T, rfl⟩ := hclear
    by_cases hT : T = key.typeName
    · -- the type of the key can only have been cleared in vain
      have hfailed : ∃ e, (s.perform (.clear T) w).1 = .error e := by
        cases hanswer : (s.perform (.clear T) w).1 with
        | error e => exact ⟨e, rfl⟩
        | ok a =>
          obtain ⟨k, w', -, rfl⟩ := exists_of_map (x := s.clear T) hanswer
          rw [hanswer] at hleft
          simp [alters, hT] at hleft
      exact h.of_records hgrow (guards_perform s _ w (.inl hfailed)).records
    · have hkept : TypeKept s.settings.stem key.typeName w.database _ :=
        typeKept_perform haccepted rfl ho hc fun h => hT (Option.some.inj h)
      refine h.of_recordsUnder hgrow fun n m hn _ => hkept.recordsUnder ?_ m
      obtain ⟨n', -, -, hn', -⟩ := h
      rw [hn', (hgrow.number _ n' hn').symm.trans hn]
  · exact h.of_records hgrow (recordsSame_perform s hone (fun T hT => hclear ⟨T, hT⟩) w)

end

end

/-! ### What a store answers -/

namespace Deployment
variable {d : Deployment} {e : Event} {events : List Event} {key : Key} {v : Json}

/-- By the answers of a run, none of its operations has replaced or removed the record of a key. -/
def Leaves (d : Deployment) (key : Key) (events : List Event) : Prop :=
  ∀ p ∈ (events.filterMap Event.request?).zip (d.undergo events).1,
    alters d.store key p.1.2 p.2 = false

instance (d : Deployment) (key : Key) (events : List Event) : Decidable (d.Leaves key events) :=
  inferInstanceAs (Decidable (∀ p ∈ _, _))

end Deployment

open Deployment

end RecordStore
