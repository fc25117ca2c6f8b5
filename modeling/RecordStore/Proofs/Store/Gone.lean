import Mathlib
import RecordStore.Proofs.Catalogue.Resolved
import RecordStore.Proofs.Query.Present
import RecordStore.Proofs.Store.Backfill

/-!
Keys that were given out, and under which no record is left.  A record comes under a number that its type
has not given out yet, so no transaction brings one back to such a key, and every operation on it answers
that there is none.
-/
namespace RecordStore
open Database Transaction RecordStore.Action

/-- The type of a key has given its number out. -/
structure GivenOut (key : Key) (db : Database) : Prop where
  registered : ∃ n, db.typeId? key.typeName = .ok (some n)
  passed : (key.id.toNat : Int) < (db.nextNumber key.typeName).toInt

/-- The number of a key was given out, and no record is there. -/
structure Gone (key : Key) (db : Database) : Prop extends GivenOut key db where
  absent : ¬ db.Has key

section
variable {stem : String} {accepted : Record → Prop} {db db' : Database} {key : Key} {n : UInt32}

/-! ### What transactions keep -/

theorem GivenOut.grow (h : GivenOut key db) (hgrow : TypesGrow db db') : GivenOut key db' := by
  obtain ⟨n, hn⟩ := h.registered
  exact ⟨⟨n, hgrow.number _ n hn⟩, lt_of_lt_of_le h.passed (hgrow.next _)⟩

theorem GivenOut.exists_keyWord (h : GivenOut key db) : ∃ m, keyWord key = .ok m := by
  rcases keyWord_cases key with hkey | ⟨-, hlarge⟩
  · exact hkey
  · have hpassed := h.passed
    have hlt := (db.nextNumber key.typeName).toInt_lt
    omega

theorem Gone.of_records (h : Gone key db) (hgrow : TypesGrow db db')
    (hrecords : db'.records = db.records) : Gone key db' := by
  refine ⟨h.toGivenOut.grow hgrow, fun hhas => h.absent ?_⟩
  obtain ⟨n, hn⟩ := h.registered
  obtain ⟨k, hk, row, hrow, hkey⟩ := hhas
  obtain rfl : n = k := Option.some.inj (Except.ok.inj ((hgrow.number _ n hn).symm.trans hk))
  rw [liveRecords_congr hrecords] at hrow
  exact ⟨n, hn, row, hrow, hkey⟩

theorem Gone.of_keysFewer (h : Gone key db) (hfewer : KeysFewer db db') : Gone key db' := by
  refine ⟨h.toGivenOut.grow (typesGrow_of_types hfewer.types), fun hhas => h.absent ?_⟩
  obtain ⟨n, hn, row, hrow, hkey⟩ := hhas
  obtain ⟨hmem, htype, hlive⟩ := mem_liveRecords.1 hrow
  obtain ⟨old, hold, holdLive, hnumbers⟩ := hfewer.live row hmem hlive
  obtain ⟨htype', hid⟩ := Prod.mk.inj hnumbers
  refine ⟨n, (typeId?_congr hfewer.types _).symm.trans hn, old,
    mem_liveRecords.2 ⟨hold, htype'.trans htype, holdLive⟩, ?_⟩
  rw [RecordRow.key, hid]
  exact hkey

/-- A record that is added has the number that its type gives out for it, which is none that was given
out before. -/
theorem Gone.addRecord (h : Gone key db) (hc : Coherent stem accepted db) (hcounted : Counted db)
    {s : StoreSettings} {T : String} {id : UInt64} {r : Record} {db₁ : Database} {u : Unit}
    (hn : db.typeId? T = .ok (some n)) (hnext : db.nextId T = .ok (id, db₁))
    (hstep : RecordStore.addRecord s n ⟨T, id⟩ r db₁ = .ok (u, db')) : Gone key db' := by
  have hgone : Gone key db₁ := by
    refine h.of_records (typesGrow_nextId hnext) ?_
    obtain ⟨-, -, -, -, rfl⟩ := nextId_eq_ok hnext
    rfl
  obtain ⟨m, hm, -, honly⟩ := addRecord_onlyTables hstep
  obtain ⟨row, hrow, -, hword⟩ := hcounted.keyWord_of_nextId hnext
  obtain rfl : m = row.nextId := Except.ok.inj (hm.symm.trans hword)
  refine ⟨hgone.toGivenOut.grow (typesGrow_of_types honly.types), ?_⟩
  rintro ⟨k, hk, record, hrecord, hkey⟩
  rw [typeId?_congr honly.types] at hk
  rw [liveRecords_congr honly.records] at hrecord
  obtain ⟨hmem, htype, hlive⟩ := mem_liveRecords.1 hrecord
  rcases List.mem_append.1 hmem with hmem | hmem
  · exact hgone.absent ⟨k, hk, record, mem_liveRecords.2 ⟨hmem, htype, hlive⟩, hkey⟩
  · -- the new record is of the type of the key, so its number is beyond that of the key
    obtain rfl := List.mem_singleton.1 hmem
    obtain rfl := typeWord_injective htype
    have hk' : db.typeId? key.typeName = .ok (some n) := (typeId?_of_nextId hnext _).symm.trans hk
    obtain rfl := hc.types.eq_of_number hk' hn
    have hpassed := h.passed
    rw [nextNumber, hrow] at hpassed
    have hid : UInt64.ofNat row.nextId.toInt.toNat = key.id := congrArg Key.id hkey
    have hsmall : row.nextId.toInt.toNat < 2 ^ 64 := by
      have hlt := row.nextId.toInt_lt
      omega
    have hnat := UInt64.toNat_ofNat_of_lt' hsmall
    rw [hid] at hnat
    simp only at hpassed
    omega

/-- Whatever a store does, a record that is gone does not come back. -/
theorem keptBy_gone (haccepted : ∀ r, accepted r → (Json.object r).WellFormed) {s : Store}
    (hs : s.settings.stem = stem) (key : Key) :
    KeptBy s accepted fun db => (Coherent stem accepted db ∧ Counted db) ∧ Gone key db :=
  (keptBy_counted haccepted hs).and_numbers
    (fun _ hgone hstep => hgone.of_records (typesGrow_typeId hstep) (by
      rcases typeId_eq_ok hstep with ⟨-, rfl⟩ | ⟨-, -, -, -, -, rfl⟩ <;> rfl))
    (fun _ hgone hstep => hgone.of_records (typesGrow_nextId hstep) (by
      obtain ⟨-, -, -, -, rfl⟩ := nextId_eq_ok hstep
      rfl))
    (fun hinv hgone hn hnext hstep => hgone.addRecord hinv.1 hinv.2 hn hnext hstep)
    fun hgone hfewer => hgone.of_keysFewer hfewer

/-- A key that is created has a number that was still to be given out, and is given out with it. -/
theorem givenOut_of_create {s : Store} {w w' : Workspace} {T : String} {v : Json}
    (hcounted : Counted w.database) (h : s.create T v w = (.ok key, w')) :
    (w.database.nextNumber key.typeName).toInt ≤ key.id.toNat ∧ GivenOut key w'.database := by
  obtain ⟨r, rfl⟩ := exists_record_of_create h
  obtain ⟨-, n, db, id, db₁, d, htype, hnext, hadd, rfl, rfl⟩ := create_eq_ok_iff.1 h
  obtain ⟨row, hrow, -, hword⟩ := (hcounted.typeId htype).keyWord_of_nextId hnext
  have hid : row.nextId.toInt = id.toNat := (Index.storedId?_eq_some (keyWord_eq_ok hword)).2.1
  have htypes : d.types = db₁.types := (fixedKept_addRecord _ _ _ _ _ _ _ hadd).types
  have hnumber : db.nextNumber T = row.nextId := by rw [nextNumber, hrow]
  refine ⟨?_, ⟨n, ?_⟩, ?_⟩
  · rw [← hid, ← hnumber]
    exact (typesGrow_typeId htype).next T
  · rw [typeId?_congr htypes, typeId?_of_nextId hnext]
    exact typeId?_of_typeId htype
  · have hnext' := nextNumber_of_nextId hnext T
    rw [if_pos rfl, hnumber, hid] at hnext'
    have hle := (typesGrow_of_types htypes).next T
    show (id.toNat : Int) < (d.nextNumber T).toInt
    omega

/-! ### How records go -/

/-- A key under which a record is stored has been given out. -/
theorem Counted.givenOut (h : Counted db) (hn : db.typeId? key.typeName = .ok (some n))
    {row : RecordRow} (hrow : row ∈ db.records) (htype : row.typeId = typeWord n)
    (hkey : keyWord key = .ok row.id) : GivenOut key db := by
  obtain ⟨type, htypeRow, hnumber⟩ := typeId?_eq_some hn
  obtain ⟨-, hid, -⟩ := Index.storedId?_eq_some (keyWord_eq_ok hkey)
  have hbelow := h.below row hrow type (typeRow?_eq_some htypeRow).1 (hnumber.trans htype.symm)
  refine ⟨⟨n, hn⟩, ?_⟩
  rw [nextNumber, htypeRow, ← hid]
  exact hbelow

/-- After a record was deleted it is gone. -/
theorem gone_of_deleteRecord (hc : Coherent stem accepted db) (hcounted : Counted db)
    {s : StoreSettings} (hn : db.typeId? key.typeName = .ok (some n))
    (h : RecordStore.deleteRecord s n key db = .ok (true, db')) : Gone key db' := by
  obtain ⟨m, hkey, ⟨hfalse, -⟩ | ⟨-, db₁, hchange, honly⟩⟩ := deleteRecord_changesOne h
  · cases hfalse
  obtain ⟨⟨row, hrow, htype, rfl, -⟩, rfl⟩ := changeRecord?_eq_some hchange
  have htypes : db'.types = db.types := honly.types
  refine ⟨(hcounted.givenOut hn hrow htype hkey).grow (typesGrow_of_types htypes), ?_⟩
  rintro ⟨k, hk, record, hrecord, hsame⟩
  rw [typeId?_congr htypes] at hk
  obtain rfl : n = k := Option.some.inj (Except.ok.inj (hn.symm.trans hk))
  rw [liveRecords_congr honly.records] at hrecord
  obtain ⟨hmem, hrecordType, hlive⟩ := mem_liveRecords.1 hrecord
  obtain ⟨old, hold, rfl⟩ := List.mem_map.1 hmem
  by_cases hhit : (old.typeId == typeWord n && old.id == row.id && old.state != .deleted) = true
  · rw [if_pos hhit] at hlive
    exact hlive rfl
  · -- a record that was not hit has another number, so it is none of the key
    rw [if_neg hhit] at hlive hrecordType hsame
    have hid : old.id = row.id := by
      have hold₀ := (hc.records.each old hold).id
      have hrow₀ := (hc.records.each row hrow).id
      have hkeys : old.key key.typeName = row.key key.typeName :=
        hsame.trans (key_of_keyWord hkey).symm
      exact RecordRow.id_of_key hold₀ hrow₀ hkeys
    simp [hrecordType, hid, hlive] at hhit

/-- After a type was cleared all records whose keys it has given out are gone. -/
theorem gone_of_clearType {s : StoreSettings} {k : Nat} (hgiven : GivenOut key db)
    (hn : db.typeId? key.typeName = .ok (some n))
    (h : clearType s n key.typeName db = .ok (k, db')) : Gone key db' := by
  obtain ⟨-, honly⟩ := clearType_onlyTables h
  have htypes : db'.types = db.types := honly.types
  refine ⟨hgiven.grow (typesGrow_of_types htypes), ?_⟩
  rintro ⟨m, hm, record, hrecord, -⟩
  rw [typeId?_congr htypes] at hm
  obtain rfl : n = m := Option.some.inj (Except.ok.inj (hn.symm.trans hm))
  rw [liveRecords_congr honly.records] at hrecord
  obtain ⟨hmem, htype, -⟩ := mem_liveRecords.1 hrecord
  have hkept := (List.mem_filter.1 hmem).2
  simp [htype] at hkept

end

section
variable {accepted : Record → Prop} {s : Store} {w w' : Workspace} {key : Key}

/-- A transaction that has changed something was run on the key that the text is read as. -/
theorem resolved_eq_true (hkeys : s.codec.Derives w.session.keys) {text : String}
    (hreads : s.reads text = .ok key) {t : Key → UInt32 → Transaction Bool}
    (h : (do
      match ← s.resolve text with
      | none => return false
      | some (key, n) => transact (t key n) : Action Bool) w = (.ok true, w')) :
    ∃ n, w.database.typeId? key.typeName = .ok (some n) ∧
      t key n w.database = .ok (true, w'.database) := by
  obtain ⟨found, w₁, hresolve, hafter⟩ := Action.bind_eq_ok h
  obtain ⟨hdatabase, hfound⟩ := resolve_eq_ok hresolve
  cases found with
  | none => cases Except.ok.inj (Prod.mk.inj hafter).1
  | some p =>
    obtain ⟨hread, hn⟩ := hfound p.1 p.2 rfl
    obtain ⟨db, hrun, rfl⟩ := transact_eq_ok_iff.1 hafter
    rw [hdatabase] at hrun
    obtain rfl : p.1 = key := by
      rw [(hkeys.decode text).1] at hread
      exact Except.ok.inj (hread.symm.trans hreads)
    exact ⟨p.2, hn, hrun⟩

theorem gone_of_delete (hc : Coherent s.settings.stem accepted w.database)
    (hcounted : Counted w.database) (hkeys : s.codec.Derives w.session.keys) {text : String}
    (hreads : s.reads text = .ok key) (h : s.delete text w = (.ok true, w')) :
    Gone key w'.database := by
  obtain ⟨n, hn, hrun⟩ := resolved_eq_true hkeys hreads h
  exact gone_of_deleteRecord hc hcounted hn hrun

theorem gone_of_clear (hgiven : GivenOut key w.database) {k : Nat}
    (h : s.clear key.typeName w = (.ok k, w')) : Gone key w'.database := by
  obtain ⟨n, hn⟩ := hgiven.registered
  have hread : Store.typeId? key.typeName w = (.ok (some n), w) := congrArg (·, w) hn
  have hcleared : transact (clearType s.settings n key.typeName) w = (.ok k, w') :=
    (Action.bind_of_ok hread).symm.trans h
  obtain ⟨db, hrun, rfl⟩ := transact_eq_ok_iff.1 hcleared
  exact gone_of_clearType hgiven hn hrun

end

/-! ### What a store answers -/

/-- How a store answers when there is no record under a key.  An update is checked first, and only one that
passes is told that there is nothing to be replaced. -/
structure AnswersNothing (s : Store) (w : Workspace) (key : Key) : Prop where
  retrieve : ∀ text, s.reads text = .ok key →
    (s.perform (.retrieve text) w).1 = .ok (.record none)
  delete : ∀ text, s.reads text = .ok key → (s.perform (.delete text) w).1 = .ok (.changed false)
  quarantine : ∀ text, s.reads text = .ok key →
    (s.perform (.quarantine text) w).1 = .ok (.changed false)
  release : ∀ text, s.reads text = .ok key → (s.perform (.release text) w).1 = .ok (.changed false)
  update : ∀ text v r, s.reads text = .ok key → v.record? = some r →
    (∀ n S, Published w.database key.typeName n S → S.recordFault? r = none) →
    (s.perform (.update text v) w).1 = .ok (.changed false)
  notObject : ∀ text v, v.record? = none →
    (s.perform (.update text v) w).1 = .error (.schemaMismatch .notObject)
  misfit : ∀ text v r n S a f, s.reads text = .ok key → v.record? = some r →
    Published w.database key.typeName n S → S.recordFault? r = some (a, f) →
    (s.perform (.update text v) w).1 = .error (.schemaMismatch (.field key.typeName a f))
  /-- No page of a query or a scan lists the key, and it is not among the records of many keys. -/
  shown : ∀ o a, (s.perform o w).1 = .ok a → key ∉ a.shown

section
variable {accepted : Record → Prop} {s : Store} {w : Workspace} {key : Key} {n : UInt32} {m : Int64}
  {text : String}

/-- Nothing is changed where there is no record. -/
theorem Gone.changeRecord_eq {db : Database} (h : Gone key db)
    (hn : db.typeId? key.typeName = .ok (some n)) (schema : Option Schema)
    {allowed : RecordState → Bool} (hallowed : allowed .deleted = false)
    (change : RecordRow → RecordRow) (rows : IndexedType → Transaction Unit) :
    changeRecord n key schema allowed change rows db = .ok (false, db) := by
  obtain ⟨m, hkey⟩ := h.exists_keyWord
  -- a row that is changed would be a live record of the key
  cases hchange : db.changeRecord? (typeWord n) m allowed change with
  | none => exact changeRecord_absent hkey hchange
  | some db' =>
    obtain ⟨⟨row, hrow, htype, rfl, hstate⟩, -⟩ := changeRecord?_eq_some hchange
    have hlive : row.state ≠ .deleted := fun hdeleted => by
      rw [hdeleted, hallowed] at hstate
      cases hstate
    exact absurd ⟨n, hn, row, mem_liveRecords.2 ⟨hrow, htype, hlive⟩, key_of_keyWord hkey⟩ h.absent

/-- What a transaction on the record of a text answers. -/
theorem fst_resolved (hkeys : s.codec.Derives w.session.keys) (hreads : s.reads text = .ok key)
    (hn : w.database.typeId? key.typeName = .ok (some n)) (t : Key → UInt32 → Transaction Bool) :
    ((Answer.changed <$> (do
      match ← s.resolve text with
      | none => return false
      | some (key, n) => transact (t key n) : Action Bool)) w).1 =
      (t key n w.database).map fun p => .changed p.1 := by
  obtain ⟨w', hresolve, hdatabase⟩ := resolve_of_reads hkeys hreads hn
  have hafter : (do
      match ← s.resolve text with
      | none => return false
      | some (key, n) => transact (t key n) : Action Bool) w = transact (t key n) w' :=
    Action.bind_of_ok hresolve
  rw [map_apply, hafter, ← hdatabase]
  cases hrun : t key n w'.database with
  | error e =>
    rw [transact_of_error hrun]
    rfl
  | ok p =>
    rw [transact_of_ok hrun]
    rfl

theorem fst_update (hkeys : s.codec.Derives w.session.keys) (hreads : s.reads text = .ok key)
    (hn : w.database.typeId? key.typeName = .ok (some n)) {v : Json} {r : Record}
    (hv : v.record? = some r) : (s.perform (.update text v) w).1 =
      (replaceRecord s.settings n key r w.database).map fun p => .changed p.1 := by
  have hchecked : s.update text v w = (do
      match ← s.resolve text with
      | none => return false
      | some (key, n) => transact (replaceRecord s.settings n key r) : Action Bool) w :=
    Action.bind_of_ok (lift_checkObject hv w)
  show ((Answer.changed <$> s.update text v) w).1 = _
  rw [map_apply, hchecked, ← map_apply]
  exact fst_resolved hkeys hreads hn _

namespace Gone
variable (h : Gone key w.database) (hkeys : s.codec.Derives w.session.keys)
  (hreads : s.reads text = .ok key)
include h hkeys hreads

theorem retrieve : (s.perform (.retrieve text) w).1 = .ok (.record none) := by
  obtain ⟨n, hn⟩ := h.registered
  obtain ⟨m, hkey⟩ := h.exists_keyWord
  obtain ⟨w', hresolve, hdatabase⟩ := resolve_of_reads hkeys hreads hn
  have hnone : w'.database.record? (typeWord n) m = none := by
    rw [hdatabase, ← Option.not_isSome_iff_eq_none, Option.isSome_iff_exists]
    rintro ⟨row, hrow⟩
    exact h.absent (has_of_record? hn hkey hrow)
  have hword : lift (keyWord key) w' = (.ok m, w') := lift_eq_ok_iff.2 ⟨hkey, rfl⟩
  have hread : Action.read (fun db => .ok (db.record? (typeWord n) m)) w' = (.ok none, w') := by
    rw [← hnone]
    rfl
  have hretrieve : s.retrieve text w = (.ok none, w') :=
    (Action.bind_of_ok hresolve).trans ((Action.bind_of_ok hword).trans (Action.bind_of_ok hread))
  exact congrArg Prod.fst (map_of_ok Answer.record hretrieve)

variable (hc : Coherent s.settings.stem accepted w.database)
include hc

theorem delete : (s.perform (.delete text) w).1 = .ok (.changed false) := by
  obtain ⟨n, hn⟩ := h.registered
  obtain ⟨schema, hfinds⟩ := hc.exists_finds key.typeName
  have hstep : deleteRecord s.settings n key w.database = .ok (false, w.database) :=
    (bind_of_ok (storedSchema_of_finds hfinds)).trans (h.changeRecord_eq hn schema rfl _ _)
  refine (fst_resolved hkeys hreads hn _).trans ?_
  rw [hstep]
  rfl

/-- This goes for quarantine and for release. -/
theorem setQuarantined (quarantined : Bool) :
    ((Answer.changed <$> s.setQuarantined text quarantined) w).1 = .ok (.changed false) := by
  obtain ⟨n, hn⟩ := h.registered
  obtain ⟨schema, hfinds⟩ := hc.exists_finds key.typeName
  have hstep : moveRecord s.settings n key quarantined w.database = .ok (false, w.database) := by
    refine (bind_of_ok (storedSchema_of_finds hfinds)).trans ?_
    cases quarantined <;> exact h.changeRecord_eq hn schema rfl _ _
  refine (fst_resolved hkeys hreads hn _).trans ?_
  rw [hstep]
  rfl

theorem update {v : Json} {r : Record} (hv : v.record? = some r)
    (hfits : ∀ n S, Published w.database key.typeName n S → S.recordFault? r = none) :
    (s.perform (.update text v) w).1 = .ok (.changed false) := by
  obtain ⟨n, hn⟩ := h.registered
  obtain ⟨schema, hfinds⟩ := hc.exists_finds key.typeName
  have hvalid : ∀ S, schema = some S → S.recordFault? r = none := by
    rintro S rfl
    rcases hc.schemas.published_of_finds hn hfinds with ⟨hnone, -⟩ | ⟨S', hS, hp⟩
    · cases hnone
    · rw [Option.some.inj hS]
      exact hfits n S' hp
  have hstep : replaceRecord s.settings n key r w.database = .ok (false, w.database) :=
    (bind_of_ok (schemaFor_of_finds hfinds hvalid)).trans (h.changeRecord_eq hn schema rfl _ _)
  rw [fst_update hkeys hreads hn hv, hstep]
  rfl

end Gone

/-- An update that does not fit the schema of its type is refused before anybody looks for a record. -/
theorem fst_update_of_misfit (hkeys : s.codec.Derives w.session.keys) (hreads : s.reads text = .ok key)
    {v : Json} {r : Record} {S : Schema} {a : String} {f : FieldFault} (hv : v.record? = some r)
    (hp : Published w.database key.typeName n S) (hfault : S.recordFault? r = some (a, f)) :
    (s.perform (.update text v) w).1 = .error (.schemaMismatch (.field key.typeName a f)) := by
  have hcheck : Transaction.lift (checkRecord key.typeName S r) w.database =
      .error (.schemaMismatch (.field key.typeName a f)) := by
    rw [checkRecord, hfault]
    rfl
  have hschema : schemaFor key.typeName r w.database =
      .error (.schemaMismatch (.field key.typeName a f)) :=
    (bind_of_ok (storedSchema_of_finds hp.finds)).trans (bind_of_error hcheck)
  have hstep : replaceRecord s.settings n key r w.database =
      .error (.schemaMismatch (.field key.typeName a f)) := bind_of_error hschema
  rw [fst_update hkeys hreads hp.number hv, hstep]
  rfl

theorem fst_update_of_notObject {v : Json} (hv : v.record? = none) :
    (s.perform (.update text v) w).1 = .error (.schemaMismatch .notObject) := by
  have hrefused : s.update text v w = (.error (.schemaMismatch .notObject), w) :=
    Action.bind_of_error (lift_checkObject_of_none hv w)
  show ((Answer.changed <$> s.update text v) w).1 = _
  rw [map_apply, hrefused]
  rfl

theorem Gone.answersNothing (h : Gone key w.database)
    (hc : Coherent s.settings.stem accepted w.database) (hkeys : s.codec.Derives w.session.keys) :
    AnswersNothing s w key where
  retrieve _ hreads := h.retrieve hkeys hreads
  delete _ hreads := h.delete hkeys hreads hc
  quarantine _ hreads := h.setQuarantined hkeys hreads hc true
  release _ hreads := h.setQuarantined hkeys hreads hc false
  update _ _ _ hreads hv hfits := h.update hkeys hreads hc hv hfits
  notObject _ _ hv := fst_update_of_notObject hv
  misfit _ _ _ _ _ _ _ hreads hv hp hfault := fst_update_of_misfit hkeys hreads hv hp hfault
  shown _ _ ha hmem := h.absent (hc.has_of_shown ha key hmem)

end

end RecordStore
