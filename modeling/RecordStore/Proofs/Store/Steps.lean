import Mathlib
import RecordStore.Proofs.Store.Transaction

/-!
What each transaction of a store does when it succeeds, said once: which rows of the fixed tables
change and which steps on the tables of indexes follow.
-/
namespace RecordStore
open Transaction

/-- The schema that a transaction finds for a type: none where none is stored, and otherwise the one
that the stored text is. -/
def FindsSchema (db : Database) (typeName : String) (schema : Option Schema) : Prop :=
  schema = none ∧ db.schemaText? typeName = none ∨
    ∃ text S, schema = some S ∧ db.schemaText? typeName = some text ∧ Schema.parse text = .ok S

theorem finds_of_storedSchema {typeName : String} {db db' : Database} {schema : Option Schema}
    (h : storedSchema typeName db = .ok (schema, db')) :
    db' = db ∧ FindsSchema db typeName schema :=
  storedSchema_eq_ok h

theorem checkRecord_eq_ok {typeName : String} {s : Schema} {r : Record} {u : Unit} :
    checkRecord typeName s r = .ok u ↔ s.recordFault? r = none := by
  unfold checkRecord
  cases h : s.recordFault? r with
  | none => simp
  | some p => simp

theorem schemaFor_eq_ok {typeName : String} {r : Record} {db db' : Database}
    {schema : Option Schema} (h : schemaFor typeName r db = .ok (schema, db')) :
    db' = db ∧ FindsSchema db typeName schema ∧ ∀ S, schema = some S → S.recordFault? r = none := by
  obtain ⟨found, db₁, h₁, k₁⟩ := Transaction.bind_eq_ok.1 h
  obtain ⟨rfl, hfinds⟩ := finds_of_storedSchema h₁
  cases found with
  | none =>
    obtain ⟨rfl, rfl⟩ := pure_eq_ok.1 k₁
    exact ⟨rfl, hfinds, by simp⟩
  | some S =>
    obtain ⟨u, db₂, h₂, k₂⟩ := Transaction.bind_eq_ok.1 k₁
    obtain ⟨hcheck, rfl⟩ := lift_eq_ok.1 h₂
    obtain ⟨rfl, rfl⟩ := pure_eq_ok.1 k₂
    refine ⟨rfl, hfinds, fun S' hS => ?_⟩
    obtain rfl := Option.some.inj hS
    exact checkRecord_eq_ok.1 hcheck

/-- The steps on index tables that follow if there is a schema. -/
def Follows (schema : Option Schema) (rows : Schema → Transaction Unit) (db db' : Database) :
    Prop :=
  schema = none ∧ db' = db ∨ ∃ S, schema = some S ∧ rows S db = .ok ((), db')

theorem addRecord_eq_ok {s : StoreSettings} {typeId : UInt32} {key : Key} {r : Record}
    {db db' : Database} {u : Unit} (h : addRecord s typeId key r db = .ok (u, db')) :
    ∃ schema n, FindsSchema db key.typeName schema ∧
      (∀ S, schema = some S → S.recordFault? r = none) ∧ keyWord key = .ok n ∧
      (db.records.any fun row => row.typeId == typeWord typeId && row.id == n) = false ∧
      Follows schema (fun S => IndexedType.insertRows ⟨typeId, key.typeName, S⟩ s key.id r)
        { db with records := db.records ++ [⟨typeWord typeId, n, .live, (Json.object r).text⟩] }
        db' := by
  obtain ⟨schema, db₁, h₁, k₁⟩ := Transaction.bind_eq_ok.1 h
  obtain ⟨rfl, hfinds, hvalid⟩ := schemaFor_eq_ok h₁
  obtain ⟨n, db₂, h₂, k₂⟩ := Transaction.bind_eq_ok.1 k₁
  obtain ⟨hkey, rfl⟩ := lift_eq_ok.1 h₂
  obtain ⟨⟨⟩, db₃, h₃, k₃⟩ := Transaction.bind_eq_ok.1 k₂
  have hadd := apply_eq_ok.1 h₃
  unfold Database.addRecord at hadd
  split at hadd
  · cases hadd
  · next hfree =>
    obtain rfl := Except.ok.inj hadd
    refine ⟨schema, n, hfinds, hvalid, hkey, by simpa using hfree, ?_⟩
    cases schema with
    | none => exact .inl ⟨rfl, (pure_eq_ok.1 k₃).2⟩
    | some S => exact .inr ⟨S, rfl, k₃⟩

theorem changeRecord_eq_ok {typeId : UInt32} {key : Key} {schema : Option Schema}
    {allowed : RecordState → Bool} {change : RecordRow → RecordRow}
    {rows : IndexedType → Transaction Unit} {db db' : Database} {b : Bool}
    (h : changeRecord typeId key schema allowed change rows db = .ok (b, db')) :
    ∃ n, keyWord key = .ok n ∧
      (b = false ∧ db' = db ∧ db.changeRecord? (typeWord typeId) n allowed change = none ∨
        b = true ∧ ∃ db₁, db.changeRecord? (typeWord typeId) n allowed change = some db₁ ∧
          Follows schema (fun S => rows ⟨typeId, key.typeName, S⟩) db₁ db') := by
  obtain ⟨n, db₁, h₁, k₁⟩ := Transaction.bind_eq_ok.1 h
  obtain ⟨hkey, rfl⟩ := lift_eq_ok.1 h₁
  obtain ⟨got, db₂, h₂, k₂⟩ := Transaction.bind_eq_ok.1 k₁
  obtain ⟨rfl, rfl⟩ := Prod.mk.inj (Except.ok.inj h₂)
  refine ⟨n, hkey, ?_⟩
  cases hchange : db₁.changeRecord? (typeWord typeId) n allowed change with
  | none =>
    rw [hchange] at k₂
    obtain ⟨rfl, rfl⟩ := pure_eq_ok.1 k₂
    exact .inl ⟨rfl, rfl, rfl⟩
  | some changed =>
    rw [hchange] at k₂
    obtain ⟨⟨⟩, db₃, h₃, k₃⟩ := Transaction.bind_eq_ok.1 k₂
    obtain ⟨-, rfl⟩ := Prod.mk.inj (Except.ok.inj h₃)
    cases schema with
    | none =>
      obtain ⟨rfl, rfl⟩ := pure_eq_ok.1 k₃
      exact .inr ⟨rfl, _, rfl, .inl ⟨rfl, rfl⟩⟩
    | some S =>
      obtain ⟨⟨⟩, db₄, h₄, k₄⟩ := Transaction.bind_eq_ok.1 k₃
      obtain ⟨rfl, rfl⟩ := pure_eq_ok.1 k₄
      exact .inr ⟨rfl, _, rfl, .inr ⟨S, rfl, h₄⟩⟩

theorem replaceRecord_eq_ok {s : StoreSettings} {typeId : UInt32} {key : Key} {r : Record}
    {db db' : Database} {b : Bool} (h : replaceRecord s typeId key r db = .ok (b, db')) :
    ∃ schema n, FindsSchema db key.typeName schema ∧
      (∀ S, schema = some S → S.recordFault? r = none) ∧ keyWord key = .ok n ∧
      (b = false ∧ db' = db ∧ db.changeRecord? (typeWord typeId) n (· != .deleted)
            ({ · with text := (Json.object r).text }) = none ∨
        b = true ∧ ∃ db₁, db.changeRecord? (typeWord typeId) n (· != .deleted)
            ({ · with text := (Json.object r).text }) = some db₁ ∧
          Follows schema (fun S => IndexedType.updateRows ⟨typeId, key.typeName, S⟩ s key.id r)
            db₁ db') := by
  obtain ⟨schema, db₁, h₁, k₁⟩ := Transaction.bind_eq_ok.1 h
  obtain ⟨rfl, hfinds, hvalid⟩ := schemaFor_eq_ok h₁
  obtain ⟨n, hkey, k₂⟩ := changeRecord_eq_ok k₁
  exact ⟨schema, n, hfinds, hvalid, hkey, k₂⟩

theorem deleteRecord_eq_ok {s : StoreSettings} {typeId : UInt32} {key : Key}
    {db db' : Database} {b : Bool} (h : deleteRecord s typeId key db = .ok (b, db')) :
    ∃ schema n, FindsSchema db key.typeName schema ∧ keyWord key = .ok n ∧
      (b = false ∧ db' = db ∧ db.changeRecord? (typeWord typeId) n (· != .deleted)
            ({ · with state := .deleted }) = none ∨
        b = true ∧ ∃ db₁, db.changeRecord? (typeWord typeId) n (· != .deleted)
            ({ · with state := .deleted }) = some db₁ ∧
          Follows schema (fun S => IndexedType.deleteRows ⟨typeId, key.typeName, S⟩ s key.id)
            db₁ db') := by
  obtain ⟨schema, db₁, h₁, k₁⟩ := Transaction.bind_eq_ok.1 h
  obtain ⟨rfl, hfinds⟩ := finds_of_storedSchema h₁
  obtain ⟨n, hkey, k₂⟩ := changeRecord_eq_ok k₁
  exact ⟨schema, n, hfinds, hkey, k₂⟩

/-- The states between which a record is moved. -/
def movedFrom (quarantined : Bool) : RecordState := if quarantined then .live else .quarantined

def movedTo (quarantined : Bool) : RecordState := if quarantined then .quarantined else .live

theorem moveRecord_eq_ok {s : StoreSettings} {typeId : UInt32} {key : Key} {quarantined : Bool}
    {db db' : Database} {b : Bool} (h : moveRecord s typeId key quarantined db = .ok (b, db')) :
    ∃ schema n, FindsSchema db key.typeName schema ∧ keyWord key = .ok n ∧
      (b = false ∧ db' = db ∧ db.changeRecord? (typeWord typeId) n (· == movedFrom quarantined)
            ({ · with state := movedTo quarantined }) = none ∨
        b = true ∧ ∃ db₁, db.changeRecord? (typeWord typeId) n (· == movedFrom quarantined)
            ({ · with state := movedTo quarantined }) = some db₁ ∧
          Follows schema
            (fun S => IndexedType.flagRows ⟨typeId, key.typeName, S⟩ s key.id quarantined)
            db₁ db') := by
  obtain ⟨schema, db₁, h₁, k₁⟩ := Transaction.bind_eq_ok.1 h
  obtain ⟨rfl, hfinds⟩ := finds_of_storedSchema h₁
  cases quarantined <;>
  · obtain ⟨n, hkey, k₂⟩ := changeRecord_eq_ok k₁
    exact ⟨schema, n, hfinds, hkey, k₂⟩

theorem clearType_eq_ok {s : StoreSettings} {typeId : UInt32} {typeName : String}
    {db db' : Database} {k : Nat} (h : clearType s typeId typeName db = .ok (k, db')) :
    ∃ schema, k = (db.clearRecords (typeWord typeId)).1 ∧ FindsSchema db typeName schema ∧
      Follows schema (fun S => IndexedType.truncateAll ⟨typeId, typeName, S⟩ s)
        (db.clearRecords (typeWord typeId)).2 db' := by
  obtain ⟨schema, db₁, h₁, k₁⟩ := Transaction.bind_eq_ok.1 h
  obtain ⟨rfl, hfinds⟩ := finds_of_storedSchema h₁
  obtain ⟨got, db₂, h₂, k₂⟩ := Transaction.bind_eq_ok.1 k₁
  obtain ⟨rfl, rfl⟩ := Prod.mk.inj (Except.ok.inj h₂)
  obtain ⟨⟨⟩, db₃, h₃, k₃⟩ := Transaction.bind_eq_ok.1 k₂
  obtain ⟨-, rfl⟩ := Prod.mk.inj (Except.ok.inj h₃)
  cases schema with
  | none =>
    obtain ⟨rfl, rfl⟩ := pure_eq_ok.1 k₃
    exact ⟨none, rfl, hfinds, .inl ⟨rfl, rfl⟩⟩
  | some S =>
    obtain ⟨⟨⟩, db₄, h₄, k₄⟩ := Transaction.bind_eq_ok.1 k₃
    obtain ⟨rfl, rfl⟩ := pure_eq_ok.1 k₄
    exact ⟨some S, rfl, hfinds, .inr ⟨S, rfl, h₄⟩⟩

theorem unpublish_eq_ok {s : StoreSettings} {typeId : UInt32} {typeName : String}
    {db db' : Database} {b : Bool} (h : unpublish s typeId typeName db = .ok (b, db')) :
    ∃ schema, FindsSchema db typeName schema ∧
      (b = false ∧ schema = none ∧ db' = db ∨
        b = true ∧ ∃ S, schema = some S ∧
          S.indexes.forM (fun ix => dropIndexTable s typeId ix.name) (db.removeSchema typeName) =
            .ok ((), db')) := by
  obtain ⟨schema, db₁, h₁, k₁⟩ := Transaction.bind_eq_ok.1 h
  obtain ⟨rfl, hfinds⟩ := finds_of_storedSchema h₁
  refine ⟨schema, hfinds, ?_⟩
  cases schema with
  | none =>
    obtain ⟨rfl, rfl⟩ := pure_eq_ok.1 k₁
    exact .inl ⟨rfl, rfl, rfl⟩
  | some S =>
    obtain ⟨⟨⟩, db₂, h₂, k₂⟩ := Transaction.bind_eq_ok.1 k₁
    obtain ⟨-, rfl⟩ := Prod.mk.inj (Except.ok.inj h₂)
    obtain ⟨⟨⟩, db₃, h₃, k₃⟩ := Transaction.bind_eq_ok.1 k₂
    obtain ⟨rfl, rfl⟩ := pure_eq_ok.1 k₃
    exact .inr ⟨rfl, S, rfl, h₃⟩

theorem publish_eq_ok {t : IndexedType} {s : StoreSettings} {db db' : Database} {u : Unit}
    (h : t.publish s db = .ok (u, db')) :
    db.schemaText? t.typeName = none ∧ ∃ db₁,
      t.schema.indexes.forM (fun ix => t.createIndex s ix.name)
        { db with schemas := db.schemas ++ [⟨t.typeName, t.schema.text⟩] } = .ok ((), db₁) ∧
      (db₁.recordsOf (typeWord t.typeId)).forM (t.backfill s) db₁ = .ok ((), db') := by
  obtain ⟨⟨⟩, db₁, h₁, k₁⟩ := Transaction.bind_eq_ok.1 h
  have hadd := apply_eq_ok.1 h₁
  unfold Database.addSchema at hadd
  split at hadd
  · cases hadd
  · next hnone =>
    obtain rfl := Except.ok.inj hadd
    rw [Option.not_isSome_iff_eq_none] at hnone
    obtain ⟨⟨⟩, db₂, h₂, k₂⟩ := Transaction.bind_eq_ok.1 k₁
    obtain ⟨got, db₃, h₃, k₃⟩ := Transaction.bind_eq_ok.1 k₂
    obtain ⟨rfl, rfl⟩ := Prod.mk.inj (Except.ok.inj h₃)
    exact ⟨hnone, db₂, h₂, k₃⟩

theorem backfill_eq_ok {t : IndexedType} {s : StoreSettings} {row : RecordRow} {db db' : Database}
    {u : Unit} (h : t.backfill s row db = .ok (u, db')) :
    ∃ id r db₁, recordId row.id = .ok id ∧ storedRecord row.text = .ok r ∧
      t.schema.recordFault? r = none ∧ t.insertRows s id r db = .ok ((), db₁) ∧
      (row.state = .quarantined ∧ t.flagRows s id true db₁ = .ok ((), db') ∨
        row.state ≠ .quarantined ∧ db' = db₁) := by
  obtain ⟨id, db₁, h₁, k₁⟩ := Transaction.bind_eq_ok.1 h
  obtain ⟨hid, rfl⟩ := lift_eq_ok.1 h₁
  obtain ⟨r, db₂, h₂, k₂⟩ := Transaction.bind_eq_ok.1 k₁
  obtain ⟨hr, rfl⟩ := lift_eq_ok.1 h₂
  obtain ⟨⟨⟩, db₃, h₃, k₃⟩ := Transaction.bind_eq_ok.1 k₂
  obtain ⟨hcheck, rfl⟩ := lift_eq_ok.1 h₃
  obtain ⟨⟨⟩, db₄, h₄, k₄⟩ := Transaction.bind_eq_ok.1 k₃
  refine ⟨id, r, db₄, hid, hr, checkRecord_eq_ok.1 hcheck, h₄, ?_⟩
  split at k₄
  · next hq => exact .inl ⟨hq, k₄⟩
  · next hq => exact .inr ⟨hq, (pure_eq_ok.1 k₄).2⟩

theorem createIndex_eq_ok {t : IndexedType} {s : StoreSettings} {name : String}
    {db db' : Database} {u : Unit} (h : t.createIndex s name db = .ok (u, db')) :
    ∃ ix table index db₁ db₂, t.schema.requireIndex t.typeName name = .ok ix ∧
      Index.createTable (Index.names s.stem t.typeId ix.name) ix t.schema = .ok table ∧
      Index.createIndex (Index.names s.stem t.typeId ix.name) ix t.schema = .ok index ∧
      (db.dropIndex (Index.indexName s.stem t.typeId ix.name) = .ok db₁ ∨
        db₁ = db ∧ ∃ e, db.dropIndex (Index.indexName s.stem t.typeId ix.name) = .error e) ∧
      db₁.createTable table = .ok db₂ ∧ db₂.createIndex index = .ok db' := by
  obtain ⟨ix, db₁, h₁, k₁⟩ := Transaction.bind_eq_ok.1 h
  obtain ⟨hix, rfl⟩ := lift_eq_ok.1 h₁
  obtain ⟨⟨⟩, db₂, h₂, k₂⟩ := Transaction.bind_eq_ok.1 k₁
  obtain ⟨table, db₃, h₃, k₃⟩ := Transaction.bind_eq_ok.1 k₂
  obtain ⟨htable, rfl⟩ := lift_eq_ok.1 h₃
  obtain ⟨⟨⟩, db₄, h₄, k₄⟩ := Transaction.bind_eq_ok.1 k₃
  obtain ⟨index, db₅, h₅, k₅⟩ := Transaction.bind_eq_ok.1 k₄
  obtain ⟨hindex, rfl⟩ := lift_eq_ok.1 h₅
  exact ⟨ix, table, index, _, _, hix, htable, hindex, attempt_eq_ok h₂, apply_eq_ok.1 h₄,
    apply_eq_ok.1 k₅⟩

end RecordStore
