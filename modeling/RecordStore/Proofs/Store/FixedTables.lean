import Mathlib
import RecordStore.Proofs.Database.TypeRegistry
import RecordStore.Proofs.Store.Steps

/-!
The registry of types and the table of schemas under the transactions of a store.  Transactions on
records leave both alone; publishing adds one row to the table of schemas, and its removal takes the
rows of one type away.
-/
namespace RecordStore
open Transaction Database

/-- The registry of types and the table of schemas are the same. -/
structure FixedKept (db db' : Database) : Prop where
  types : db'.types = db.types
  schemas : db'.schemas = db.schemas

theorem composes_fixedKept : Composes FixedKept where
  refl _ := ⟨rfl, rfl⟩
  trans h h' := ⟨h'.types.trans h.types, h'.schemas.trans h.schemas⟩

/-- Nothing but tables and index objects of indexes differs. -/
structure OnlyTables (db db' : Database) : Prop extends FixedKept db db' where
  records : db'.records = db.records

theorem composes_onlyTables : Composes OnlyTables where
  refl db := ⟨composes_fixedKept.refl db, rfl⟩
  trans h h' := ⟨composes_fixedKept.trans h.toFixedKept h'.toFixedKept, h'.records.trans h.records⟩

/-! ### Statements -/

theorem onlyTables_insert (db : Database) (q : Sql.Insert) (db' : Database)
    (h : db.insert q = .ok db') : OnlyTables db db' := by
  obtain ⟨t, t', -, -, rfl⟩ := insert_eq_ok h
  exact ⟨⟨rfl, rfl⟩, rfl⟩

theorem onlyTables_update (db : Database) (q : Sql.Update) (db' : Database)
    (h : db.update q = .ok db') : OnlyTables db db' := by
  obtain ⟨t, t', -, -, rfl⟩ := update_eq_ok h
  exact ⟨⟨rfl, rfl⟩, rfl⟩

theorem onlyTables_delete (db : Database) (q : Sql.Delete) (db' : Database)
    (h : db.delete q = .ok db') : OnlyTables db db' := by
  obtain ⟨t, -, rfl⟩ := delete_eq_ok h
  exact ⟨⟨rfl, rfl⟩, rfl⟩

theorem onlyTables_truncate (db : Database) (name : String) (db' : Database)
    (h : db.truncate name = .ok db') : OnlyTables db db' := by
  obtain ⟨read, t, -, -, rfl⟩ := truncate_eq_ok h
  exact ⟨⟨rfl, rfl⟩, rfl⟩

theorem onlyTables_createTable (db : Database) (q : Sql.CreateTable) (db' : Database)
    (h : db.createTable q = .ok db') : OnlyTables db db' := by
  rcases (createTable_eq_ok h).2 with ⟨-, rfl⟩ | ⟨-, rfl, -⟩ <;> exact ⟨⟨rfl, rfl⟩, rfl⟩

theorem onlyTables_createIndex (db : Database) (q : Sql.CreateIndex) (db' : Database)
    (h : db.createIndex q = .ok db') : OnlyTables db db' := by
  obtain ⟨name, t, -, -, -, -, rfl⟩ := Database.createIndex_eq_ok h
  exact ⟨⟨rfl, rfl⟩, rfl⟩

theorem onlyTables_dropTable (db : Database) (name : String) (db' : Database)
    (h : db.dropTable name = .ok db') : OnlyTables db db' := by
  obtain rfl := dropTable_eq_ok h
  exact ⟨⟨rfl, rfl⟩, rfl⟩

theorem onlyTables_dropIndex (db : Database) (name : String) (db' : Database)
    (h : db.dropIndex name = .ok db') : OnlyTables db db' := by
  obtain ⟨read, -, rfl⟩ := dropIndex_eq_ok h
  exact ⟨⟨rfl, rfl⟩, rfl⟩

/-! ### Transactions on records -/

theorem fixedKept_changeRecord? {db db' : Database} {n m : Int64} {allowed : RecordState → Bool}
    {change : RecordRow → RecordRow} (h : db.changeRecord? n m allowed change = some db') :
    FixedKept db db' := by
  unfold changeRecord? at h
  simp only at h
  split at h
  · obtain rfl := Option.some.inj h
    exact ⟨rfl, rfl⟩
  · cases h

/-- The steps that follow a change of the records. -/
theorem Follows.ensures {R : Database → Database → Prop} (hc : Composes R) {schema : Option Schema}
    {rows : Schema → Transaction Unit} {db db' : Database} (h : Follows schema rows db db')
    (hrows : ∀ S, Ensures R (rows S)) : R db db' := by
  rcases h with ⟨-, rfl⟩ | ⟨S, -, h⟩
  · exact hc.refl _
  · exact hrows S db () db' h

theorem addRecord_onlyTables {s : StoreSettings} {n : UInt32} {key : Key} {r : Record}
    {db db' : Database} {u : Unit} (h : addRecord s n key r db = .ok (u, db')) :
    ∃ m, keyWord key = .ok m ∧
      (db.records.any fun row => row.typeId == typeWord n && row.id == m) = false ∧
      OnlyTables
        { db with records := db.records ++ [⟨typeWord n, m, .live, (Json.object r).text⟩] } db' := by
  obtain ⟨schema, m, -, -, hkey, hfree, hfollows⟩ := addRecord_eq_ok h
  exact ⟨m, hkey, hfree, hfollows.ensures composes_onlyTables fun S =>
    IndexedType.ensures_insertRows composes_onlyTables _ s key.id r onlyTables_insert⟩

/-- A record is changed or is not there, and nothing but tables of indexes changes with it. -/
def ChangesOne (n : UInt32) (key : Key) (allowed : RecordState → Bool)
    (change : RecordRow → RecordRow) (b : Bool) (db db' : Database) : Prop :=
  ∃ m, keyWord key = .ok m ∧
    (b = false ∧ db' = db ∧ db.changeRecord? (typeWord n) m allowed change = none ∨
      b = true ∧ ∃ db₁, db.changeRecord? (typeWord n) m allowed change = some db₁ ∧
        OnlyTables db₁ db')

theorem replaceRecord_changesOne {s : StoreSettings} {n : UInt32} {key : Key} {r : Record}
    {db db' : Database} {b : Bool} (h : replaceRecord s n key r db = .ok (b, db')) :
    ChangesOne n key (· != .deleted) ({ · with text := (Json.object r).text }) b db db' := by
  obtain ⟨schema, m, -, -, hkey, ⟨rfl, hsame⟩ | ⟨rfl, db₁, hchange, hfollows⟩⟩ :=
    replaceRecord_eq_ok h
  · exact ⟨m, hkey, .inl ⟨rfl, hsame⟩⟩
  · exact ⟨m, hkey, .inr ⟨rfl, db₁, hchange, hfollows.ensures composes_onlyTables fun S =>
      IndexedType.ensures_updateRows composes_onlyTables _ s key.id r onlyTables_update⟩⟩

theorem deleteRecord_changesOne {s : StoreSettings} {n : UInt32} {key : Key}
    {db db' : Database} {b : Bool} (h : deleteRecord s n key db = .ok (b, db')) :
    ChangesOne n key (· != .deleted) ({ · with state := .deleted }) b db db' := by
  obtain ⟨schema, m, -, hkey, ⟨rfl, hsame⟩ | ⟨rfl, db₁, hchange, hfollows⟩⟩ := deleteRecord_eq_ok h
  · exact ⟨m, hkey, .inl ⟨rfl, hsame⟩⟩
  · exact ⟨m, hkey, .inr ⟨rfl, db₁, hchange, hfollows.ensures composes_onlyTables fun S =>
      IndexedType.ensures_deleteRows composes_onlyTables _ s key.id onlyTables_delete⟩⟩

theorem moveRecord_changesOne {s : StoreSettings} {n : UInt32} {key : Key} {quarantined : Bool}
    {db db' : Database} {b : Bool} (h : moveRecord s n key quarantined db = .ok (b, db')) :
    ChangesOne n key (· == movedFrom quarantined) ({ · with state := movedTo quarantined }) b
      db db' := by
  obtain ⟨schema, m, -, hkey, ⟨rfl, hsame⟩ | ⟨rfl, db₁, hchange, hfollows⟩⟩ := moveRecord_eq_ok h
  · exact ⟨m, hkey, .inl ⟨rfl, hsame⟩⟩
  · exact ⟨m, hkey, .inr ⟨rfl, db₁, hchange, hfollows.ensures composes_onlyTables fun S =>
      IndexedType.ensures_flagRows composes_onlyTables _ s key.id quarantined onlyTables_update⟩⟩

theorem clearType_onlyTables {s : StoreSettings} {n : UInt32} {typeName : String}
    {db db' : Database} {k : Nat} (h : clearType s n typeName db = .ok (k, db')) :
    k = (db.clearRecords (typeWord n)).1 ∧ OnlyTables (db.clearRecords (typeWord n)).2 db' := by
  obtain ⟨schema, hcount, -, hfollows⟩ := clearType_eq_ok h
  exact ⟨hcount, hfollows.ensures composes_onlyTables fun S =>
    IndexedType.ensures_truncateAll composes_onlyTables _ s onlyTables_truncate⟩

theorem ChangesOne.fixedKept {n : UInt32} {key : Key} {allowed : RecordState → Bool}
    {change : RecordRow → RecordRow} {b : Bool} {db db' : Database}
    (h : ChangesOne n key allowed change b db db') : FixedKept db db' := by
  obtain ⟨m, -, ⟨-, rfl, -⟩ | ⟨-, db₁, hchange, honly⟩⟩ := h
  · exact composes_fixedKept.refl _
  · exact composes_fixedKept.trans (fixedKept_changeRecord? hchange) honly.toFixedKept

theorem fixedKept_addRecord (s : StoreSettings) (n : UInt32) (key : Key) (r : Record) :
    Ensures FixedKept (addRecord s n key r) := by
  intro db u db' h
  obtain ⟨m, -, -, honly⟩ := addRecord_onlyTables h
  exact ⟨honly.types, honly.schemas⟩

theorem fixedKept_replaceRecord (s : StoreSettings) (n : UInt32) (key : Key) (r : Record) :
    Ensures FixedKept (replaceRecord s n key r) :=
  fun _ _ _ h => (replaceRecord_changesOne h).fixedKept

theorem fixedKept_deleteRecord (s : StoreSettings) (n : UInt32) (key : Key) :
    Ensures FixedKept (deleteRecord s n key) :=
  fun _ _ _ h => (deleteRecord_changesOne h).fixedKept

theorem fixedKept_moveRecord (s : StoreSettings) (n : UInt32) (key : Key) (quarantined : Bool) :
    Ensures FixedKept (moveRecord s n key quarantined) :=
  fun _ _ _ h => (moveRecord_changesOne h).fixedKept

theorem fixedKept_clearType (s : StoreSettings) (n : UInt32) (typeName : String) :
    Ensures FixedKept (clearType s n typeName) := by
  intro db k db' h
  obtain ⟨-, honly⟩ := clearType_onlyTables h
  exact ⟨honly.types, honly.schemas⟩

/-! ### Transactions on schemas -/

/-- Publishing adds the schema of a type that had none. -/
theorem publish_onlyTables {t : IndexedType} {s : StoreSettings} {db db' : Database} {u : Unit}
    (h : t.publish s db = .ok (u, db')) : db.schemaText? t.typeName = none ∧
      OnlyTables { db with schemas := db.schemas ++ [⟨t.typeName, t.schema.text⟩] } db' := by
  obtain ⟨hnone, db₁, h₁, h₂⟩ := publish_eq_ok h
  have hcreate := ensures_forM composes_onlyTables
    (fun (ix : IndexDefinition) _ => IndexedType.ensures_createIndex composes_onlyTables t s ix.name
      onlyTables_createTable onlyTables_createIndex onlyTables_dropIndex) _ _ _ h₁
  have hfill := ensures_forM composes_onlyTables
    (fun (row : RecordRow) _ => IndexedType.ensures_backfill composes_onlyTables t s row
      onlyTables_insert onlyTables_update) _ _ _ h₂
  exact ⟨hnone, composes_onlyTables.trans hcreate hfill⟩

theorem fixed_publish {t : IndexedType} {s : StoreSettings} {db db' : Database} {u : Unit}
    (h : t.publish s db = .ok (u, db')) : db'.types = db.types ∧
      db.schemaText? t.typeName = none ∧
      db'.schemas = db.schemas ++ [⟨t.typeName, t.schema.text⟩] := by
  obtain ⟨hnone, honly⟩ := publish_onlyTables h
  exact ⟨honly.types, hnone, honly.schemas⟩

/-- Where there is a schema its row goes, and nothing happens where there is none. -/
theorem unpublish_onlyTables {s : StoreSettings} {n : UInt32} {typeName : String}
    {db db' : Database} {b : Bool} (h : unpublish s n typeName db = .ok (b, db')) :
    OnlyTables (db.removeSchema typeName) db' := by
  obtain ⟨schema, hfinds, ⟨-, rfl, rfl⟩ | ⟨-, S, -, hdrop⟩⟩ := unpublish_eq_ok h
  · refine ⟨⟨rfl, (List.filter_eq_self.2 fun row hrow => ?_).symm⟩, rfl⟩
    rcases hfinds with ⟨-, hnone⟩ | ⟨text, S, hS, -⟩
    · rw [schemaText?, Option.map_eq_none_iff, List.find?_eq_none] at hnone
      simpa using hnone row hrow
    · cases hS
  · exact ensures_forM composes_onlyTables
      (fun (ix : IndexDefinition) _ => IndexedType.ensures_dropIndexTable composes_onlyTables s n
        ix.name onlyTables_dropTable onlyTables_dropIndex) _ _ _ hdrop

theorem fixed_unpublish {s : StoreSettings} {n : UInt32} {typeName : String} {db db' : Database}
    {b : Bool} (h : unpublish s n typeName db = .ok (b, db')) : db'.types = db.types ∧
      db'.schemas = db.schemas.filter (·.typeName != typeName) :=
  ⟨(unpublish_onlyTables h).types, (unpublish_onlyTables h).schemas⟩

end RecordStore
