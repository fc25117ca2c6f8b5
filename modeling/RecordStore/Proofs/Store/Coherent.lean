import Mathlib
import RecordStore.Proofs.Database.TypeRegistry
import RecordStore.Proofs.Schema.RoundTrip
import RecordStore.Proofs.Store.IndexesHold

/-!
What holds of every database that stores of one stem have worked on.  The registry, the schemas and
the records are sound by themselves, every index table belongs to a published schema, and the tables
of each published schema hold the rows of the records of its type.
-/
namespace RecordStore
open Database Transaction Sql Index

attribute [local irreducible] tableName indexName

/-! ### The fixed tables -/

/-- The records of a type that are not deleted, in the order in which they were stored. -/
def Database.liveRecords (db : Database) (n : UInt32) : List RecordRow :=
  db.records.filter fun r => r.typeId == typeWord n && r.state != .deleted

theorem recordsOf_perm (db : Database) (n : UInt32) :
    (db.recordsOf (typeWord n)).Perm (db.liveRecords n) :=
  List.mergeSort_perm _ _

/-- The registry has each name and each number once, and every number can be used. -/
structure TypesSound (db : Database) : Prop where
  names : (db.types.map (·.name)).Nodup
  numbers : (db.types.map (·.typeId)).Nodup
  usable : ∀ row ∈ db.types, 0 ≤ row.typeId.toInt ∧ row.typeId.toInt < 0x100000000

/-- Each type has one schema at most, which is one that was written, and is registered. -/
structure SchemasSound (db : Database) : Prop where
  names : (db.schemas.map (·.typeName)).Nodup
  each : ∀ row ∈ db.schemas, (∃ S : Schema, row.text = S.text) ∧
    ∃ n, db.typeId? row.typeName = .ok (some n)

/-- A row that the store can have written for a record that it accepts. -/
structure RowSound (accepted : Record → Prop) (row : RecordRow) : Prop where
  text : ∃ r, accepted r ∧ row.text = (Json.object r).text
  id : 0 ≤ row.id.toInt
  state : row.state = .live ∨ row.state = .quarantined ∨ row.state = .deleted

structure RecordsSound (accepted : Record → Prop) (records : List RecordRow) : Prop where
  keys : (records.map fun row => (row.typeId, row.id)).Nodup
  each : ∀ row ∈ records, RowSound accepted row

/-- A schema is published for a type, which is registered under a number. -/
structure Published (db : Database) (typeName : String) (n : UInt32) (s : Schema) : Prop where
  text : db.schemaText? typeName = some s.text
  number : db.typeId? typeName = .ok (some n)

/-! ### Type numbers -/

theorem typeWord_toInt (n : UInt32) : (typeWord n).toInt = n.toNat := by
  have hlt := n.toNat_lt
  exact Int64.toInt_ofInt_of_le (by omega) (by omega)

theorem typeWord_injective {n m : UInt32} (h : typeWord n = typeWord m) : n = m := by
  have := congrArg Int64.toInt h
  rw [typeWord_toInt, typeWord_toInt] at this
  exact UInt32.toNat_inj.1 (by exact_mod_cast this)

theorem usableTypeId_eq_ok {name : String} {word : Int64} {n : UInt32}
    (h : usableTypeId name word = .ok n) : word = typeWord n := by
  unfold usableTypeId at h
  split at h
  · next hr =>
    obtain rfl := Except.ok.inj h
    have hlt : word.toInt.toNat < 2 ^ 32 := by omega
    rw [← Int64.toInt_inj, typeWord_toInt, UInt32.toNat_ofNat_of_lt' hlt]
    omega
  · cases h

theorem typeId?_eq_some {db : Database} {name : String} {n : UInt32}
    (h : db.typeId? name = .ok (some n)) :
    ∃ row, db.typeRow? name = some row ∧ row.typeId = typeWord n := by
  unfold typeId? at h
  split at h
  · cases h
  · next row hrow =>
    obtain ⟨m, hm, he⟩ := map_eq_ok.1 h
    obtain rfl := Option.some.inj he
    exact ⟨row, hrow, usableTypeId_eq_ok hm⟩

/-- Types of one number are one type. -/
theorem TypesSound.eq_of_number {db : Database} (h : TypesSound db) {a b : String} {n : UInt32}
    (ha : db.typeId? a = .ok (some n)) (hb : db.typeId? b = .ok (some n)) : a = b := by
  obtain ⟨row, hrow, hn⟩ := typeId?_eq_some ha
  obtain ⟨row', hrow', hn'⟩ := typeId?_eq_some hb
  obtain ⟨hmem, rfl⟩ := typeRow?_eq_some hrow
  obtain ⟨hmem', rfl⟩ := typeRow?_eq_some hrow'
  rw [List.inj_on_of_nodup_map h.numbers hmem hmem' (hn.trans hn'.symm)]

/-! ### Published schemas -/

namespace Published
variable {db db' : Database} {T T' : String} {n n' : UInt32} {s s' : Schema}

theorem unique (h : Published db T n s) (h' : Published db T n' s') : n = n' ∧ s = s' := by
  have hn := h.number.symm.trans h'.number
  have hs := h.text.symm.trans h'.text
  exact ⟨Option.some.inj (Except.ok.inj hn), Schema.text_injective (Option.some.inj hs)⟩

theorem unique_of_number (ht : TypesSound db) (h : Published db T n s)
    (h' : Published db T' n s') : T = T' ∧ s = s' := by
  obtain rfl := ht.eq_of_number h.number h'.number
  exact ⟨rfl, (h.unique h').2⟩

theorem congr (hs : db'.schemas = db.schemas) (ht : db'.types = db.types) :
    Published db' T n s ↔ Published db T n s := by
  have htext : db'.schemaText? T = db.schemaText? T := by rw [schemaText?, schemaText?, hs]
  have hnumber : db'.typeId? T = db.typeId? T := by
    rw [typeId?, typeId?, typeRow?, typeRow?, ht]
  constructor
  · rintro ⟨h, h'⟩
    exact ⟨by rw [← htext, h], by rw [← hnumber, h']⟩
  · rintro ⟨h, h'⟩
    exact ⟨by rw [htext, h], by rw [hnumber, h']⟩

end Published

theorem mem_of_schemaText? {db : Database} {typeName text : String}
    (h : db.schemaText? typeName = some text) : ⟨typeName, text⟩ ∈ db.schemas := by
  obtain ⟨row, hrow, rfl⟩ := Option.map_eq_some_iff.1 h
  have hname : row.typeName = typeName := by simpa using List.find?_some hrow
  subst hname
  exact List.mem_of_find?_eq_some hrow

/-- A schema that is found for a registered type is published. -/
theorem SchemasSound.published_of_finds {db : Database} (hs : SchemasSound db) {T : String}
    {n : UInt32} {schema : Option Schema} (hn : db.typeId? T = .ok (some n))
    (h : FindsSchema db T schema) :
    schema = none ∧ (∀ s, ¬ Published db T n s) ∨ ∃ s, schema = some s ∧ Published db T n s := by
  rcases h with ⟨rfl, hnone⟩ | ⟨text, s, rfl, htext, hparse⟩
  · refine .inl ⟨rfl, fun s hp => ?_⟩
    have := hp.text
    rw [hnone] at this
    cases this
  · obtain ⟨s', rfl⟩ := (hs.each _ (mem_of_schemaText? htext)).1
    rw [Schema.parse_text] at hparse
    obtain rfl := Except.ok.inj hparse
    exact .inr ⟨s', rfl, htext, hn⟩

/-! ### The invariant -/

/-- What holds of a published schema: its tables and index objects are there, the tables hold the
rows of the records of the type, and the records fit the schema. -/
structure TypeHolds (stem : String) (n : UInt32) (s : Schema) (db : Database) : Prop where
  readable : ∀ ix ∈ s.indexes,
    readNames (tableName stem n ix.name :: (columnSpecs s ix).map (·.name)) = .ok ()
  objects : s.Apart → ∀ ix ∈ s.indexes,
    db.indexesOf (tableName stem n ix.name) = [indexObject stem n ix]
  tables : IndexesHold stem n s (db.liveRecords n) db
  valid : ∀ row ∈ db.liveRecords n, s.recordFault? row.record = none ∧
    ∀ ix ∈ s.indexes, Bound s ix row.record
  apart : s.Apart ∨ db.liveRecords n = []

/-- The indexes of published schemas. -/
def IndexPublished (db : Database) (n : UInt32) (name : String) : Prop :=
  ∃ T s, Published db T n s ∧ ∃ ix ∈ s.indexes, ix.name = name

structure Coherent (stem : String) (accepted : Record → Prop) (db : Database) : Prop where
  types : TypesSound db
  schemas : SchemasSound db
  records : RecordsSound accepted db.records
  keyed : db.Keyed
  owned : Owned stem (IndexPublished db) db
  holds : ∀ T n s, Published db T n s → TypeHolds stem n s db

theorem coherent_empty (stem : String) (accepted : Record → Prop) : Coherent stem accepted .empty where
  types := ⟨.nil, .nil, by simp [empty]⟩
  schemas := ⟨.nil, by simp [empty]⟩
  records := ⟨.nil, by simp [empty]⟩
  keyed := keyed_empty
  owned := owned_empty stem _
  holds T n s h := by cases h.text

/-- What holds of a schema depends on the records and the tables of its type alone. -/
theorem TypeHolds.congr {stem : String} {n : UInt32} {s : Schema} {db db' : Database}
    (h : TypeHolds stem n s db) (hlive : db'.liveRecords n = db.liveRecords n)
    (htable : ∀ ix ∈ s.indexes,
      db'.table? (tableName stem n ix.name) = db.table? (tableName stem n ix.name))
    (hobject : ∀ ix ∈ s.indexes,
      db'.indexesOf (tableName stem n ix.name) = db.indexesOf (tableName stem n ix.name)) :
    TypeHolds stem n s db' where
  readable := h.readable
  objects hs ix hix := by rw [hobject ix hix, h.objects hs ix hix]
  tables := by
    intro ix hix
    rw [htable ix hix, hlive]
    exact h.tables ix hix
  valid := by
    rw [hlive]
    exact h.valid
  apart := by
    rw [hlive]
    exact h.apart

theorem indexesOf_congr_objects {db db' : Database} (h : db'.indexObjects = db.indexObjects)
    (x : String) : db'.indexesOf x = db.indexesOf x := by
  rw [indexesOf, indexesOf, h]

theorem liveRecords_congr {db db' : Database} (h : db'.records = db.records) (n : UInt32) :
    db'.liveRecords n = db.liveRecords n := by
  rw [liveRecords, liveRecords, h]

theorem Filled.perm {s : Schema} {ix : IndexDefinition} {t : Table}
    {records records' : List RecordRow} (h : Filled s ix t records) (hp : records.Perm records') :
    Filled s ix t records' :=
  h.trans (hp.map _)

theorem IndexesHold.perm {stem : String} {n : UInt32} {s : Schema}
    {records records' : List RecordRow} {db : Database} (h : IndexesHold stem n s records db)
    (hp : records.Perm records') : IndexesHold stem n s records' db := by
  intro ix hix
  obtain ⟨t, ht, hshaped, hfilled⟩ := h ix hix
  exact ⟨t, ht, hshaped, Filled.perm hfilled hp⟩

/-- A table under the number of a type is that of an index of its schema. -/
theorem Coherent.exists_index {stem : String} {accepted : Record → Prop} {db : Database}
    {n : UInt32} {index : String} {t : Table} (h : Coherent stem accepted db)
    (ht : db.table? (tableName stem n index) = some t) :
    ∃ T S ix, Published db T n S ∧ ix ∈ S.indexes ∧
      tableName stem n index = tableName stem n ix.name := by
  obtain ⟨hmem, hsame⟩ := mem_of_table? ht
  obtain ⟨k, other, ⟨T, S, hp, ix, hix, rfl⟩, hname⟩ := h.owned.tables t hmem
  rw [hname] at hsame
  obtain ⟨rfl, hhash⟩ := sameName_tableName.1 hsame
  exact ⟨T, S, ix, hp, hix, tableName_congr stem k hhash.symm⟩

end RecordStore
