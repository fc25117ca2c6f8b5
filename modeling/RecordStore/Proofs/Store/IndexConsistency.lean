import Mathlib
import RecordStore.Proofs.Store.Reached

/-!
The tables of indexes and the records agree in every database that stores of one stem reach.  Indexes
whose names have one hash are no exception: no record can be stored while their schema is published.
-/
namespace RecordStore
open Database Sql Index

/-- A row of an index table carries a record: its number, the value that is bound for the field of
each column, and the quarantine flag. -/
structure Carries (s : Schema) (ix : IndexDefinition) (t : Table) (row : Row) (record : RecordRow) :
    Prop where
  id : (t.source idColumn).cell row = .integer record.id
  /-- A field that the stored record does not have counts as null. -/
  values : ∃ r, storedRecord record.text = .ok r ∧ ∀ c ∈ ix.valueColumns, ∃ a f v,
    s.attribute? c.name = some a ∧ fieldScalar? c.name r = some f ∧ bindColumn a c f = .ok v ∧
    (t.source (columnName c.name)).cell row = Cell.ofValue v
  flag : (t.source quarantinedColumn).cell row =
    .text (if record.state = .quarantined then "Y" else "N")

/-- The tables of the indexes of one type: each is there and has one row for each record that is not
deleted and no other, and each such record fits the schema. -/
structure TypeConsistent (stem : String) (n : UInt32) (s : Schema) (db : Database) : Prop where
  tables : ∀ ix ∈ s.indexes, ∃ t records, db.table? (tableName stem n ix.name) = some t ∧
    records.Perm (db.records.filter fun r => r.typeId == typeWord n && r.state.flag != "Y") ∧
    List.Forall₂ (Carries s ix t) t.rows records
  valid : ∀ record ∈ db.records, record.typeId = typeWord n → record.state.flag ≠ "Y" →
    ∃ r, storedRecord record.text = .ok r ∧ s.recordFault? r = none

structure IndexConsistent (stem : String) (db : Database) : Prop where
  published : ∀ row ∈ db.schemas, ∃ s n, Schema.parse row.text = .ok s ∧
    db.typeId? row.typeName = .ok (some n) ∧ TypeConsistent stem n s db
  /-- A type without a schema has no index table. -/
  unpublished : ∀ typeName n, db.typeId? typeName = .ok (some n) →
    db.schemaText? typeName = none → ∀ name, db.table? (tableName stem n name) = none
  /-- There is no table but those of indexes of published schemas. -/
  owned : ∀ t ∈ db.tables, ∃ row ∈ db.schemas, ∃ s n, Schema.parse row.text = .ok s ∧
    db.typeId? row.typeName = .ok (some n) ∧ ∃ ix ∈ s.indexes,
      t.definition.table = tableName stem n ix.name

/-- The records that stores are given: values that can be read back when they are written. -/
def Readable (r : Record) : Prop :=
  (Json.object r).WellFormed ∧ (Json.object r).depth ≤ Json.maxDepth

section
variable {stem : String} {db : Database} {T : String} {n : UInt32} {s : Schema}
  {ix : IndexDefinition} {t : Table} {row : Row} {record : RecordRow}

theorem storedRecord_of_rowSound (h : RowSound Readable record) :
    storedRecord record.text = .ok record.record := by
  obtain ⟨⟨r, ⟨hr, hd⟩, htext⟩, -, -⟩ := h
  exact storedRecord_of_depth hr hd htext

theorem flag_ne_iff (h : RowSound Readable record) :
    record.state.flag ≠ "Y" ↔ record.state ≠ .deleted := by
  obtain ⟨-, -, hs | hs | hs⟩ := h <;> rw [hs] <;> decide

theorem carries_of_entry (hshaped : Shaped s ix t) (hrecord : RowSound Readable record)
    (hbound : Bound s ix record.record) (hrow : row.cells = entry s ix record) :
    Carries s ix t row record := by
  obtain ⟨hid, hvalues, hflag⟩ := hshaped.entry_cells hrow
  refine ⟨hid, ⟨record.record, storedRecord_of_rowSound hrecord, fun c hc => ?_⟩, ?_⟩
  · obtain ⟨v, hv⟩ := Option.isSome_iff_exists.1 (hbound c hc)
    obtain ⟨a, f, ha, hf, hb⟩ := boundValue?_eq_some.1 hv
    refine ⟨a, f, v, ha, hf, hb, ?_⟩
    rw [hvalues c hc, fieldCell, boundValue_of_eq_some hv]
  · rw [hflag]
    by_cases hq : record.state = .quarantined
    · rw [if_pos hq, hq]
      rfl
    · rw [if_neg hq, beq_eq_false_iff_ne.2 hq]
      rfl

/-- Live records are those whose flag is not that of a deleted one. -/
theorem liveRecords_eq_filter (h : RecordsSound Readable db.records) :
    db.liveRecords n =
      db.records.filter fun r => r.typeId == typeWord n && r.state.flag != "Y" := by
  refine List.filter_congr fun r hr => ?_
  have hflag := flag_ne_iff (h.each r hr)
  rw [← bne_iff_ne, ← bne_iff_ne, ← Bool.eq_iff_iff] at hflag
  rw [hflag]

theorem TypeHolds.consistent (hr : RecordsSound Readable db.records) (h : TypeHolds stem n s db) :
    TypeConsistent stem n s db where
  tables := by
    intro ix hix
    -- without collisions the table is that of the index; otherwise it has no rows
    obtain ⟨t, ht, ⟨jx, hjx, hhash, hshaped⟩, hfilled⟩ := h.tables ix hix
    have hsound (record : RecordRow) (hrecord : record ∈ db.liveRecords n) :
        RowSound Readable record := hr.each record (List.mem_of_mem_filter hrecord)
    obtain ⟨ordered, hperm, hrows⟩ := hfilled.exists_ordered
    have hcarries : List.Forall₂ (Carries s ix t) t.rows ordered := by
      refine hrows.imp ?_
      rintro row record ⟨hcells, hrecord⟩
      rcases h.apart with hs | hnil
      · obtain rfl := hs.eq_of_hash hjx hix hhash
        exact carries_of_entry hshaped (hsound record hrecord)
          ((h.valid record hrecord).2 jx hjx) hcells
      · rw [hnil] at hrecord
        cases hrecord
    refine ⟨t, ordered, ht, ?_, hcarries⟩
    rw [← liveRecords_eq_filter hr]
    exact hperm
  valid := by
    intro record hrecord htype hflag
    have hsound := hr.each record hrecord
    have hlive := mem_liveRecords.2 ⟨hrecord, htype, (flag_ne_iff hsound).1 hflag⟩
    exact ⟨record.record, storedRecord_of_rowSound hsound, (h.valid record hlive).1⟩

/-- A row of the table of schemas publishes a schema. -/
theorem Coherent.published_of_mem {accepted : Record → Prop} (h : Coherent stem accepted db)
    {row : SchemaRow} (hrow : row ∈ db.schemas) :
    ∃ s n, Schema.parse row.text = .ok s ∧ Published db row.typeName n s := by
  obtain ⟨⟨s, htext⟩, n, hn⟩ := h.schemas.each row hrow
  refine ⟨s, n, by rw [htext, Schema.parse_text], ?_, hn⟩
  have hfind : db.schemas.find? (·.typeName == row.typeName) = some row := by
    cases hf : db.schemas.find? (·.typeName == row.typeName) with
    | none => exact absurd (List.find?_eq_none.1 hf row hrow) (by simp)
    | some row' =>
      have hname : row'.typeName = row.typeName := by simpa using List.find?_some hf
      rw [List.inj_on_of_nodup_map h.schemas.names (List.mem_of_find?_eq_some hf) hrow hname]
  rw [schemaText?, hfind, Option.map_some, htext]

/-- Whatever stores of one stem have done to a database, its index tables and its records agree. -/
theorem index_consistent (h : Reached stem Readable db) : IndexConsistent stem db := by
  have hc := coherent_of_reached (fun r hr => hr.1) h
  refine ⟨fun row hrow => ?_, fun T n hn hnone name => ?_, fun t ht => ?_⟩
  · obtain ⟨s, n, hparse, hp⟩ := hc.published_of_mem hrow
    exact ⟨s, n, hparse, hp.number, (hc.holds _ n s hp).consistent hc.records⟩
  · exact hc.table?_eq_none hn hnone name
  · obtain ⟨n, name, ⟨T, s, hp, ix, hix, rfl⟩, hname⟩ := hc.owned.tables t ht
    exact ⟨⟨T, s.text⟩, mem_of_schemaText? hp.text, s, n, Schema.parse_text s, hp.number, ix, hix,
      hname⟩

end

/-! ### A database that is reached -/

def personSchema : Schema where
  attributes := [⟨"age", .i32, none, true, .unchanged⟩]
  indexes := [⟨"by_age", [⟨"age", .ascending, .unchanged⟩], false⟩]
  sound := by decide

/-- Two stores on one database: one publishes the schema, and the other adds a record. -/
def personDatabase : Database :=
  ((Deployment.opened ⟨.default, ⟨"password", "salt", 0, 1⟩⟩ false 2).run
    [(0, .createSchema "person" personSchema),
      (1, .create "person" (.object [("age", .integer ⟨36, by decide, by decide⟩)]))]).2.database

theorem reached_personDatabase : Reached "" Readable personDatabase := by
  refine reached_run (d := .opened ⟨.default, ⟨"password", "salt", 0, 1⟩⟩ false 2)
    .empty fun p hp => ?_
  rcases List.mem_cons.1 hp with rfl | hp
  · exact trivial
  · obtain rfl := List.mem_singleton.1 hp
    intro r hr
    obtain rfl := Option.some.inj hr
    exact ⟨by simp [Json.WellFormed, Json.MembersWellFormed], by decide⟩

theorem index_consistent_person :
    personDatabase.tables.map (·.rows.length) = [1] ∧ IndexConsistent "" personDatabase :=
  ⟨by decide +kernel, index_consistent reached_personDatabase⟩

end RecordStore
