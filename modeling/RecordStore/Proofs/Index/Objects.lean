import Mathlib
import RecordStore.Proofs.Index.Agreement

/-!
Whether all statements on an index name the same table and the same index object.  Some of them write a
name between quote marks as it is; those name what is meant exactly when the stem of the names has no
quote mark in it.
-/
namespace RecordStore.Index
open Sql

/-- What is done to the table and the index object of an index. -/
inductive Command (t : Target)
  | createTable
  | createIndex
  | dropTable
  | dropIndex
  | truncate
  /-- Rows are changed or found. -/
  | rows (r : Request) (h : r.target? = some t)

namespace Command

variable {t : Target}

/-- The statement that does it, where it can be made. -/
def fragments (d : Dialect) : Command t → Except Error (List Fragment)
  | createTable => (Index.createTable t.names t.index t.schema).map (·.fragments d)
  | createIndex => (Index.createIndex t.names t.index t.schema).map (·.fragments)
  | dropTable => .ok (Sql.dropTable t.names.table)
  | dropIndex => .ok (Sql.dropIndex d t.names.index t.names.table)
  | truncate => .ok (Sql.truncate d t.names.table)
  | rows r _ => r.statement.map (·.fragments)

/-- The names that the statement is meant to have in it, in order. -/
def names (d : Dialect) : Command t → List String
  | createTable => t.names.table :: (columnSpecs t.schema t.index).map (·.name)
  | createIndex => t.names.index :: t.names.table :: (indexKeys t.index).map (·.column)
  | dropTable => [t.names.table]
  | dropIndex => if d = .mysql then [t.names.index, t.names.table] else [t.names.index]
  | truncate => [t.names.table]
  | rows r _ => r.names

/-- Whether the statement writes a name as it is. -/
def bare : Command t → Bool
  | createIndex | dropIndex | truncate => true
  | createTable | dropTable | rows _ _ => false

/-- A statement on an index is read as having the names in it that it is meant to have, unless it
writes one of them as it is and the stem of the names has a quote mark in it. -/
theorem identifiers?_iff {stem a : String} {n : UInt32} (ht : t.names = Index.names stem n a)
    (hix : t.index ∈ t.schema.indexes) (c : Command t) (d : Dialect) {fs : List Fragment}
    (hfs : c.fragments d = .ok fs) :
    identifiers? d (render d fs) = some (c.names d) ↔
      (c.bare = true → d.quoteMark ∉ stem.toList) := by
  have htable : t.names.table = tableName stem n a := by rw [ht]; rfl
  have hindex : t.names.index = indexName stem n a := by rw [ht]; rfl
  have htable_last : t.names.table.toList.getLast? ≠ some d.quoteMark :=
    htable ▸ getLast?_append_identifier d (stem ++ "_i_") n a
  have hindex_last : t.names.index.toList.getLast? ≠ some d.quoteMark :=
    hindex ▸ getLast?_append_identifier d (stem ++ "_idx_") n a
  have htable_mark : d.quoteMark ∈ t.names.table.toList ↔ d.quoteMark ∈ stem.toList :=
    htable ▸ quoteMark_mem_tableName d stem n a
  have hindex_mark : d.quoteMark ∈ t.names.index.toList ↔ d.quoteMark ∈ stem.toList :=
    hindex ▸ quoteMark_mem_indexName d stem n a
  have hbare {p q : Prop} (h : p ↔ q) : p ↔ (true = true → q) :=
    h.trans ⟨fun hq _ => hq, fun hq => hq rfl⟩
  cases c with
  | createTable =>
    obtain ⟨table, hmade, rfl⟩ := map_eq_ok.1 hfs
    rw [createTable_of_mem hix t.names] at hmade
    obtain rfl := Except.ok.inj hmade
    exact iff_of_true (identifiers?_createTable t.schema t.index t.names.table d) nofun
  | createIndex =>
    obtain ⟨object, hmade, rfl⟩ := map_eq_ok.1 hfs
    rw [createIndex_of_mem hix t.names] at hmade
    obtain rfl := Except.ok.inj hmade
    exact hbare ((identifiers?_createIndex_iff hindex_last).trans (not_congr hindex_mark))
  | dropTable =>
    obtain rfl := Except.ok.inj hfs
    exact iff_of_true (identifiers?_dropTable d t.names.table) nofun
  | dropIndex =>
    obtain rfl := Except.ok.inj hfs
    -- the name of the table has the same marks in it
    have hmarks : d.quoteMark ∉ t.names.index.toList → d.quoteMark ∉ t.names.table.toList := by
      rw [hindex_mark, htable_mark]
      exact id
    exact hbare ((identifiers?_dropIndex_iff hindex_last hmarks).trans (not_congr hindex_mark))
  | truncate =>
    obtain rfl := Except.ok.inj hfs
    exact hbare ((identifiers?_truncate_iff htable_last).trans (not_congr htable_mark))
  | rows r h =>
    obtain ⟨s, hs, rfl⟩ := map_eq_ok.1 hfs
    refine iff_of_true ((s.identifiers?_prepared d).trans ?_) nofun
    exact congrArg some (Request.names_of_statement hs)

end Command

end RecordStore.Index
