import Mathlib
import RecordStore.Proofs.Query.Correct
import RecordStore.Proofs.Store.Failure

/-!
Whether the tables of a schema have columns that a database can tell apart.  A schema has no attribute
twice and none called like the record number, letter by letter; the database compares names without
regard to case, so what counts is whether the attributes of an index still differ then.
-/
namespace RecordStore
open Sql Database Transaction Index RecordStore.Action

/-- A schema is published unless there is an ordinary reason against it, stored text cannot be read, or
the attributes of an index are not apart. -/
theorem failsOnly_createSchema (s : Store) (T : String) (S : Schema) :
    Action.FailsOnly (fun e => e.Ordinary ∨ (∃ u, e = .serialization u) ∨
      (∃ n, e = .database (.repeatedColumn n)) ∧ ∃ ix ∈ S.indexes, ¬ AttributesApart ix)
      (s.createSchema T S) := by
  have hcheck : RecordStore.FailsOnly Error.Ordinary (checkTypeName T) := by
    unfold checkTypeName
    split
    · exact failsOnly_ok ()
    · exact failsOnly_error trivial
  have hstored : Transaction.FailsOnly (fun e => ∃ u, e = .serialization u) (storedSchema T) := by
    intro db
    unfold storedSchema
    split
    · exact failsOnly_ok _
    · split
      · exact failsOnly_ok _
      · exact failsOnly_error ⟨_, rfl⟩
  refine Action.failsOnly_bind (fun w => hcheck.imp fun _ => .inl) fun _ => ?_
  refine Action.failsOnly_bind (fun w => ?_) fun known => ?_
  · unfold Store.schema
    split
    · exact failsOnly_ok _
    · split
      · next e he => exact failsOnly_error (.inr (.inl (hstored w.database e he)))
      · exact failsOnly_ok _
      · exact failsOnly_ok _
  cases known with
  | some known =>
    dsimp only
    split
    · exact Action.failsOnly_pure ()
    · exact fun w => failsOnly_error (.inl trivial)
  | none =>
    have hregister : Action.FailsOnly Error.Ordinary (Store.typeId T true) := by
      refine Action.failsOnly_bind
        (failsOnly_transact fun db => db.ordinary_typeId T true) fun found => ?_
      split
      · exact Action.failsOnly_pure _
      · exact fun w => failsOnly_error trivial
    refine Action.failsOnly_bind (fun w => (hregister w).imp fun _ => .inl) fun n => ?_
    refine Action.failsOnly_bind (failsOnly_transact ?_) fun _ => fun w => failsOnly_ok ()
    refine (IndexedType.failsOnly_publish ⟨n, T, S⟩ s.settings).imp fun e he => ?_
    exact he.imp_right fun h => h.imp_left fun h => ⟨_, h⟩

/-- The table of an index can be written down for any database, its text names its columns, and the
columns are apart exactly when the attributes of the index are.  So a database refuses the table for a
column that is there twice exactly when they are not, provided it comes to look at the columns, and
publishing a schema fails for that reason only then. -/
theorem columns_distinct_iff {S : Schema} {ix : IndexDefinition} (hix : ix ∈ S.indexes)
    (names : Names) :
    (∃ table, createTable names ix S = .ok table ∧
      (∀ d, identifiers? d (render d (table.fragments d)) =
        some (names.table :: table.columns.map (·.name))) ∧
      table.columns.map (·.name) = idColumn :: (valueNames ix ++ [quarantinedColumn]) ∧
      ((table.columns.map (·.name)).Pairwise (fun a b => sameName a b = false) ↔
        AttributesApart ix) ∧
      ∀ db : Database, (∃ n, db.createTable table = .error (.repeatedColumn n)) ↔
        readNames (names.table :: table.columns.map (·.name)) = .ok () ∧
          reserved names.table = false ∧ db.table? names.table = none ∧ ¬ AttributesApart ix) ∧
      ∀ (s : Store) (T : String) (w : Workspace) (n : String),
        (s.createSchema T S w).1 = .error (.database (.repeatedColumn n)) →
          ∃ jx ∈ S.indexes, ¬ AttributesApart jx := by
  refine ⟨⟨_, createTable_of_mem hix names, identifiers?_createTable S ix names.table,
    columnSpecs_names S ix, columns_apart_iff S ix, fun db => ?_⟩, fun s T w n h => ?_⟩
  · rw [createTable_repeatedColumn_iff, columns_apart_iff]
  · rcases failsOnly_createSchema s T S w _ h with hordinary | ⟨u, hserial⟩ | ⟨-, hindex⟩
    · exact hordinary.elim
    · cases hserial
    · exact hindex

theorem columns_distinct_iff_member :
    memberSchema.indexes[0] ∈ memberSchema.indexes ∧ AttributesApart memberSchema.indexes[0] ∧
      ∃ table, createTable ⟨"m", "m_idx"⟩ memberSchema.indexes[0] memberSchema = .ok table ∧
        (table.columns.map (·.name)).Pairwise fun a b => sameName a b = false := by
  have hix : memberSchema.indexes[0] ∈ memberSchema.indexes := List.getElem_mem _
  have hapart : AttributesApart memberSchema.indexes[0] := by decide +kernel
  obtain ⟨⟨table, htable, -, -, hiff, -⟩, -⟩ := columns_distinct_iff hix ⟨"m", "m_idx"⟩
  exact ⟨hix, hapart, table, htable, hiff.2 hapart⟩

/-- Two attributes whose names differ in the case of a letter. -/
def casedSchema : Schema where
  attributes := [⟨"a", .u8, none, true, .unchanged⟩, ⟨"A", .u8, none, true, .unchanged⟩]
  indexes := [⟨"by_both", [⟨"a", .ascending, .unchanged⟩, ⟨"A", .ascending, .unchanged⟩], false⟩]
  sound := by decide

/-- The schema is a valid one, its only index has two columns that are the same, and no store can publish
it. -/
theorem cased_schema_unpublishable :
    (columnSpecs casedSchema casedSchema.indexes[0]).map (·.name) =
        ["_id", "_a", "_A", "quarantined"] ∧ sameName "_a" "_A" = true ∧
      (memberStore.createSchema "t" casedSchema ⟨.empty, .fresh⟩).1 =
        .error (.database (.repeatedColumn "_a")) := by
  decide +kernel

end RecordStore
