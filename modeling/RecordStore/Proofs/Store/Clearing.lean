import Mathlib
import RecordStore.Proofs.Index.Objects
import RecordStore.Proofs.Query.Correct
import RecordStore.Proofs.Store.Progress
import RecordStore.Proofs.Store.Sharing

/-!
Whether clearing a type empties its index tables.  The statement that empties a table writes the name
of the table as it is, so under a stem with a quote mark it is about no table that there is, and a type
with an index cannot be cleared.
-/
namespace RecordStore
open Sql Database Transaction Index RecordStore.Action

attribute [local irreducible] tableName indexName

section
variable {accepted : Record → Prop} {db db' : Database} {T : String} {n : UInt32} {S : Schema}
  {s : StoreSettings} {k : Nat}

/-- Clearing a type with a schema empties the tables of the schema by one statement each. -/
theorem truncateAll_of_clearType (hc : Coherent s.stem accepted db) (hp : Published db T n S)
    (h : clearType s n T db = .ok (k, db')) :
    IndexedType.truncateAll ⟨n, T, S⟩ s (db.clearRecords (typeWord n)).2 = .ok ((), db') := by
  obtain ⟨schema, -, hfinds, hfollows⟩ := clearType_eq_ok h
  rcases hc.schemas.published_of_finds hp.number hfinds with ⟨-, hnone⟩ | ⟨S', rfl, hp'⟩
  · exact absurd hp (hnone S)
  · obtain ⟨-, rfl⟩ := hp.unique hp'
    rcases hfollows with ⟨hnone, -⟩ | ⟨S', hS, htruncate⟩
    · cases hnone
    · obtain rfl := Option.some.inj hS
      exact htruncate

/-- Clearing a type touches the tables of its schema and no others. -/
theorem table?_of_clearType (hc : Coherent s.stem accepted db) (hp : Published db T n S)
    (h : clearType s n T db = .ok (k, db')) (x : String) :
    db'.table? x = (db.table? x).map fun t =>
      if S.indexes.any (fun ix => sameName (tableName s.stem n ix.name) x) then
        { t with rows := [] } else t := by
  have howned : Owned s.stem (IndexPublished db) (db.clearRecords (typeWord n)).2 :=
    ⟨hc.owned.tables, hc.owned.objects⟩
  obtain ⟨-, -, htables⟩ := IndexedType.forM_truncate (t := ⟨n, T, S⟩) (hc.keyed.withRecords _) howned
    (truncateAll_of_clearType hc hp h)
  exact htables x

/-- A type with an index is cleared only under a stem without quote marks: the first statement finds a
table. -/
theorem quote_not_mem_of_clearType (hc : Coherent s.stem accepted db) (hp : Published db T n S)
    (hne : S.indexes ≠ []) (h : clearType s n T db = .ok (k, db')) : '"' ∉ s.stem.toList := by
  obtain ⟨ix, ixs, hixs⟩ := List.exists_cons_of_ne_nil hne
  have htruncate := truncateAll_of_clearType hc hp h
  rw [IndexedType.truncateAll] at htruncate
  simp only [hixs] at htruncate
  obtain ⟨db₁, hfirst, -⟩ := forM_cons_eq_ok.1 htruncate
  -- the table that the bare name is read as is there, and all tables have names under the stem
  obtain ⟨read, t, hread, ht, -⟩ := truncate_eq_ok (apply_eq_ok.1 hfirst)
  obtain ⟨hmem, hsame⟩ := mem_of_table? ht
  obtain ⟨m, other, -, hname⟩ := hc.owned.tables t hmem
  rw [hname, sameName_comm] at hsame
  exact quote_not_mem_of_readBare? hread hsame

theorem clear_of_typeId? {s : Store} {w : Workspace} (hn : w.database.typeId? T = .ok (some n)) :
    s.clear T w = transact (RecordStore.clearType s.settings n T) w :=
  Action.bind_of_ok (congrArg (·, w) hn : Store.typeId? T w = (.ok (some n), w))

end

/-- All statements on an index are read, by the rules of any dialect, as naming the table, the index
object and the columns that are meant, but for those that write a name as it is: making and removing an
index object and emptying a table.  They are read so exactly when the stem of the names has no quote
mark in it.  So a type with an index can be cleared exactly under such a stem; then the tables of its
indexes lose their rows, and the other tables are as they were. -/
theorem clear_reaches_tables_iff {stem : String} :
    (∀ (t : Target) (n : UInt32) (a : String), t.names = names stem n a →
      t.index ∈ t.schema.indexes → ∀ (c : Command t) (d : Dialect) (fs : List Fragment),
        c.fragments d = .ok fs → (identifiers? d (render d fs) = some (c.names d) ↔
          (c.bare = true → d.quoteMark ∉ stem.toList))) ∧
      ∀ (s : Store) (w : Workspace) (T : String) (n : UInt32) (S : Schema), s.settings.stem = stem →
        Reached stem Formed w.database → Published w.database T n S → S.indexes ≠ [] →
          ((∃ k, (s.clear T w).1 = .ok k) ↔ '"' ∉ stem.toList) ∧
            ∀ k, (s.clear T w).1 = .ok k → ∀ x,
              (s.clear T w).2.database.table? x = (w.database.table? x).map fun t =>
                if S.indexes.any (fun ix => sameName (tableName stem n ix.name) x) then
                  { t with rows := [] } else t := by
  refine ⟨fun t n a ht hix c d fs hfs => c.identifiers?_iff ht hix d hfs,
    fun s w T n S hs hreached hp hne => ?_⟩
  obtain rfl := hs
  have hc : Coherent s.settings.stem Formed w.database := coherent_of_reached (fun _ h => h) hreached
  rw [clear_of_typeId? hp.number]
  have hrun (k : Nat) (hk : (transact (RecordStore.clearType s.settings n T) w).1 = .ok k) :
      ∃ db', RecordStore.clearType s.settings n T w.database = .ok (k, db') ∧
        (transact (RecordStore.clearType s.settings n T) w).2.database = db' := by
    obtain ⟨db', hdb', hw⟩ := transact_eq_ok_iff.1 (Prod.ext hk rfl)
    exact ⟨db', hdb', congrArg Workspace.database hw⟩
  refine ⟨⟨?_, fun hstem => ?_⟩, fun k hk x => ?_⟩
  · rintro ⟨k, hk⟩
    obtain ⟨db', hdb', -⟩ := hrun k hk
    exact quote_not_mem_of_clearType hc hp hne hdb'
  · obtain ⟨k, db', hdb'⟩ := hc.clearType_ok rfl hstem hp.number
    exact ⟨k, congrArg Prod.fst (transact_of_ok hdb')⟩
  · obtain ⟨db', hdb', hdatabase⟩ := hrun k hk
    rw [hdatabase]
    exact table?_of_clearType hc hp hdb' x

theorem clear_reaches_tables_iff_member :
    identifiers? .sqlite (render .sqlite (truncate .sqlite (tableName "" 1 "by_age"))) =
        some [tableName "" 1 "by_age"] ∧
      (∃ k, (memberStore.clear "member" memberWorkspace).1 = .ok k) ∧
      ∀ t, (memberStore.clear "member" memberWorkspace).2.database.table?
        (tableName "" 1 "by_age") = some t → t.rows = [] := by
  obtain ⟨hread, hclear⟩ := @clear_reaches_tables_iff ""
  have htruncate := (hread ⟨"member", memberSchema, memberSchema.indexes[1], names "" 1 "by_age"⟩ 1
    "by_age" rfl (List.getElem_mem _) .truncate .sqlite _ rfl).2 fun _ => by decide
  obtain ⟨hok, hemptied⟩ := hclear memberStore memberWorkspace "member" 1 memberSchema rfl
    reachedAlone_memberWorkspace.reached published_memberSchema (by decide)
  obtain ⟨k, hk⟩ := hok.2 (by decide)
  refine ⟨htruncate, ⟨k, hk⟩, fun t ht => ?_⟩
  have hnamed : memberSchema.indexes.any (fun ix =>
      sameName (tableName "" 1 ix.name) (tableName "" 1 "by_age")) = true :=
    List.any_eq_true.2 ⟨memberSchema.indexes[1], List.getElem_mem _, sameName_self _⟩
  rw [hemptied k hk, hnamed] at ht
  obtain ⟨u, -, rfl⟩ := Option.map_eq_some_iff.1 ht
  rfl

/-- A store whose stem has two quote marks in it. -/
def twoMarkStore : Store := { memberStore with settings := ⟨"a\"\"b", 10⟩ }

/-- The store after a schema was published and a record added. -/
def twoMarkWorkspace : Workspace :=
  (twoMarkStore.perform (.create "t" (.object []))
    (twoMarkStore.perform (.createSchema "t" flagSchema) ⟨.empty, .fresh⟩).2).2

/-- The statement that empties the table is read as being about another one.  The schema is published
and the record added, and the type cannot be cleared. -/
theorem doubled_stem_uncleared :
    identifiers? .sqlite (render .sqlite (truncate .sqlite (tableName "a\"\"b" 1 "by_flag"))) =
        some [tableName "a\"b" 1 "by_flag"] ∧
      (twoMarkWorkspace.database.table? (tableName "a\"\"b" 1 "by_flag")).map (·.rows.length) =
        some 1 ∧
      (twoMarkStore.clear "t" twoMarkWorkspace).1 =
        .error (.database (.missingTable (tableName "a\"b" 1 "by_flag"))) := by
  decide +kernel

end RecordStore
