import Mathlib
import RecordStore.Proofs.Index.Failures
import RecordStore.Proofs.Query.Answer
import RecordStore.Proofs.Sql.Identifiers
import RecordStore.Proofs.Sql.Statements

/-!
The columns of the table of an index.  The table and the index object can always be written down, the
text of each has their names and no others, and two columns are the same to the database exactly when
the names of two attributes differ in the case of letters only.
-/
namespace RecordStore
open Sql Database

/-! ### Names that are the same to a database -/

namespace Database

theorem repeatedName?_eq_none_iff {names : List String} :
    repeatedName? names = none ↔ names.Pairwise fun a b => sameName a b = false := by
  refine ⟨pairwise_of_repeatedName?, fun h => ?_⟩
  induction h with
  | nil => rfl
  | @cons n ns hn _ ih =>
    have hany : ns.any (sameName n) = false := by simpa using hn
    rw [repeatedName?, hany, if_neg Bool.false_ne_true, ih]

/-- When a database refuses a table for a column that stands there twice. -/
theorem createTable_repeatedColumn_iff (db : Database) (t : CreateTable) :
    (∃ n, db.createTable t = .error (.repeatedColumn n)) ↔
      readNames (t.table :: t.columns.map (·.name)) = .ok () ∧ reserved t.table = false ∧
        db.table? t.table = none ∧
        ¬ (t.columns.map (·.name)).Pairwise fun a b => sameName a b = false := by
  rw [← repeatedName?_eq_none_iff, Database.createTable]
  cases hread : readNames (t.table :: t.columns.map (·.name)) with
  | error f =>
    have hf : ∀ n, f ≠ .repeatedColumn n := by
      intro n
      rintro rfl
      unfold readNames at hread
      split at hread <;> cases hread
    simp [bind, Except.bind, hf]
  | ok u =>
    cases hreserved : reserved t.table with
    | true => simp [bind, Except.bind]
    | false =>
      cases htable : db.table? t.table with
      | some u => simp [bind, Except.bind]
      | none => cases repeatedName? (t.columns.map (·.name)) <;> simp [bind, Except.bind]

end Database

namespace Index

theorem sameName_columnName (a b : String) :
    sameName (columnName a) (columnName b) = sameName a b := by
  rw [Bool.eq_iff_iff, sameName_iff, sameName_iff]
  simp [columnName]

theorem sameName_columnName_quarantined (a : String) :
    sameName (columnName a) quarantinedColumn = false := by
  rw [Bool.eq_false_iff, Ne, sameName_iff, columnName, String.toList_append, List.map_append]
  intro h
  have hhead : some '_' = some 'q' := congrArg List.head? h
  cases hhead

/-- The attributes of an index, the record number among them, have names that differ in more than the
case of letters. -/
def AttributesApart (ix : IndexDefinition) : Prop :=
  (idAttribute :: ix.valueColumns.map (·.name)).Pairwise fun a b => sameName a b = false

instance (ix : IndexDefinition) : Decidable (AttributesApart ix) :=
  inferInstanceAs (Decidable (List.Pairwise _ _))

variable {s : Schema} {ix : IndexDefinition}

theorem columnNames_eq_map (s : Schema) (ix : IndexDefinition) : (columnSpecs s ix).map (·.name) =
    (idAttribute :: ix.valueColumns.map (·.name)).map columnName ++ [quarantinedColumn] := by
  rw [columnSpecs_names, List.map_cons, List.map_map]
  rfl

/-- Neither the mark in front of a column name nor the flag of quarantined records makes two columns
the same, and neither keeps two names apart. -/
theorem columns_apart_iff (s : Schema) (ix : IndexDefinition) :
    ((columnSpecs s ix).map (·.name)).Pairwise (fun a b => sameName a b = false) ↔
      AttributesApart ix := by
  have hflag : ∀ c ∈ (idAttribute :: ix.valueColumns.map (·.name)).map columnName,
      sameName c quarantinedColumn = false := by
    intro c hc
    obtain ⟨a, -, rfl⟩ := List.mem_map.1 hc
    exact sameName_columnName_quarantined a
  rw [columnNames_eq_map, List.pairwise_append, AttributesApart, List.pairwise_map]
  simp only [sameName_columnName, List.mem_singleton, forall_eq, List.pairwise_singleton, true_and]
  exact and_iff_left hflag

/-- No column of the table of an index stands there twice. -/
theorem columnNames_nodup (hix : ix ∈ s.indexes) : ((columnSpecs s ix).map (·.name)).Nodup := by
  -- the record number is no attribute of a value column, wherever the index declares it
  have hattributes : (idAttribute :: ix.valueColumns.map (·.name)).Nodup := by
    refine List.nodup_cons.2 ⟨fun hid => ?_, ?_⟩
    · obtain ⟨c, hc, hname⟩ := List.mem_map.1 hid
      have hvalue : c.isId = false := by simpa using (List.mem_filter.1 hc).2
      rw [IndexColumn.isId, hname] at hvalue
      cases hvalue
    · exact (Schema.indexSound hix).names_nodup.sublist (List.filter_sublist.map _)
  have hinjective : Function.Injective columnName := fun a b h => by
    simpa [columnName, String.ext_iff] using h
  have hflag : quarantinedColumn ∉ (idAttribute :: ix.valueColumns.map (·.name)).map columnName := by
    intro h
    obtain ⟨a, -, ha⟩ := List.mem_map.1 h
    have hapart := sameName_columnName_quarantined a
    rw [ha, sameName_self] at hapart
    cases hapart
  rw [columnNames_eq_map]
  exact (hattributes.map hinjective).append (List.nodup_singleton _)
    (List.disjoint_singleton.2 hflag)

/-! ### Tables and index objects that can be written down -/

theorem createTable_of_mem (hix : ix ∈ s.indexes) (names : Names) :
    createTable names ix s = .ok ⟨names.table, columnSpecs s ix, []⟩ := by
  -- the only error would be an attribute that is not there
  have hok : FailsOnly (fun _ => False) (createTable names ix s) := by
    refine failsOnly_bind (failsOnly_mapM fun c hc => ?_) fun specs _ => failsOnly_ok _
    obtain ⟨a, ha, -⟩ := requireAttribute_of_column hix hc
    rw [attributeSpec, ha]
    exact failsOnly_ok _
  obtain ⟨table, htable⟩ := hok.exists_ok
  rw [htable, createTable_eq_ok htable]

theorem createIndex_of_mem (hix : ix ∈ s.indexes) (names : Names) :
    createIndex names ix s = .ok ⟨names.index, names.table, ix.unique, indexKeys ix⟩ := by
  have hok : FailsOnly (fun _ => False) (createIndex names ix s) := by
    refine failsOnly_bind (failsOnly_mapM fun c hc => ?_) fun keys _ => failsOnly_ok _
    obtain ⟨a, ha, -⟩ := requireAttribute_of_column hix hc
    rw [attributeKey, ha]
    exact failsOnly_ok _
  obtain ⟨object, hobject⟩ := hok.exists_ok
  rw [hobject, createIndex_eq_ok hobject]

/-- The columns of an index object are columns of its table. -/
theorem indexKeys_subset (s : Schema) (ix : IndexDefinition) :
    ∀ k ∈ indexKeys ix, k.column ∈ (columnSpecs s ix).map (·.name) := by
  intro k hk
  have hkey : k ∈ ix.valueColumns.map (fun c => SortKey.mk (columnName c.name) c.direction) ∨
      k.column = idColumn := by
    unfold indexKeys at hk
    simp only at hk
    split at hk
    · exact .inl hk
    · refine (List.mem_append.1 hk).imp_right fun hid => ?_
      rw [List.mem_singleton.1 hid]
  rw [columnSpecs_names]
  rcases hkey with hvalue | hid
  · obtain ⟨c, hc, rfl⟩ := List.mem_map.1 hvalue
    exact List.mem_cons_of_mem _ (List.mem_append_left _
      (List.mem_map_of_mem (f := fun c : IndexColumn => columnName c.name) hc))
  · rw [hid]
    exact List.mem_cons_self

/-! ### Their texts -/

/-- Every column of the table of an index has one of the types of attributes. -/
theorem exists_valueSpec (s : Schema) (c : IndexColumn) :
    ∃ type : AttributeType, valueSpec s c = .plain (columnName c.name) type.columnType := by
  unfold valueSpec
  cases s.attribute? c.name with
  | none => exact ⟨.longText, rfl⟩
  | some a => exact ⟨a.type, rfl⟩

theorem scannable_column {spec : ColumnSpec} {d : Dialect}
    (h : ((spec.fragments d).tail.all fun f => f.neutral && f.parts) = true) :
    Scannable (spec.fragments d) := by
  have hwords := List.all_eq_true.1 h _ List.mem_cons_self
  rw [Bool.and_eq_true] at hwords
  refine .name ?_ (.word hwords.1 .nil)
  rintro f ⟨⟩
  exact hwords.2

theorem scannable_columnSpec (d : Dialect) {spec : ColumnSpec} (h : spec ∈ columnSpecs s ix) :
    Scannable (spec.fragments d) := by
  have hplain (type : AttributeType) : (((ColumnSpec.plain "" type.columnType).fragments d).tail.all
      fun f => f.neutral && f.parts) = true := by
    cases type <;> cases d <;> decide
  rcases List.mem_cons.1 h with rfl | h
  · exact scannable_column (by cases d <;> decide)
  rcases List.mem_append.1 h with h | h
  · obtain ⟨c, -, rfl⟩ := List.mem_map.1 h
    obtain ⟨type, htype⟩ := exists_valueSpec s c
    rw [htype]
    exact scannable_column (hplain type)
  · rw [List.mem_singleton.1 h]
    exact scannable_column (by cases d <;> decide)

/-- The text that makes the table of an index names the table and its columns in order. -/
theorem identifiers?_createTable (s : Schema) (ix : IndexDefinition) (table : String) (d : Dialect) :
    identifiers? d (render d (CreateTable.fragments d ⟨table, columnSpecs s ix, []⟩)) =
      some (table :: (columnSpecs s ix).map (·.name)) := by
  let groups := (columnSpecs s ix).map (·.fragments d)
  have hgroups : ∀ fs ∈ groups, Scannable fs := by
    intro fs hfs
    obtain ⟨spec, hspec, rfl⟩ := List.mem_map.1 hfs
    exact scannable_columnSpec d hspec
  have hend : ∃ w, (Fragment.verbatim w).neutral = true ∧ (Fragment.verbatim w).parts = true ∧
      CreateTable.fragments d ⟨table, columnSpecs s ix, []⟩ =
        .verbatim "CREATE TABLE IF NOT EXISTS " :: .name table :: .verbatim " ( " ::
          (separated ", " groups ++ [.verbatim w]) := by
    refine ⟨if d = .mysql then
      " ) ENGINE=InnoDB DEFAULT CHARSET=utf8mb4 COLLATE=utf8mb4_bin" else " )", ?_, ?_, ?_⟩
    · cases d <;> decide
    · cases d <;> decide
    · simp [CreateTable.fragments, CreateTable.definition, groups]
  -- the columns are the groups between the commas
  obtain ⟨w, hneutral, hparts, hfragments⟩ := hend
  have hlist : Scannable (separated ", " groups ++ [.verbatim w]) :=
    (Scannable.separated (by decide) (by decide) hgroups).append (.word hneutral .nil)
      fun f hf => Option.some.inj hf ▸ hparts
  have hscannable : Scannable (CreateTable.fragments d ⟨table, columnSpecs s ix, []⟩) := by
    rw [hfragments]
    refine .word (by decide) (.name ?_ (.word (by decide) hlist))
    rintro f ⟨⟩
    decide
  have hnames : groups.flatMap (List.filterMap Fragment.name?) =
      (columnSpecs s ix).map (·.name) := by
    rw [List.flatMap_map, List.map_eq_flatMap]
    rfl
  rw [identifiers?_render hscannable, hfragments]
  show some (table :: (separated ", " groups ++ [Fragment.verbatim w]).filterMap Fragment.name?) = _
  rw [List.filterMap_append, filterMap_separated rfl, hnames]
  exact congrArg (fun ns => some (table :: ns)) (List.append_nil _)

/-- What an index object is made with, behind its own name. -/
theorem writes_createIndex (table : String) (keys : List SortKey) :
    ∃ blank, Writes ([.verbatim " ON ", .name table, .verbatim " ("] ++
      separated ", " (keys.map SortKey.fragments) ++ [.verbatim ")"]) blank
      (table :: keys.map (·.column)) [] := by
  have htable := (Writes.word (t := " ON ") (by decide)).append (.name table "")
    (apartFrom_of_closes (by decide) [] _)
  have hopen := htable.append (.word (t := " (") (by decide)) (apartFrom_of_opens (by decide) _ _)
  have hkeys := hopen.append (.separated ", " keys (by decide) (by decide) (by decide)
    fun k _ => SortKey.writes k) (apartFrom_of_closes (by decide) _ _)
  have hwhole := hkeys.append (.word (t := ")") (by decide)) (apartFrom_of_opens (by decide) _ _)
  have hnone : keys.flatMap (fun _ => ([] : List Value)) = [] :=
    List.flatMap_eq_nil_iff.2 fun _ _ => rfl
  rw [hnone, ← List.map_eq_flatMap] at hwhole
  exact ⟨_, by simpa using hwhole⟩

/-- The text that makes an index object names it, its table and its columns in order, exactly when no
quote mark is inside its own name. -/
theorem identifiers?_createIndex_iff {o : CreateIndex} {d : Dialect}
    (hlast : o.index.toList.getLast? ≠ some d.quoteMark) :
    identifiers? d (render d o.fragments) = some (o.index :: o.table :: o.columns.map (·.column)) ↔
      d.quoteMark ∉ o.index.toList := by
  obtain ⟨blank, hwrites⟩ := writes_createIndex o.table o.columns
  obtain ⟨w, hneutral, hfragments⟩ : ∃ w, (Fragment.verbatim w).neutral = true ∧ o.fragments =
      .verbatim w :: .bareName o.index :: ([.verbatim " ON ", .name o.table, .verbatim " ("] ++
        separated ", " (o.columns.map SortKey.fragments) ++ [.verbatim ")"]) :=
    ⟨_, by cases o.unique <;> decide, rfl⟩
  have hmeant := filterMap_meant? ([.verbatim " ON ", .name o.table, .verbatim " ("] ++
    separated ", " (o.columns.map SortKey.fragments) ++ [.verbatim ")"])
  rw [hwrites.legible.map_doubled, hwrites.names] at hmeant
  rw [hfragments, ← hmeant]
  refine identifiers?_bareName_iff ?_ hlast fun _ s hs => ?_
  · rw [List.map_cons, List.map_cons, hwrites.legible.map_doubled]
    refine .word hneutral (.name ?_ (.of_legible hwrites.legible))
    rintro f ⟨⟩
    decide
  · cases hwrites.legible.plain _ hs

theorem identifiers?_dropTable (d : Dialect) (table : String) :
    identifiers? d (render d (dropTable table)) = some [table] := by
  have hscannable : Scannable (dropTable table) := .word (by decide) (.name nofun .nil)
  exact identifiers?_render hscannable d

/-- The text that drops an index object names it exactly when no quote mark is inside its name.  MySQL has
to be told the table too, whose name must then be free of the mark as well. -/
theorem identifiers?_dropIndex_iff {index table : String} {d : Dialect}
    (hlast : index.toList.getLast? ≠ some d.quoteMark)
    (htable : d.quoteMark ∉ index.toList → d.quoteMark ∉ table.toList) :
    identifiers? d (render d (dropIndex d index table)) =
      some (if d = .mysql then [index, table] else [index]) ↔ d.quoteMark ∉ index.toList := by
  have halone : Scannable [.verbatim "DROP INDEX IF EXISTS ", .name index] :=
    .word (by decide) (.name nofun .nil)
  cases d with
  | sqlite => exact identifiers?_bareName_iff halone hlast nofun
  | postgres => exact identifiers?_bareName_iff halone hlast nofun
  | mysql =>
    have hboth : Scannable [.verbatim "DROP INDEX ", .name index, .verbatim " ON ",
        .name table] := by
      refine .word (by decide) (.name ?_ (.word (by decide) (.name nofun .nil)))
      rintro f ⟨⟩
      decide
    refine identifiers?_bareName_iff hboth hlast fun hnone s hs => ?_
    have hname : s = table := by simpa using hs
    exact hname ▸ htable hnone

theorem identifiers?_truncate_iff {table : String} {d : Dialect}
    (hlast : table.toList.getLast? ≠ some d.quoteMark) :
    identifiers? d (render d (truncate d table)) = some [table] ↔ d.quoteMark ∉ table.toList := by
  have hrows : Scannable [.verbatim "DELETE FROM ", .name table] :=
    .word (by decide) (.name nofun .nil)
  have htruncate : Scannable [.verbatim "TRUNCATE TABLE ", .name table] :=
    .word (by decide) (.name nofun .nil)
  cases d with
  | sqlite => exact identifiers?_bareName_iff hrows hlast nofun
  | postgres => exact identifiers?_bareName_iff htruncate hlast nofun
  | mysql => exact identifiers?_bareName_iff htruncate hlast nofun

end Index

end RecordStore
