import Mathlib
import RecordStore.Proofs.Database.Numbers

/-!
What the statements of a database do to its tables.  Each works on one table and leaves the others as
they are, and none lets two tables share a name or two rows share a number or a key that has to be
unique.
-/
namespace RecordStore.Database
open Sql

/-! ### Tables by name -/

theorem mem_of_table? {db : Database} {name : String} {t : Table} (h : db.table? name = some t) :
    t ∈ db.tables ∧ sameName t.definition.table name = true :=
  ⟨List.mem_of_find?_eq_some h, by simpa using List.find?_some h⟩

theorem table?_congr (db : Database) {a b : String} (h : sameName a b = true) :
    db.table? a = db.table? b := by
  unfold table?
  congr 1
  funext t
  rw [sameName_comm, sameName_comm _ b, sameName_congr h]

theorem indexesOf_congr (db : Database) {a b : String} (h : sameName a b = true) :
    db.indexesOf a = db.indexesOf b := by
  unfold indexesOf
  congr 1
  funext o
  rw [sameName_comm, sameName_comm _ b, sameName_congr h]

theorem uniquesOf_congr (db : Database) {a b : String} (h : sameName a b = true) :
    db.uniquesOf a = db.uniquesOf b := by
  unfold uniquesOf
  rw [indexesOf_congr db h]

/-- The table that stands in the place of another one when a third is set. -/
def replaced (t u : Table) : Table :=
  if sameName u.definition.table t.definition.table then t else u

theorem setTable_tables (db : Database) (t : Table) :
    (db.setTable t).tables = db.tables.map (replaced t) := rfl

theorem sameName_replaced (t u : Table) (name : String) :
    sameName (replaced t u).definition.table name = sameName u.definition.table name := by
  unfold replaced
  split
  · next h => exact (sameName_congr h name).symm
  · rfl

theorem table?_setTable (db : Database) (t : Table) (name : String) :
    (db.setTable t).table? name = (db.table? name).map (replaced t) := by
  have hsame : (fun u : Table => sameName u.definition.table name) ∘ replaced t =
      fun u => sameName u.definition.table name := funext fun u => sameName_replaced t u name
  simp only [table?, setTable_tables, List.find?_map, hsame]

theorem table?_setTable_same {db : Database} {t : Table} {name : String}
    (h : sameName t.definition.table name = true) (hs : (db.table? name).isSome = true) :
    (db.setTable t).table? name = some t := by
  obtain ⟨u, hu⟩ := Option.isSome_iff_exists.1 hs
  have hname := (mem_of_table? hu).2
  rw [table?_setTable, hu, Option.map_some, replaced, if_pos]
  rw [sameName_comm] at h
  exact sameName_trans hname h

theorem table?_setTable_other {db : Database} {t : Table} {name : String}
    (h : sameName t.definition.table name = false) :
    (db.setTable t).table? name = db.table? name := by
  rw [table?_setTable]
  cases hu : db.table? name with
  | none => rfl
  | some u =>
    have hname := (mem_of_table? hu).2
    rw [Option.map_some, replaced, if_neg]
    intro hs
    rw [sameName_comm] at hs
    rw [sameName_trans hs hname] at h
    cases h

/-! ### Statements -/

theorem reach_eq_ok {db : Database} {table : String} {columns : List String} {t : Table}
    (h : db.reach table columns = .ok t) : db.table? table = some t := by
  obtain ⟨-, -, h⟩ := bind_eq_ok.1 h
  cases ht : db.table? table with
  | none => rw [ht] at h; cases h
  | some u => rw [ht] at h; rw [Except.ok.inj h]

theorem insert_eq_ok {db db' : Database} {s : Insert} (h : db.insert s = .ok db') :
    ∃ t t', db.table? s.table = some t ∧ t.insert (db.uniquesOf s.table) s = .ok t' ∧
      db' = db.setTable t' := by
  obtain ⟨t, ht, h⟩ := bind_eq_ok.1 h
  obtain ⟨t', ht', h⟩ := bind_eq_ok.1 h
  exact ⟨t, t', reach_eq_ok ht, ht', (Except.ok.inj h).symm⟩

theorem update_eq_ok {db db' : Database} {s : Update} (h : db.update s = .ok db') :
    ∃ t t', db.table? s.table = some t ∧ t.update (db.uniquesOf s.table) s = .ok t' ∧
      db' = db.setTable t' := by
  obtain ⟨t, ht, h⟩ := bind_eq_ok.1 h
  obtain ⟨t', ht', h⟩ := bind_eq_ok.1 h
  exact ⟨t, t', reach_eq_ok ht, ht', (Except.ok.inj h).symm⟩

theorem delete_eq_ok {db db' : Database} {s : Delete} (h : db.delete s = .ok db') :
    ∃ t, db.table? s.table = some t ∧ db' = db.setTable (t.delete s) := by
  obtain ⟨t, ht, h⟩ := bind_eq_ok.1 h
  exact ⟨t, reach_eq_ok ht, (Except.ok.inj h).symm⟩

theorem truncate_eq_ok {db db' : Database} {name : String} (h : db.truncate name = .ok db') :
    ∃ read t, readBare? name = some read ∧ db.table? read = some t ∧
      db' = db.setTable { t with rows := [] } := by
  unfold truncate at h
  split at h
  · cases h
  · next read hread =>
    split at h
    · cases h
    · next t ht => exact ⟨read, t, hread, ht, (Except.ok.inj h).symm⟩

theorem pairwise_of_repeatedName? {names : List String} (h : repeatedName? names = none) :
    names.Pairwise fun a b => sameName a b = false := by
  induction names with
  | nil => exact .nil
  | cons n ns ih =>
    unfold repeatedName? at h
    split at h
    · cases h
    · next hany =>
      simp only [List.any_eq_true, not_exists, not_and, Bool.not_eq_true] at hany
      exact .cons hany (ih h)

/-- A table is made unless there is one of its name, which then stays. -/
theorem createTable_eq_ok {db db' : Database} {s : CreateTable} (h : db.createTable s = .ok db') :
    readNames (s.table :: s.columns.map (·.name)) = .ok () ∧
      ((db.table? s.table).isSome = true ∧ db' = db ∨
        db.table? s.table = none ∧ db' = { db with tables := db.tables ++ [⟨s, []⟩] } ∧
          (s.columns.map (·.name)).Pairwise fun a b => sameName a b = false) := by
  obtain ⟨⟨⟩, hread, h⟩ := bind_eq_ok.1 h
  refine ⟨hread, ?_⟩
  split at h
  · cases h
  · split at h
    · next hs => exact .inl ⟨hs, (Except.ok.inj h).symm⟩
    · next hs =>
      split at h
      · cases h
      · next hr =>
        rw [Option.not_isSome_iff_eq_none] at hs
        exact .inr ⟨hs, (Except.ok.inj h).symm, pairwise_of_repeatedName? hr⟩

theorem createIndex_eq_ok {db db' : Database} {s : CreateIndex} (h : db.createIndex s = .ok db') :
    ∃ name t, readBare? s.index = some name ∧ db.table? s.table = some t ∧
      readNames (s.table :: s.columns.map (·.column)) = .ok () ∧
      (s.unique = true → t.distinctBy (s.columns.map (·.column)) t.rows = true) ∧
      db' = { db with indexObjects := db.indexObjects ++ [⟨name, s⟩] } := by
  unfold createIndex at h
  split at h
  · cases h
  · next name hname =>
    obtain ⟨⟨⟩, hread, h⟩ := bind_eq_ok.1 h
    split at h
    · cases h
    · split at h
      · cases h
      · split at h
        · cases h
        · next t ht =>
          split at h
          · cases h
          · split at h
            · cases h
            · next hunique =>
              refine ⟨name, t, hname, ht, hread, fun hu => ?_, (Except.ok.inj h).symm⟩
              simpa [hu] using hunique

theorem dropTable_eq_ok {db db' : Database} {name : String} (h : db.dropTable name = .ok db') :
    db' = { db with
      tables := db.tables.filter fun t => !sameName t.definition.table name
      indexObjects := db.indexObjects.filter fun o => !sameName o.definition.table name } := by
  obtain ⟨-, -, h⟩ := bind_eq_ok.1 h
  exact (Except.ok.inj h).symm

theorem dropIndex_eq_ok {db db' : Database} {index : String} (h : db.dropIndex index = .ok db') :
    ∃ name, readBare? index = some name ∧ db' =
      { db with indexObjects := db.indexObjects.filter fun o => !sameName o.name name } := by
  unfold dropIndex at h
  split at h
  · cases h
  · next name hname => exact ⟨name, hname, (Except.ok.inj h).symm⟩

/-! ### Names and keys stay unique -/

/-- No two tables share a name, and no two rows of one share a key that has to be unique.  Rows stand
by their numbers. -/
structure Keyed (db : Database) : Prop where
  names : db.tables.Pairwise fun t u => sameName t.definition.table u.definition.table = false
  keys : ∀ t ∈ db.tables, t.Keyed (db.uniquesOf t.definition.table)
  numbered : ∀ t ∈ db.tables, t.Numbered

theorem keyed_empty : Keyed empty := ⟨.nil, by simp [empty], by simp [empty]⟩

theorem Keyed.table?_of_mem {db : Database} (hk : db.Keyed) {t : Table} {name : String}
    (ht : t ∈ db.tables) (h : sameName t.definition.table name = true) :
    db.table? name = some t :=
  find?_of_pairwise hk.names ht h

theorem Keyed.setTable {db : Database} (hk : db.Keyed) {t : Table}
    (ht : t.Keyed (db.uniquesOf t.definition.table)) (hn : t.Numbered) :
    (db.setTable t).Keyed where
  names := by
    rw [setTable_tables, List.pairwise_map]
    refine hk.names.imp fun {u v} h => ?_
    rw [sameName_replaced, sameName_comm, sameName_replaced, sameName_comm]
    exact h
  keys := by
    intro u hu
    rw [setTable_tables] at hu
    obtain ⟨v, hv, rfl⟩ := List.mem_map.1 hu
    unfold replaced
    split
    · exact ht
    · exact hk.keys v hv
  numbered := by
    intro u hu
    rw [setTable_tables] at hu
    obtain ⟨v, hv, rfl⟩ := List.mem_map.1 hu
    unfold replaced
    split
    · exact hn
    · exact hk.numbered v hv

/-- A statement on the rows of one table keeps its definition. -/
theorem Keyed.setTable_of {db : Database} (hk : db.Keyed) {name : String} {t t' : Table}
    (ht : db.table? name = some t) (hd : t'.definition = t.definition)
    (hkeyed : t.Keyed (db.uniquesOf name) → t'.Keyed (db.uniquesOf name))
    (hnumbered : t.Numbered → t'.Numbered) : (db.setTable t').Keyed := by
  obtain ⟨hmem, hname⟩ := mem_of_table? ht
  refine hk.setTable ?_ (hnumbered (hk.numbered t hmem))
  have := hk.keys t hmem
  rw [uniquesOf_congr db hname] at this
  rw [hd, uniquesOf_congr db hname]
  exact hkeyed this

theorem Table.insert_definition {t t' : Table} {uniques : List (List String)} {s : Insert}
    (h : t.insert uniques s = .ok t') : t'.definition = t.definition := by
  obtain ⟨-, number, rfl, -⟩ := Table.insert_eq_ok h
  rfl

theorem Table.update_definition {t t' : Table} {uniques : List (List String)} {s : Update}
    (h : t.update uniques s = .ok t') : t'.definition = t.definition := by
  obtain ⟨rows, -, rfl, -⟩ := Table.update_eq_ok h
  rfl

theorem Keyed.insert {db db' : Database} {s : Insert} (hk : db.Keyed) (h : db.insert s = .ok db') :
    db'.Keyed := by
  obtain ⟨t, t', ht, ht', rfl⟩ := insert_eq_ok h
  exact hk.setTable_of ht (Table.insert_definition ht') (fun hkeyed => hkeyed.insert ht')
    fun hn => hn.insert ht'

theorem Keyed.update {db db' : Database} {s : Update} (hk : db.Keyed) (h : db.update s = .ok db') :
    db'.Keyed := by
  obtain ⟨t, t', ht, ht', rfl⟩ := update_eq_ok h
  exact hk.setTable_of ht (Table.update_definition ht') (fun _ => Table.Keyed.update ht')
    fun _ => Table.Numbered.update ht'

theorem Keyed.delete {db db' : Database} {s : Delete} (hk : db.Keyed) (h : db.delete s = .ok db') :
    db'.Keyed := by
  obtain ⟨t, ht, rfl⟩ := delete_eq_ok h
  exact hk.setTable_of ht rfl (fun hkeyed => hkeyed.delete s) fun hn => hn.delete s

theorem Keyed.truncate {db db' : Database} {name : String} (hk : db.Keyed)
    (h : db.truncate name = .ok db') : db'.Keyed := by
  obtain ⟨read, t, -, ht, rfl⟩ := truncate_eq_ok h
  exact hk.setTable_of ht rfl (fun _ => Table.keyed_of_rows_nil _ rfl)
    fun _ => Table.numbered_of_rows_nil rfl

theorem Keyed.createTable {db db' : Database} {s : CreateTable} (hk : db.Keyed)
    (h : db.createTable s = .ok db') : db'.Keyed := by
  rcases (createTable_eq_ok h).2 with ⟨-, rfl⟩ | ⟨hnone, rfl, -⟩
  · exact hk
  · refine ⟨?_, fun t ht => ?_, fun t ht => ?_⟩
    · refine List.pairwise_append.2 ⟨hk.names, List.pairwise_singleton _ _, fun t ht u hu => ?_⟩
      obtain rfl := List.mem_singleton.1 hu
      simpa using List.find?_eq_none.1 hnone t ht
    · rcases List.mem_append.1 ht with ht | ht
      · exact hk.keys t ht
      · obtain rfl := List.mem_singleton.1 ht
        exact Table.keyed_of_rows_nil _ rfl
    · rcases List.mem_append.1 ht with ht | ht
      · exact hk.numbered t ht
      · obtain rfl := List.mem_singleton.1 ht
        exact Table.numbered_of_rows_nil rfl

/-- Fewer index objects ask for fewer unique keys. -/
theorem Keyed.filter_indexObjects {db : Database} (hk : db.Keyed) (p : IndexObject → Bool) :
    Keyed { db with indexObjects := db.indexObjects.filter p } := by
  refine ⟨hk.names, fun t ht cs hcs => hk.keys t ht cs ?_, hk.numbered⟩
  rcases List.mem_cons.1 hcs with rfl | hcs
  · exact List.mem_cons_self
  · refine List.mem_cons_of_mem _ ?_
    have hsub : (List.filter p db.indexObjects).Sublist db.indexObjects := List.filter_sublist
    exact ((((hsub.map _).filter _).filter _).map _).subset hcs

theorem Keyed.dropIndex {db db' : Database} {index : String} (hk : db.Keyed)
    (h : db.dropIndex index = .ok db') : db'.Keyed := by
  obtain ⟨name, -, rfl⟩ := dropIndex_eq_ok h
  exact hk.filter_indexObjects _

theorem Keyed.createIndex {db db' : Database} {s : CreateIndex} (hk : db.Keyed)
    (h : db.createIndex s = .ok db') : db'.Keyed := by
  obtain ⟨name, t, -, ht, -, hunique, rfl⟩ := createIndex_eq_ok h
  refine ⟨hk.names, fun u hu cs hcs => ?_, hk.numbered⟩
  simp only [Table.constraints, uniquesOf, indexesOf, List.map_append, List.map_cons, List.map_nil,
    List.filter_append, List.mem_cons, List.mem_append] at hcs
  rcases hcs with hcs | hcs | hcs
  · exact hk.keys u hu cs (by simp [Table.constraints, hcs])
  · exact hk.keys u hu cs (List.mem_cons_of_mem _ hcs)
  · -- the new index object, whose table was checked
    simp only [List.mem_map, List.mem_filter, List.mem_singleton] at hcs
    obtain ⟨o, ⟨⟨rfl, hname⟩, hu'⟩, rfl⟩ := hcs
    have hsame : db.table? o.table = some u := by
      rw [sameName_comm] at hname
      exact hk.table?_of_mem hu hname
    rw [ht] at hsame
    obtain rfl := Option.some.inj hsame
    exact hunique hu'

end RecordStore.Database
