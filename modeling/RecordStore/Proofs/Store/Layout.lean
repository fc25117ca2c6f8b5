import Mathlib
import RecordStore.Proofs.Store.Steps
import RecordStore.Proofs.Index.Rows

/-!
Which index tables and index objects there are.  Each belongs to one index of one type number, and
creating or dropping the indexes of a number touches those of no other.
-/
namespace RecordStore
open Database Transaction Sql Index

-- names are compared, never computed
attribute [local irreducible] tableName indexName

/-- All index tables and index objects belong to the given indexes, each by its type number and
name. -/
structure Owned (stem : String) (owner : UInt32 → String → Prop) (db : Database) : Prop where
  tables : ∀ t ∈ db.tables, ∃ n name, owner n name ∧
    t.definition.table = tableName stem n name
  objects : ∀ o ∈ db.indexObjects, ∃ n name, owner n name ∧
    readBare? (indexName stem n name) = some o.name ∧ o.definition.table = tableName stem n name

theorem owned_empty (stem : String) (owner : UInt32 → String → Prop) : Owned stem owner empty :=
  ⟨by simp [empty], by simp [empty]⟩

section
variable {stem : String} {owner owner' : UInt32 → String → Prop} {db db' : Database}

theorem Owned.mono (h : Owned stem owner db) (ho : ∀ n name, owner n name → owner' n name) :
    Owned stem owner' db where
  tables t ht := by
    obtain ⟨n, name, hn, hname⟩ := h.tables t ht
    exact ⟨n, name, ho n name hn, hname⟩
  objects o ho' := by
    obtain ⟨n, name, hn, hname⟩ := h.objects o ho'
    exact ⟨n, name, ho n name hn, hname⟩

/-- Index objects of one name are those of one table. -/
theorem Owned.sameName_iff (h : Owned stem owner db) {o : IndexObject} (ho : o ∈ db.indexObjects)
    {n : UInt32} {name read : String} (hread : readBare? (indexName stem n name) = some read) :
    sameName o.name read = true ↔ sameName o.definition.table (tableName stem n name) = true := by
  obtain ⟨m, other, -, hname, htable⟩ := h.objects o ho
  rw [sameName_of_readBare? hname hread, htable, sameName_tableName]

theorem sameDefinition_table? (h : db'.tables.map (·.definition) = db.tables.map (·.definition))
    {t : Table} (ht : t ∈ db'.tables) : ∃ u ∈ db.tables, u.definition = t.definition := by
  have hmem : t.definition ∈ db.tables.map (·.definition) := by
    rw [← h]
    exact List.mem_map_of_mem ht
  obtain ⟨u, hu, hd⟩ := List.mem_map.1 hmem
  exact ⟨u, hu, hd⟩

/-- Who owns what is a matter of definitions, not of rows. -/
theorem Owned.of_definitions (h : Owned stem owner db)
    (ht : db'.tables.map (·.definition) = db.tables.map (·.definition))
    (ho : db'.indexObjects = db.indexObjects) : Owned stem owner db' where
  tables t hmem := by
    obtain ⟨u, hu, hd⟩ := sameDefinition_table? ht hmem
    rw [← hd]
    exact h.tables u hu
  objects o hmem := h.objects o (ho ▸ hmem)

end

/-! ### Creating indexes -/

/-- The index object of an index. -/
def indexObject (stem : String) (n : UInt32) (ix : IndexDefinition) : CreateIndex :=
  ⟨indexName stem n ix.name, tableName stem n ix.name, ix.unique, indexKeys ix⟩

/-- What creating indexes of a type leaves: tables that were there stay, new ones are empty, and no
other table or index object has changed. -/
structure IndexesCreated (stem : String) (n : UInt32) (s : Schema) (ixs : List IndexDefinition)
    (owner : UInt32 → String → Prop) (db db' : Database) : Prop where
  types : db'.types = db.types
  schemas : db'.schemas = db.schemas
  records : db'.records = db.records
  keyed : db'.Keyed
  owned : Owned stem (fun m name => owner m name ∨ m = n ∧ ∃ ix ∈ ixs, ix.name = name) db'
  readable : ∀ ix ∈ ixs,
    readNames (tableName stem n ix.name :: (columnSpecs s ix).map (·.name)) = .ok ()
  present : ∀ ix ∈ ixs, (db'.table? (tableName stem n ix.name)).isSome = true
  kept : ∀ x t, db.table? x = some t → db'.table? x = some t
  fresh : ∀ x t, db'.table? x = some t → db.table? x = some t ∨
    t.rows = [] ∧ ∃ ix ∈ ixs, sameName (tableName stem n ix.name) x = true ∧ Shaped s ix t
  objects : ixs.Pairwise (fun a b => nameHash a.name ≠ nameHash b.name) → ∀ ix ∈ ixs,
    db'.indexesOf (tableName stem n ix.name) = [indexObject stem n ix]
  otherObjects : ∀ x, (∀ ix ∈ ixs, sameName (tableName stem n ix.name) x = false) →
    db'.indexesOf x = db.indexesOf x

section
variable {stem : String} {n : UInt32} {s : Schema} {owner : UInt32 → String → Prop}
  {db db' db₁ : Database}

theorem indexesCreated_nil (hk : db.Keyed) (ho : Owned stem owner db) :
    IndexesCreated stem n s [] owner db db where
  types := rfl
  schemas := rfl
  records := rfl
  keyed := hk
  owned := ho.mono fun m name h => .inl h
  readable := by simp
  present := by simp
  kept x t h := h
  fresh x t h := .inl h
  objects := by simp
  otherObjects x _ := rfl

theorem IndexesCreated.cons {ix : IndexDefinition} {ixs : List IndexDefinition}
    (h : IndexesCreated stem n s [ix] owner db db₁)
    (hrest : IndexesCreated stem n s ixs
      (fun m name => owner m name ∨ m = n ∧ ∃ jx ∈ [ix], jx.name = name) db₁ db') :
    IndexesCreated stem n s (ix :: ixs) owner db db' where
  types := hrest.types.trans h.types
  schemas := hrest.schemas.trans h.schemas
  records := hrest.records.trans h.records
  keyed := hrest.keyed
  owned := by
    refine hrest.owned.mono fun m name ho => ?_
    rcases ho with (ho | ⟨rfl, jx, hjx, rfl⟩) | ⟨rfl, jx, hjx, rfl⟩
    · exact .inl ho
    · exact .inr ⟨rfl, jx, List.mem_cons.2 (.inl (List.mem_singleton.1 hjx)), rfl⟩
    · exact .inr ⟨rfl, jx, List.mem_cons_of_mem _ hjx, rfl⟩
  readable jx hjx := by
    rcases List.mem_cons.1 hjx with rfl | hjx
    · exact h.readable jx List.mem_cons_self
    · exact hrest.readable jx hjx
  present jx hjx := by
    rcases List.mem_cons.1 hjx with rfl | hjx
    · obtain ⟨t, ht⟩ := Option.isSome_iff_exists.1 (h.present jx List.mem_cons_self)
      rw [hrest.kept _ t ht]
      rfl
    · exact hrest.present jx hjx
  kept x t ht := hrest.kept x t (h.kept x t ht)
  fresh x t ht := by
    rcases hrest.fresh x t ht with ht | ⟨hrows, jx, hjx, hsame, hshaped⟩
    · rcases h.fresh x t ht with ht | ⟨hrows, jx, hjx, hsame, hshaped⟩
      · exact .inl ht
      · obtain rfl := List.mem_singleton.1 hjx
        exact .inr ⟨hrows, jx, List.mem_cons_self, hsame, hshaped⟩
    · exact .inr ⟨hrows, jx, List.mem_cons_of_mem _ hjx, hsame, hshaped⟩
  objects hd jx hjx := by
    obtain ⟨hix, hixs⟩ := List.pairwise_cons.1 hd
    rcases List.mem_cons.1 hjx with rfl | hjx
    · rw [hrest.otherObjects _ fun kx hkx => sameName_tableName_of_hash_ne (hix kx hkx).symm _ _ _]
      exact h.objects (List.pairwise_singleton _ _) jx List.mem_cons_self
    · exact hrest.objects hixs jx hjx
  otherObjects x hx := by
    rw [hrest.otherObjects x fun jx hjx => hx jx (List.mem_cons_of_mem _ hjx)]
    refine h.otherObjects x fun jx hjx => ?_
    obtain rfl := List.mem_singleton.1 hjx
    exact hx jx List.mem_cons_self

end

/-- A database with a table added, if there is none of its name. -/
theorem table?_append {db : Database} {name : String} (columns : List ColumnSpec)
    (h : db.table? name = none) (x : String) (t : Table) :
    table? { db with tables := db.tables ++ [⟨⟨name, columns, []⟩, []⟩] } x = some t ↔
      db.table? x = some t ∨ sameName name x = true ∧ t = ⟨⟨name, columns, []⟩, []⟩ := by
  simp only [table?, List.find?_append]
  cases hx : db.tables.find? fun u => sameName u.definition.table x with
  | some u =>
    have hne : sameName name x = false := by
      rw [Bool.eq_false_iff]
      intro hsame
      have hfound := table?_congr db hsame
      rw [h, table?, hx] at hfound
      cases hfound
    simp [hne]
  | none => by_cases hsame : sameName name x = true <;> simp [hsame, eq_comm]

/-- The tables after one was asked for, which is there or is added without rows. -/
def WithTable (name : String) (columns : List ColumnSpec) (db : Database) (tables : List Table) :
    Prop :=
  (db.table? name).isSome = true ∧ tables = db.tables ∨
    db.table? name = none ∧ tables = db.tables ++ [⟨⟨name, columns, []⟩, []⟩] ∧
      (columns.map (·.name)).Pairwise fun a b => sameName a b = false

/-- The database with other tables, and with an index object in the place of those of its name. -/
def made (t : IndexedType) (s : StoreSettings) (ix : IndexDefinition) (tables : List Table)
    (read : String) (db : Database) : Database :=
  { db with
    tables := tables
    indexObjects := db.indexObjects.filter (fun o => !sameName o.name read) ++
      [⟨read, indexObject s.stem t.typeId ix⟩] }

/-- The tables and index objects after an index was created: the table is there or is added, and the
index object takes the place of those of its name. -/
theorem createIndex_made {t : IndexedType} {s : StoreSettings} {ix : IndexDefinition}
    (hix : ix ∈ t.schema.indexes) {db db' : Database}
    (h : t.createIndex s ix.name db = .ok ((), db')) :
    ∃ read tables, readBare? (indexName s.stem t.typeId ix.name) = some read ∧
      readNames (tableName s.stem t.typeId ix.name ::
        (columnSpecs t.schema ix).map (·.name)) = .ok () ∧
      WithTable (tableName s.stem t.typeId ix.name) (columnSpecs t.schema ix) db tables ∧
      db' = made t s ix tables read db := by
  obtain ⟨jx, table, index, db₁, db₂, hjx, htable, hindex, hdrop, hadd, hcreate⟩ :=
    createIndex_eq_ok h
  rw [Schema.requireIndex_name hix] at hjx
  obtain rfl := Except.ok.inj hjx
  obtain rfl := createTable_eq_ok htable
  obtain rfl := Index.createIndex_eq_ok hindex
  obtain ⟨read, u, hread, -, -, -, rfl⟩ := Database.createIndex_eq_ok hcreate
  have hread' : readBare? (indexName s.stem t.typeId ix.name) = some read := hread
  -- the name can be read, so an index object that was there is gone
  have hdrop' : db₁ = { db with
      indexObjects := db.indexObjects.filter fun o => !sameName o.name read } := by
    rcases hdrop with hdrop | ⟨-, e, he⟩
    · obtain ⟨read', hr, rfl⟩ := dropIndex_eq_ok hdrop
      rw [hread'] at hr
      rw [Option.some.inj hr]
    · unfold Database.dropIndex at he
      rw [hread'] at he
      cases he
  obtain rfl := hdrop'
  obtain ⟨hnames, ⟨hsome, rfl⟩ | ⟨hnone, rfl, hdistinct⟩⟩ := Database.createTable_eq_ok hadd
  · exact ⟨read, db.tables, hread', hnames, .inl ⟨hsome, rfl⟩, rfl⟩
  · exact ⟨read, _, hread', hnames, .inr ⟨hnone, rfl, hdistinct⟩, rfl⟩

section
variable {t : IndexedType} {s : StoreSettings} {ix : IndexDefinition} {owner : UInt32 → String → Prop}
  {db : Database} {tables : List Table} {read : String}

/-- An index object goes when it is one of the table. -/
theorem sameName_read (ho : Owned s.stem owner db)
    (hread : readBare? (indexName s.stem t.typeId ix.name) = some read) {o : IndexObject}
    (hmem : o ∈ db.indexObjects) :
    sameName o.name read = sameName o.definition.table (tableName s.stem t.typeId ix.name) := by
  rw [Bool.eq_iff_iff]
  exact ho.sameName_iff hmem hread

/-- The index object that was made is the only one of its table. -/
theorem indexesOf_made (ho : Owned s.stem owner db)
    (hread : readBare? (indexName s.stem t.typeId ix.name) = some read) :
    (made t s ix tables read db).indexesOf (tableName s.stem t.typeId ix.name) =
      [indexObject s.stem t.typeId ix] := by
  have hold : (db.indexObjects.filter fun o => !sameName o.name read).filter
      (fun o => sameName o.definition.table (tableName s.stem t.typeId ix.name)) = [] := by
    rw [List.filter_eq_nil_iff]
    intro o hmem
    obtain ⟨hmem, hne⟩ := List.mem_filter.1 hmem
    rw [← sameName_read ho hread hmem]
    simpa using hne
  simp only [made, indexesOf, List.map_append, List.filter_append, List.filter_map]
  simp only [Function.comp_def] at hold ⊢
  rw [hold]
  simp [indexObject, sameName_self]

/-- Other tables have the index objects that they had. -/
theorem indexesOf_made_other (ho : Owned s.stem owner db)
    (hread : readBare? (indexName s.stem t.typeId ix.name) = some read) {x : String}
    (hne : sameName (tableName s.stem t.typeId ix.name) x = false) :
    (made t s ix tables read db).indexesOf x = db.indexesOf x := by
  have hold : (db.indexObjects.filter fun o => !sameName o.name read).filter
      (fun o => sameName o.definition.table x) =
      db.indexObjects.filter fun o => sameName o.definition.table x := by
    rw [List.filter_filter]
    apply List.filter_congr
    intro o hmem
    rw [sameName_read ho hread hmem]
    cases hox : sameName o.definition.table x with
    | false => rfl
    | true =>
      cases hon : sameName o.definition.table (tableName s.stem t.typeId ix.name) with
      | false => rfl
      | true =>
        rw [sameName_congr hon x, hne] at hox
        cases hox
  simp only [made, indexesOf, List.map_append, List.filter_append, List.filter_map]
  simp only [Function.comp_def] at hold ⊢
  rw [hold]
  simp [indexObject, hne]

/-- A table that is found was there before or is the one that was asked for. -/
theorem table?_made (htables : WithTable (tableName s.stem t.typeId ix.name)
      (columnSpecs t.schema ix) db tables) {x : String} {u : Table}
    (hu : (made t s ix tables read db).table? x = some u) :
    db.table? x = some u ∨ sameName (tableName s.stem t.typeId ix.name) x = true ∧ u.rows = [] ∧
      Shaped t.schema ix u := by
  rcases htables with ⟨-, rfl⟩ | ⟨hnone, rfl, hdistinct⟩
  · exact .inl hu
  · refine ((table?_append _ hnone x u).1 hu).imp_right ?_
    rintro ⟨hsame, rfl⟩
    exact ⟨hsame, rfl, rfl, hdistinct⟩

/-- Tables that were there before are found, and so is the one that was asked for. -/
theorem table?_made_of (read : String) (htables : WithTable (tableName s.stem t.typeId ix.name)
      (columnSpecs t.schema ix) db tables) :
    ((made t s ix tables read db).table? (tableName s.stem t.typeId ix.name)).isSome = true ∧
      ∀ x u, db.table? x = some u → (made t s ix tables read db).table? x = some u := by
  rcases htables with ⟨hsome, rfl⟩ | ⟨hnone, rfl, -⟩
  · exact ⟨hsome, fun x u hu => hu⟩
  · have hnew := (table?_append (columnSpecs t.schema ix) hnone _ _).2 (.inr ⟨sameName_self _, rfl⟩)
    exact ⟨Option.isSome_iff_exists.2 ⟨_, hnew⟩,
      fun x u hu => (table?_append _ hnone x u).2 (.inl hu)⟩

/-- The table and the index object belong to the index, and all others to whom they did. -/
theorem owned_made (ho : Owned s.stem owner db)
    (hread : readBare? (indexName s.stem t.typeId ix.name) = some read)
    (htables : WithTable (tableName s.stem t.typeId ix.name) (columnSpecs t.schema ix) db tables) :
    Owned s.stem (fun m name => owner m name ∨ m = t.typeId ∧ ∃ jx ∈ [ix], jx.name = name)
      (made t s ix tables read db) := by
  have hold : Owned s.stem
      (fun m name => owner m name ∨ m = t.typeId ∧ ∃ jx ∈ [ix], jx.name = name) db :=
    ho.mono fun _ _ => .inl
  constructor
  · intro u hu
    rcases htables with ⟨-, rfl⟩ | ⟨-, rfl, -⟩
    · exact hold.tables u hu
    · rcases List.mem_append.1 hu with hu | hu
      · exact hold.tables u hu
      · obtain rfl := List.mem_singleton.1 hu
        exact ⟨t.typeId, ix.name, .inr ⟨rfl, ix, List.mem_singleton_self ix, rfl⟩, rfl⟩
  · intro o hmem
    rcases List.mem_append.1 hmem with hmem | hmem
    · exact hold.objects o (List.mem_of_mem_filter hmem)
    · obtain rfl := List.mem_singleton.1 hmem
      exact ⟨t.typeId, ix.name, .inr ⟨rfl, ix, List.mem_singleton_self ix, rfl⟩, hread, rfl⟩

end

theorem keyed_of_createIndex {t : IndexedType} {s : StoreSettings} {name : String} {u : Unit}
    {db db' : Database} (hk : db.Keyed) (h : t.createIndex s name db = .ok (u, db')) :
    db'.Keyed := by
  have hkept : Ensures (fun db db' => db.Keyed → db'.Keyed) (t.createIndex s name) :=
    IndexedType.ensures_createIndex ⟨fun _ h => h, fun h h' hk => h' (h hk)⟩ t s name
      (fun _ _ _ h hk => hk.createTable h) (fun _ _ _ h hk => hk.createIndex h)
      (fun _ _ _ h hk => hk.dropIndex h)
  exact hkept db u db' h hk

theorem indexesCreated_of_createIndex {t : IndexedType} {s : StoreSettings} {ix : IndexDefinition}
    (hix : ix ∈ t.schema.indexes) {owner : UInt32 → String → Prop} {db db' : Database}
    (hk : db.Keyed) (ho : Owned s.stem owner db)
    (h : t.createIndex s ix.name db = .ok ((), db')) :
    IndexesCreated s.stem t.typeId t.schema [ix] owner db db' := by
  have hkeyed := keyed_of_createIndex hk h
  obtain ⟨read, tables, hread, hnames, htables, rfl⟩ := createIndex_made hix h
  obtain ⟨hpresent, hkept⟩ := table?_made_of read htables
  refine ⟨rfl, rfl, rfl, hkeyed, owned_made ho hread htables, List.forall_mem_singleton.2 hnames,
    List.forall_mem_singleton.2 hpresent, hkept, fun x u hu => ?_, fun _ => ?_, fun x hx => ?_⟩
  · refine (table?_made htables hu).imp_right ?_
    rintro ⟨hsame, hrows, hshaped⟩
    exact ⟨hrows, ix, List.mem_singleton_self ix, hsame, hshaped⟩
  · exact List.forall_mem_singleton.2 (indexesOf_made ho hread)
  · exact indexesOf_made_other ho hread (hx ix (List.mem_singleton_self ix))

theorem indexesCreated_of_forM {t : IndexedType} {s : StoreSettings} {ixs : List IndexDefinition} :
    (∀ ix ∈ ixs, ix ∈ t.schema.indexes) →
    ∀ {owner : UInt32 → String → Prop} {db db' : Database}, db.Keyed → Owned s.stem owner db →
      ixs.forM (fun ix => t.createIndex s ix.name) db = .ok ((), db') →
      IndexesCreated s.stem t.typeId t.schema ixs owner db db' := by
  induction ixs with
  | nil =>
    intro _ owner db db' hk ho h
    obtain rfl := forM_nil_eq_ok.1 h
    exact indexesCreated_nil hk ho
  | cons ix ixs ih =>
    intro hmem owner db db' hk ho h
    obtain ⟨db₁, h₁, h₂⟩ := forM_cons_eq_ok.1 h
    have hfirst := indexesCreated_of_createIndex (hmem ix (by simp)) hk ho h₁
    exact hfirst.cons (ih (fun jx hjx => hmem jx (by simp [hjx])) hfirst.keyed hfirst.owned h₂)

/-! ### Dropping indexes -/

/-- What dropping indexes leaves of the tables and index objects. -/
def withoutIndexes (stem : String) (n : UInt32) (ixs : List IndexDefinition) (db : Database) :
    Database :=
  { db with
    tables := db.tables.filter fun t =>
      ixs.all fun ix => !sameName t.definition.table (tableName stem n ix.name)
    indexObjects := db.indexObjects.filter fun o =>
      ixs.all fun ix => !sameName o.definition.table (tableName stem n ix.name) }

theorem dropIndexTable_eq_ok {s : StoreSettings} {n : UInt32} {ix : IndexDefinition}
    {owner : UInt32 → String → Prop} {db db' : Database} {u : Unit} (ho : Owned s.stem owner db)
    (h : dropIndexTable s n ix.name db = .ok (u, db')) :
    db' = withoutIndexes s.stem n [ix] db := by
  obtain ⟨⟨⟩, db₁, h₁, h₂⟩ := Transaction.bind_eq_ok.1 h
  obtain rfl := dropTable_eq_ok (apply_eq_ok.1 h₁)
  have hboth : withoutIndexes s.stem n [ix] db = { db with
      tables := db.tables.filter fun t =>
        !sameName t.definition.table (tableName s.stem n ix.name)
      indexObjects := db.indexObjects.filter fun o =>
        !sameName o.definition.table (tableName s.stem n ix.name) } := by
    simp [withoutIndexes]
  rw [hboth]
  rcases attempt_eq_ok h₂ with h₂ | ⟨rfl, -⟩
  · -- the index objects of that name went with the table
    obtain ⟨read, hread, rfl⟩ := dropIndex_eq_ok h₂
    congr 1
    rw [List.filter_eq_self]
    intro o hmem
    obtain ⟨hmem, hne⟩ := List.mem_filter.1 hmem
    have hsame := ho.sameName_iff hmem hread
    rw [← Bool.eq_iff_iff] at hsame
    rw [hsame]
    exact hne
  · rfl

theorem Owned.withoutIndexes {stem : String} {owner : UInt32 → String → Prop} {db : Database}
    (ho : Owned stem owner db) (n : UInt32) (ixs : List IndexDefinition) :
    Owned stem owner (withoutIndexes stem n ixs db) where
  tables t ht := ho.tables t (List.mem_of_mem_filter ht)
  objects o hmem := ho.objects o (List.mem_of_mem_filter hmem)

theorem withoutIndexes_cons (stem : String) (n : UInt32) (ix : IndexDefinition)
    (ixs : List IndexDefinition) (db : Database) :
    withoutIndexes stem n ixs (withoutIndexes stem n [ix] db) =
      withoutIndexes stem n (ix :: ixs) db := by
  simp only [withoutIndexes, List.filter_filter, List.all_cons, List.all_nil, Bool.and_true]
  congr 2 <;> funext x <;> exact Bool.and_comm _ _

theorem forM_dropIndexTable_eq_ok {s : StoreSettings} {n : UInt32} {ixs : List IndexDefinition}
    {owner : UInt32 → String → Prop} :
    ∀ {db db' : Database}, Owned s.stem owner db →
      ixs.forM (fun ix => dropIndexTable s n ix.name) db = .ok ((), db') →
      db' = withoutIndexes s.stem n ixs db := by
  induction ixs with
  | nil =>
    intro db db' _ h
    obtain rfl := forM_nil_eq_ok.1 h
    simp [withoutIndexes]
  | cons ix ixs ih =>
    intro db db' ho h
    obtain ⟨db₁, h₁, h₂⟩ := forM_cons_eq_ok.1 h
    obtain rfl := dropIndexTable_eq_ok ho h₁
    rw [ih (ho.withoutIndexes n [ix]) h₂, withoutIndexes_cons]

theorem table?_withoutIndexes {stem : String} {n : UInt32} {ixs : List IndexDefinition}
    (db : Database) {x : String} (hx : ∀ ix ∈ ixs, sameName (tableName stem n ix.name) x = false) :
    (withoutIndexes stem n ixs db).table? x = db.table? x := by
  simp only [withoutIndexes, table?, List.find?_filter]
  congr 1
  funext t
  cases ht : sameName t.definition.table x with
  | false => simp
  | true =>
    have hall : (ixs.all fun ix => !sameName t.definition.table (tableName stem n ix.name)) = true := by
      rw [List.all_eq_true]
      intro ix hix
      rw [sameName_congr ht, sameName_comm, hx ix hix]
      rfl
    simp [hall]

theorem indexesOf_withoutIndexes {stem : String} {n : UInt32} {ixs : List IndexDefinition}
    (db : Database) {x : String} (hx : ∀ ix ∈ ixs, sameName (tableName stem n ix.name) x = false) :
    (withoutIndexes stem n ixs db).indexesOf x = db.indexesOf x := by
  simp only [withoutIndexes, indexesOf, List.filter_map, List.filter_filter]
  congr 2
  funext o
  simp only [Function.comp_apply]
  cases ho : sameName o.definition.table x with
  | false => rfl
  | true =>
    have hall : (ixs.all fun ix => !sameName o.definition.table (tableName stem n ix.name)) = true := by
      rw [List.all_eq_true]
      intro ix hix
      rw [sameName_congr ho, sameName_comm, hx ix hix]
      rfl
    simp [hall]

theorem keyed_withoutIndexes {stem : String} {n : UInt32} {ixs : List IndexDefinition}
    {db : Database} (hk : db.Keyed) : (withoutIndexes stem n ixs db).Keyed := by
  have hf := hk.filter_indexObjects fun o =>
    ixs.all fun ix => !sameName o.definition.table (tableName stem n ix.name)
  exact ⟨hf.names.sublist List.filter_sublist, fun t ht => hf.keys t (List.mem_of_mem_filter ht),
    fun t ht => hf.numbered t (List.mem_of_mem_filter ht)⟩

end RecordStore
