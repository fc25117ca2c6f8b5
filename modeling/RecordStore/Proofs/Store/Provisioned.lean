import Mathlib
import RecordStore.Proofs.Store.Alone
import RecordStore.Proofs.Store.Backfill

/-!
The statements that create the indexes of a schema.  Whether they can be run depends on the tables that
are there and on nothing else, so what could be run once can be run again.  Every schema that a store has
published by itself is one whose statements could be run.
-/
namespace RecordStore
open Database Transaction Index Sql RecordStore.Action

attribute [local irreducible] tableName indexName

/-! ### Statements that create indexes -/

/-- Two databases that have tables for the same indexes of a type; in the second one these are
empty. -/
structure TablesAlike (stem : String) (n : UInt32) (d e : Database) : Prop where
  present : ∀ name,
    (e.table? (tableName stem n name)).isSome = (d.table? (tableName stem n name)).isSome
  empty : ∀ name u, e.table? (tableName stem n name) = some u → u.rows = []

section
variable {d d' e : Database}

/-- A table that can be made in one database can be made in another one that has it as well or has it
neither. -/
theorem createTable_of_present {q : CreateTable} (h : d.createTable q = .ok d')
    (hp : (e.table? q.table).isSome = (d.table? q.table).isSome) :
    (d.table? q.table).isSome = true ∧ d' = d ∧ e.createTable q = .ok e ∨
      d.table? q.table = none ∧ d' = { d with tables := d.tables ++ [⟨q, []⟩] } ∧
        e.createTable q = .ok { e with tables := e.tables ++ [⟨q, []⟩] } := by
  obtain ⟨⟨⟩, hread, hmade⟩ := bind_eq_ok.1 h
  split at hmade
  · cases hmade
  next hreserved =>
    split at hmade
    · next hsome =>
      refine .inl ⟨hsome, (Except.ok.inj hmade).symm, bind_eq_ok.2 ⟨(), hread, ?_⟩⟩
      rw [if_neg hreserved, if_pos (hp.trans hsome)]
    · next hnone =>
      split at hmade
      · cases hmade
      · next hdistinct =>
        refine .inr ⟨Option.not_isSome_iff_eq_none.1 hnone, (Except.ok.inj hmade).symm,
          bind_eq_ok.2 ⟨(), hread, ?_⟩⟩
        rw [if_neg hreserved, hp, if_neg hnone, hdistinct]

/-- An index object that can be made in one database can be made in another one whose table is empty,
unless its name is taken. -/
theorem createIndex_of_empty {q : CreateIndex} {name : String} {u : Table}
    (h : d.createIndex q = .ok d') (hname : readBare? q.index = some name)
    (hu : e.table? q.table = some u) (hrows : u.rows = [])
    (hfree : ∀ o ∈ e.indexObjects, sameName o.name name = false) :
    e.createIndex q = .ok { e with indexObjects := e.indexObjects ++ [⟨name, q⟩] } := by
  have hany : (e.indexObjects.any fun o => sameName o.name name) = false :=
    List.any_eq_false.2 fun o ho => by simp [hfree o ho]
  unfold Database.createIndex at h ⊢
  rw [hname] at h ⊢
  obtain ⟨⟨⟩, hread, hmade⟩ := bind_eq_ok.1 h
  refine bind_eq_ok.2 ⟨(), hread, ?_⟩
  split at hmade
  · cases hmade
  next hcolumns =>
    split at hmade
    · cases hmade
    next hreserved =>
      rw [if_neg hcolumns, if_neg hreserved, hu]
      simp only [hany, hrows]
      simp [Table.distinctBy, Table.keys, Table.distinctKeys]

end

section
variable {stem : String} {n : UInt32} {d d' e e' : Database}

theorem TablesAlike.of_tables (h : TablesAlike stem n d e) (hd : d'.tables = d.tables)
    (he : e'.tables = e.tables) : TablesAlike stem n d' e' where
  present name := by
    rw [table?, table?, hd, he]
    exact h.present name
  empty name u hu := by
    rw [table?, he] at hu
    exact h.empty name u hu

/-- A table is missing in both databases and is added to both. -/
theorem TablesAlike.append (h : TablesAlike stem n d e) {x : String} (columns : List ColumnSpec)
    (hd : d.table? x = none) (he : e.table? x = none) :
    TablesAlike stem n { d with tables := d.tables ++ [⟨⟨x, columns, []⟩, []⟩] }
      { e with tables := e.tables ++ [⟨⟨x, columns, []⟩, []⟩] } where
  present name := by
    have hpresent := h.present name
    rw [Bool.eq_iff_iff, Option.isSome_iff_exists, Option.isSome_iff_exists] at hpresent ⊢
    simp only [table?_append columns hd, table?_append columns he, exists_or]
    exact or_congr hpresent Iff.rfl
  empty name u hu := by
    rcases (table?_append columns he _ u).1 hu with hu | ⟨-, rfl⟩
    · exact h.empty name u hu
    · rfl

/-- A table of the type that was made in one database is made in the other. -/
theorem TablesAlike.createTable (h : TablesAlike stem n d e) {name : String}
    {columns : List ColumnSpec} (hadd : d.createTable ⟨tableName stem n name, columns, []⟩ = .ok d') :
    ∃ e', e.createTable ⟨tableName stem n name, columns, []⟩ = .ok e' ∧ TablesAlike stem n d' e' ∧
      (e'.table? (tableName stem n name)).isSome = true ∧ e'.indexObjects = e.indexObjects := by
  rcases createTable_of_present hadd (h.present name) with
    ⟨hsome, rfl, hadded⟩ | ⟨hnone, rfl, hadded⟩
  · exact ⟨e, hadded, h, (h.present name).trans hsome, rfl⟩
  · have hnone' : e.table? (tableName stem n name) = none := by
      have hsame := h.present name
      rw [show d.table? (tableName stem n name) = none from hnone] at hsame
      exact Option.not_isSome_iff_eq_none.1 (by rw [hsame]; exact Bool.false_ne_true)
    refine ⟨_, hadded, h.append _ hnone hnone', ?_, rfl⟩
    exact Option.isSome_iff_exists.2
      ⟨_, (table?_append _ hnone' _ _).2 (.inr ⟨sameName_self _, rfl⟩)⟩

end

theorem createIndex_of_ok {t : IndexedType} {s : StoreSettings} {name : String}
    {ix : IndexDefinition} {table : CreateTable} {index : CreateIndex} {e e₁ e₂ e₃ : Database}
    (hix : t.schema.requireIndex t.typeName name = .ok ix)
    (htable : Index.createTable (names s.stem t.typeId ix.name) ix t.schema = .ok table)
    (hindex : Index.createIndex (names s.stem t.typeId ix.name) ix t.schema = .ok index)
    (hdrop : e.dropIndex (indexName s.stem t.typeId ix.name) = .ok e₁)
    (hadd : e₁.createTable table = .ok e₂) (hcreate : e₂.createIndex index = .ok e₃) :
    t.createIndex s name e = .ok ((), e₃) := by
  have h₁ : Transaction.lift (t.schema.requireIndex t.typeName name) e = .ok (ix, e) :=
    lift_eq_ok.2 ⟨hix, rfl⟩
  have h₂ : attempt (·.dropIndex (indexName s.stem t.typeId ix.name)) e = .ok ((), e₁) := by
    rw [attempt, hdrop]
  have h₃ : Transaction.lift (Index.createTable (names s.stem t.typeId ix.name) ix t.schema) e₁ =
      .ok (table, e₁) := lift_eq_ok.2 ⟨htable, rfl⟩
  have h₄ : apply (·.createTable table) e₁ = .ok ((), e₂) := apply_eq_ok.2 hadd
  have h₅ : Transaction.lift (Index.createIndex (names s.stem t.typeId ix.name) ix t.schema) e₂ =
      .ok (index, e₂) := lift_eq_ok.2 ⟨hindex, rfl⟩
  exact (bind_of_ok h₁).trans ((bind_of_ok h₂).trans ((bind_of_ok h₃).trans
    ((bind_of_ok h₄).trans ((bind_of_ok h₅).trans (apply_eq_ok.2 hcreate)))))

/-- What created an index once creates it wherever the tables are alike. -/
theorem createIndex_of_alike {t : IndexedType} {s : StoreSettings} {ix : IndexDefinition}
    {d d' e : Database} (ha : TablesAlike s.stem t.typeId d e)
    (h : t.createIndex s ix.name d = .ok ((), d')) :
    ∃ e', t.createIndex s ix.name e = .ok ((), e') ∧ TablesAlike s.stem t.typeId d' e' := by
  obtain ⟨jx, table, index, d₁, d₂, hjx, htable, hindex, hdrop, hadd, hcreate⟩ :=
    createIndex_eq_ok h
  have htable' := createTable_eq_ok htable
  have hindex' := Index.createIndex_eq_ok hindex
  obtain ⟨name, u, hname, -, -, -, rfl⟩ := Database.createIndex_eq_ok hcreate
  let e₁ : Database := { e with indexObjects := e.indexObjects.filter fun o => !sameName o.name name }
  have hdropped : e.dropIndex (indexName s.stem t.typeId jx.name) = .ok e₁ := by
    have hread : readBare? (indexName s.stem t.typeId jx.name) = some name := by
      rw [hindex'] at hname
      exact hname
    rw [Database.dropIndex, hread]
  have htables : d₁.tables = d.tables := by
    rcases hdrop with hdrop | ⟨rfl, -⟩
    · obtain ⟨-, -, rfl⟩ := dropIndex_eq_ok hdrop
      rfl
    · rfl
  have ha₁ : TablesAlike s.stem t.typeId d₁ e₁ := ha.of_tables htables rfl
  subst htable'
  obtain ⟨e₂, hadded, ha₂, hpresent, hobjects⟩ := ha₁.createTable hadd
  obtain ⟨v, hv⟩ := Option.isSome_iff_exists.1 hpresent
  have hfree : ∀ o ∈ e₂.indexObjects, sameName o.name name = false := by
    intro o ho
    rw [hobjects] at ho
    simpa using (List.mem_filter.1 ho).2
  have hcreated : e₂.createIndex index = .ok { e₂ with
      indexObjects := e₂.indexObjects ++ [⟨name, index⟩] } := by
    have htarget : index.table = tableName s.stem t.typeId jx.name := by
      rw [hindex']
      rfl
    exact createIndex_of_empty hcreate hname (htarget ▸ hv) (ha₂.empty _ v hv) hfree
  exact ⟨_, createIndex_of_ok hjx htable hindex hdropped hadded hcreated, ha₂.of_tables rfl rfl⟩

theorem forM_createIndex_of_alike {t : IndexedType} {s : StoreSettings}
    {ixs : List IndexDefinition} : ∀ {d d' e : Database}, TablesAlike s.stem t.typeId d e →
      ixs.forM (fun ix => t.createIndex s ix.name) d = .ok ((), d') →
      ∃ e', ixs.forM (fun ix => t.createIndex s ix.name) e = .ok ((), e') := by
  induction ixs with
  | nil => exact fun {_ _ e} _ _ => ⟨e, rfl⟩
  | cons ix ixs ih =>
    intro d d' e ha h
    obtain ⟨d₁, h₁, h₂⟩ := forM_cons_eq_ok.1 h
    obtain ⟨e₁, he₁, ha₁⟩ := createIndex_of_alike ha h₁
    obtain ⟨e', he'⟩ := ih ha₁ h₂
    exact ⟨e', forM_cons_eq_ok.2 ⟨e₁, he₁, he'⟩⟩

/-- The statements that create the indexes of a type can be run where it has none yet. -/
def IndexedType.Creatable (t : IndexedType) (s : StoreSettings) : Prop :=
  ∃ db, t.schema.indexes.forM (fun ix => t.createIndex s ix.name) .empty = .ok ((), db)

section
variable {t : IndexedType} {s : StoreSettings} {db db' : Database}

theorem tablesAlike_of_none {stem : String} {n : UInt32} {d e : Database}
    (hd : ∀ name, d.table? (tableName stem n name) = none)
    (he : ∀ name, e.table? (tableName stem n name) = none) : TablesAlike stem n d e where
  present name := by rw [hd, he]
  empty name u hu := by
    rw [he] at hu
    cases hu

theorem IndexedType.creatable_of_publish
    (hnone : ∀ name, db.table? (tableName s.stem t.typeId name) = none)
    (h : t.publish s db = .ok ((), db')) : t.Creatable s := by
  obtain ⟨-, d, hprovision, -⟩ := publish_eq_ok_iff.1 h
  obtain ⟨⟨⟩, d₁, hcreate, -⟩ := Transaction.bind_eq_ok.1 hprovision
  exact forM_createIndex_of_alike (tablesAlike_of_none hnone fun _ => rfl) hcreate

theorem IndexedType.Creatable.run (h : t.Creatable s)
    (hnone : ∀ name, db.table? (tableName s.stem t.typeId name) = none) :
    ∃ db', t.schema.indexes.forM (fun ix => t.createIndex s ix.name) db = .ok ((), db') := by
  obtain ⟨d, hd⟩ := h
  exact forM_createIndex_of_alike (tablesAlike_of_none (fun _ => rfl) hnone) hd

end

/-! ### Schemas that were published once -/

/-- Every schema that is stored was published, by this store, for a type name that can be used. -/
def Provisioned (s : Store) (db : Database) : Prop :=
  ∀ row ∈ db.schemas, validTypeName row.typeName = true ∧ ∃ n S, row.text = S.text ∧
    db.typeId? row.typeName = .ok (some n) ∧ IndexedType.Creatable ⟨n, row.typeName, S⟩ s.settings

section
variable {s : Store} {stem : String} {accepted : Record → Prop} {db db' : Database} {T : String}
  {n : UInt32} {S : Schema}

theorem Provisioned.of_published (h : Provisioned s db) (hp : Published db T n S) :
    validTypeName T = true ∧ IndexedType.Creatable ⟨n, T, S⟩ s.settings := by
  obtain ⟨hvalid, m, S', htext, hm, hcreatable⟩ := h _ (mem_of_schemaText? hp.text)
  have hp' : Published db T m S' := ⟨hp.text.trans (congrArg some htext), hm⟩
  obtain ⟨rfl, rfl⟩ := hp.unique hp'
  exact ⟨hvalid, hcreatable⟩

theorem Provisioned.of_sublist (h : Provisioned s db)
    (hs : ∀ row ∈ db'.schemas, row ∈ db.schemas)
    (hn : ∀ T n, db.typeId? T = .ok (some n) → db'.typeId? T = .ok (some n)) : Provisioned s db' := by
  intro row hrow
  obtain ⟨hvalid, n, S, htext, hnumber, hcreatable⟩ := h row (hs row hrow)
  exact ⟨hvalid, n, S, htext, hn _ n hnumber, hcreatable⟩

theorem Provisioned.of_fixedKept (h : Provisioned s db) (hk : FixedKept db db') :
    Provisioned s db' :=
  h.of_sublist (fun _ hrow => hk.schemas ▸ hrow) fun T _ hn => (typeId?_congr hk.types T).trans hn

theorem keptBy_provisioned (haccepted : ∀ r, accepted r → (Json.object r).WellFormed)
    (hs : s.settings.stem = stem) :
    KeptBy s accepted fun db => Coherent stem accepted db ∧ Provisioned s db where
  typeId h hstep := by
    refine ⟨h.1.typeId hstep, h.2.of_sublist (fun row hrow => ?_) (typesGrow_typeId hstep).number⟩
    rwa [schemas_of_typeId hstep] at hrow
  nextId h hstep := by
    refine ⟨h.1.nextId hstep, h.2.of_sublist (fun row hrow => ?_) (typesGrow_nextId hstep).number⟩
    obtain ⟨-, -, -, -, rfl⟩ := nextId_eq_ok hstep
    exact hrow
  addRecord {T n id r db db₁ db₂ u} h hn hnext hr hstep := by
    refine ⟨(keptBy_coherent haccepted hs).addRecord h.1 hn hnext hr hstep, ?_⟩
    have hnumbered : Provisioned s db₁ := by
      refine h.2.of_sublist (fun row hrow => ?_) (typesGrow_nextId hnext).number
      obtain ⟨-, -, -, -, rfl⟩ := nextId_eq_ok hnext
      exact hrow
    exact hnumbered.of_fixedKept (fixedKept_addRecord _ _ _ _ _ _ _ hstep)
  replaceRecord h hn hr hstep := ⟨h.1.replaceRecord haccepted hs hr hn hstep,
    h.2.of_fixedKept (replaceRecord_changesOne hstep).fixedKept⟩
  deleteRecord h hn hstep := ⟨h.1.deleteRecord hs hn hstep,
    h.2.of_fixedKept (deleteRecord_changesOne hstep).fixedKept⟩
  moveRecord h hn hstep := ⟨h.1.moveRecord hs hn hstep,
    h.2.of_fixedKept (moveRecord_changesOne hstep).fixedKept⟩
  clearType h hn hstep := ⟨h.1.clearType hs hn hstep,
    h.2.of_fixedKept (fixedKept_clearType _ _ _ _ _ _ hstep)⟩
  publish {T n S db db' u} h hvalid hn hstep := by
    subst hs
    obtain ⟨htypes, hnone, hschemas⟩ := fixed_publish hstep
    refine ⟨h.1.publish haccepted rfl hn hstep, fun row hrow => ?_⟩
    rw [hschemas] at hrow
    rw [typeId?_congr htypes]
    rcases List.mem_append.1 hrow with hrow | hrow
    · exact h.2 row hrow
    · obtain rfl := List.mem_singleton.1 hrow
      exact ⟨hvalid, n, S, rfl, hn,
        IndexedType.creatable_of_publish (h.1.table?_eq_none hn hnone) hstep⟩
  unpublish h hn hstep := by
    obtain ⟨htypes, hschemas⟩ := fixed_unpublish hstep
    refine ⟨h.1.unpublish hs hn hstep, h.2.of_sublist (fun row hrow => ?_) fun T n hn => ?_⟩
    · rw [hschemas] at hrow
      exact List.mem_of_mem_filter hrow
    · exact (typeId?_congr htypes T).trans hn

/-- Every schema that is stored is that of a type name that can be used. -/
def SchemasNamed (db : Database) : Prop :=
  ∀ row ∈ db.schemas, validTypeName row.typeName = true

theorem SchemasNamed.of_published (h : SchemasNamed db) (hp : Published db T n S) :
    validTypeName T = true :=
  h _ (mem_of_schemaText? hp.text)

theorem SchemasNamed.of_eq (h : SchemasNamed db) (hs : db'.schemas = db.schemas) :
    SchemasNamed db' :=
  fun row hrow => h row (hs ▸ hrow)

theorem keptBy_schemasNamed (s : Store) (accepted : Record → Prop) :
    KeptBy s accepted SchemasNamed where
  typeId h hstep := h.of_eq (schemas_of_typeId hstep)
  nextId h hstep := by
    obtain ⟨-, -, -, -, rfl⟩ := nextId_eq_ok hstep
    exact h
  addRecord h _ hnext _ hstep := by
    obtain ⟨-, -, -, -, rfl⟩ := nextId_eq_ok hnext
    exact h.of_eq (fixedKept_addRecord _ _ _ _ _ _ _ hstep).schemas
  replaceRecord h _ _ hstep := h.of_eq (replaceRecord_changesOne hstep).fixedKept.schemas
  deleteRecord h _ hstep := h.of_eq (deleteRecord_changesOne hstep).fixedKept.schemas
  moveRecord h _ hstep := h.of_eq (moveRecord_changesOne hstep).fixedKept.schemas
  clearType h _ hstep := h.of_eq (fixedKept_clearType _ _ _ _ _ _ hstep).schemas
  publish h hvalid _ hstep row hrow := by
    obtain ⟨-, -, hschemas⟩ := fixed_publish hstep
    rw [hschemas] at hrow
    rcases List.mem_append.1 hrow with hrow | hrow
    · exact h row hrow
    · rwa [List.mem_singleton.1 hrow]
  unpublish h _ hstep row hrow := by
    obtain ⟨-, hschemas⟩ := fixed_unpublish hstep
    rw [hschemas] at hrow
    exact h row (List.mem_of_mem_filter hrow)

/-- What every transaction of a store keeps holds of all that the store reaches by itself. -/
theorem ReachedAlone.induct {inv : Database → Prop} (hempty : inv .empty)
    (hkept : KeptBy s accepted inv) {w : Workspace} (h : ReachedAlone s accepted w) :
    inv w.database := by
  induction h with
  | fresh => exact hempty
  | perform o _ ho ih => exact hkept.perform ho ih

theorem ReachedAlone.provisioned (haccepted : ∀ r, accepted r → (Json.object r).WellFormed)
    {w : Workspace} (h : ReachedAlone s accepted w) : Provisioned s w.database :=
  (h.induct ⟨coherent_empty s.settings.stem accepted, fun _ hrow => by cases hrow⟩
    (keptBy_provisioned haccepted rfl)).2

end

end RecordStore
