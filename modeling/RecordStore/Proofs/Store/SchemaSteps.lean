import Mathlib
import RecordStore.Proofs.Store.RecordSteps

/-!
Registering a type, publishing a schema and removing one keep the database coherent.  A schema that is
published finds no table of its type, creates those of its indexes empty and enters the records one
after the other.
-/
namespace RecordStore
open Database Transaction Sql Index

attribute [local irreducible] tableName indexName

variable {stem : String} {accepted : Record → Prop} {db db' : Database} {T : String} {n : UInt32}

/-! ### Registration -/

/-- Only the registry changes, and the types that have a schema keep their numbers. -/
theorem Coherent.of_types (h : Coherent stem accepted db) (types : List TypeRow)
    (ht : TypesSound { db with types := types })
    (hn : ∀ T, (db.schemaText? T).isSome = true →
      typeId? { db with types := types } T = db.typeId? T) :
    Coherent stem accepted { db with types := types } := by
  have hpublished (T : String) (n : UInt32) (s : Schema) :
      Published { db with types := types } T n s ↔ Published db T n s := by
    constructor
    · rintro ⟨htext, hnumber⟩
      have htext' : db.schemaText? T = some s.text := htext
      rw [hn T (by rw [htext']; rfl)] at hnumber
      exact ⟨htext', hnumber⟩
    · rintro ⟨htext, hnumber⟩
      exact ⟨htext, by rw [hn T (by rw [htext]; rfl), hnumber]⟩
  refine ⟨ht, ⟨h.schemas.names, fun row hrow => ?_⟩, h.records,
    ⟨h.keyed.names, h.keyed.keys, h.keyed.numbered⟩, ?_, fun T n s hp => ?_⟩
  · obtain ⟨htext, m, hm⟩ := h.schemas.each row hrow
    refine ⟨htext, m, ?_⟩
    rw [hn, hm]
    have hmem : row.typeName ∈ db.schemas.map (·.typeName) := List.mem_map_of_mem hrow
    rw [schemaText?, Option.isSome_map, List.find?_isSome]
    exact ⟨row, hrow, by simp⟩
  · have howned : Owned stem (IndexPublished { db with types := types }) db := by
      refine h.owned.mono ?_
      rintro m name ⟨T, s, hp, hix⟩
      exact ⟨T, s, (hpublished T m s).2 hp, hix⟩
    exact ⟨howned.tables, howned.objects⟩
  · exact (h.holds T n s ((hpublished T n s).1 hp)).congr rfl (fun _ _ => rfl) fun _ _ => rfl

theorem Coherent.typeId (h : Coherent stem accepted db) {name : String} {create : Bool}
    {found : Option UInt32} (hstep : db.typeId name create = .ok (found, db')) :
    Coherent stem accepted db' := by
  rcases typeId_eq_ok hstep with ⟨-, rfl⟩ | ⟨hnone, hlast, id, rfl, hid, rfl⟩
  · exact h
  have hword := usableTypeId_eq_ok hid
  refine h.of_types _ ⟨?_, ?_, fun row hrow => ?_⟩ fun T hT => ?_
  · rw [List.map_append, List.nodup_append]
    refine ⟨h.types.names, List.nodup_singleton _, fun a ha b hb hab => ?_⟩
    obtain rfl := List.mem_singleton.1 hb
    subst hab
    exact typeRow?_eq_none hnone ha
  · rw [List.map_append, List.nodup_append]
    refine ⟨h.types.numbers, List.nodup_singleton _, fun a ha b hb hab => ?_⟩
    obtain rfl := List.mem_singleton.1 hb
    obtain ⟨row, hrow, rfl⟩ := List.mem_map.1 ha
    have hle := le_lastTypeId hrow
    have hlt := Int64.lt_iff_toInt_lt.1 (lt_succ_of_ne_maxWord hlast)
    rw [hab] at hle
    exact absurd hlt (not_lt.2 hle)
  · rcases List.mem_append.1 hrow with hrow | hrow
    · exact h.types.usable row hrow
    · obtain rfl := List.mem_singleton.1 hrow
      simp only
      have hlt := id.toNat_lt
      rw [hword, typeWord_toInt]
      omega
  · obtain ⟨text, htext⟩ := Option.isSome_iff_exists.1 hT
    obtain ⟨-, m, hm⟩ := h.schemas.each _ (mem_of_schemaText? htext)
    obtain ⟨row, hrow, -⟩ := typeId?_eq_some hm
    have hrow' : db.types.find? (·.name == T) = some row := hrow
    simp only [typeId?, typeRow?, List.find?_append, hrow', Option.some_or]

theorem Coherent.nextId (h : Coherent stem accepted db) {name : String} {id : UInt64}
    (hstep : db.nextId name = .ok (id, db')) : Coherent stem accepted db' := by
  have hsame := typeId?_of_nextId hstep
  obtain ⟨row, -, -, -, rfl⟩ := nextId_eq_ok hstep
  refine h.of_types _ ⟨?_, ?_, fun r hr => ?_⟩ fun T _ => hsame T
  · simpa only [List.map_map, Function.comp_def, movedOn_name] using h.types.names
  · simpa only [List.map_map, Function.comp_def, movedOn_typeId] using h.types.numbers
  · obtain ⟨old, hold, rfl⟩ := List.mem_map.1 hr
    rw [movedOn_typeId]
    exact h.types.usable old hold

/-! ### Entering the records that are there -/

theorem RowsWritten.refl {s : Schema} {records : List RecordRow} (hk : db.Keyed)
    (hh : IndexesHold stem n s records db) : RowsWritten stem n s records db db :=
  ⟨hh, composes_rowsOnly.refl db, hk, fun _ _ => rfl⟩

theorem RowsWritten.trans {s : Schema} {records records' : List RecordRow} {db₁ : Database}
    (h : RowsWritten stem n s records db db₁) (h' : RowsWritten stem n s records' db₁ db') :
    RowsWritten stem n s records' db db' where
  holds := h'.holds
  rowsOnly := composes_rowsOnly.trans h.rowsOnly h'.rowsOnly
  keyed := h'.keyed
  other x hx := (h'.other x hx).trans (h.other x hx)

theorem recordId_eq_ok {m : Int64} {id : UInt64} (h : recordId m = .ok id) :
    storedId? id = some m := by
  unfold recordId storedNumber at h
  split at h
  · next hnonneg =>
    obtain rfl := Except.ok.inj h
    exact storedId?_ofNat hnonneg
  · cases h

section
variable {t : IndexedType} {s : StoreSettings}
  (haccepted : ∀ r, accepted r → (Json.object r).WellFormed)
include haccepted

/-- A record that is entered gets its rows, with the flag of its state. -/
theorem backfill_holds {done : List RecordRow} {row : RecordRow} {u : Unit} (hk : db.Keyed)
    (hh : IndexesHold s.stem t.typeId t.schema done db) (hrow : RowSound accepted row)
    (hlive : row.state ≠ .deleted) (hnew : ∀ r ∈ done, r.id ≠ row.id)
    (h : t.backfill s row db = .ok (u, db')) :
    t.schema.Apart ∧ (t.schema.recordFault? row.record = none ∧
      ∀ ix ∈ t.schema.indexes, Bound t.schema ix row.record) ∧
      RowsWritten s.stem t.typeId t.schema (row :: done) db db' := by
  obtain ⟨id, r, db₁, hid, hr, hvalid, hinsert, hflag⟩ := backfill_eq_ok h
  obtain ⟨⟨r₀, hr₀, htext⟩, -, hstate⟩ := hrow
  obtain rfl := storedRecord_eq_ok (haccepted r₀ hr₀) htext hr
  have hword := recordId_eq_ok hid
  obtain ⟨hapart, hbound, hinserted⟩ := IndexedType.insertRows_holds
    { row with state := .live } hk hh hinsert hword rfl fun _ => rfl
  refine ⟨hapart, ⟨hvalid, hbound⟩, ?_⟩
  rcases hflag with ⟨hq, hflag⟩ | ⟨hq, rfl⟩
  · have hflagged := IndexedType.flagRows_holds .quarantined hinserted.keyed hapart
      hinserted.holds hflag hword rfl
    have hrows : ({ row with state := .live } :: done).map (fun r =>
        if r.id == row.id then { r with state := .quarantined } else r) = row :: done := by
      rw [List.map_cons]
      congr 1
      · simp [← hq]
      · conv_rhs => rw [← List.map_id done]
        refine List.map_congr_left fun r hr => ?_
        simp [hnew r hr]
    rw [hrows] at hflagged
    exact hinserted.trans hflagged
  · have hsame : { row with state := .live } = row := by
      have hnow : row.state = .live := by tauto
      rw [← hnow]
    rw [hsame] at hinserted
    exact hinserted

theorem forM_backfill_holds {rows : List RecordRow} :
    ∀ {db db' : Database} {done : List RecordRow}, db.Keyed →
      IndexesHold s.stem t.typeId t.schema done db →
      (∀ row ∈ rows, RowSound accepted row ∧ row.state ≠ .deleted) →
      ((done ++ rows).map (·.id)).Nodup → rows.forM (t.backfill s) db = .ok ((), db') →
      (t.schema.Apart ∨ rows = []) ∧
        (∀ row ∈ rows, t.schema.recordFault? row.record = none ∧
          ∀ ix ∈ t.schema.indexes, Bound t.schema ix row.record) ∧
        RowsWritten s.stem t.typeId t.schema (rows.reverse ++ done) db db' := by
  induction rows with
  | nil =>
    intro db db' done hk hh _ _ h
    obtain rfl := forM_nil_eq_ok.1 h
    exact ⟨.inr rfl, by simp, .refl hk hh⟩
  | cons row rows ih =>
    intro db db' done hk hh hsound hids h
    obtain ⟨db₁, h₁, h₂⟩ := forM_cons_eq_ok.1 h
    obtain ⟨hrow, hlive⟩ := hsound row (by simp)
    have hnew (r : RecordRow) (hr : r ∈ done) : r.id ≠ row.id := by
      rw [List.map_append, List.nodup_append] at hids
      exact hids.2.2 r.id (List.mem_map_of_mem hr) row.id (by simp)
    obtain ⟨hapart, hvalid, hwritten⟩ := backfill_holds haccepted hk hh hrow hlive hnew h₁
    have hids' : ((row :: done ++ rows).map (·.id)).Nodup := by
      have hperm : (done ++ row :: rows).Perm (row :: done ++ rows) := List.perm_middle
      exact (hperm.map _).nodup_iff.1 hids
    obtain ⟨-, hvalids, hrest⟩ := ih hwritten.keyed hwritten.holds
      (fun r hr => hsound r (by simp [hr])) hids' h₂
    refine ⟨.inl hapart, fun r hr => ?_, ?_⟩
    · rcases List.mem_cons.1 hr with rfl | hr
      · exact hvalid
      · exact hvalids r hr
    · rw [List.reverse_cons, List.append_assoc]
      exact hwritten.trans hrest

/-- Tables without rows follow the records of their type once these are all entered. -/
theorem rowsFollow_of_forM_backfill {u : Unit} (hk : db.Keyed)
    (hempty : IndexesHold s.stem t.typeId t.schema [] db) (hr : RecordsSound accepted db.records)
    (h : (db.recordsOf (typeWord t.typeId)).forM (t.backfill s) db = .ok (u, db')) :
    RowsFollow s.stem t.typeId t.schema db db' := by
  have hperm := recordsOf_perm db t.typeId
  have hsound (row : RecordRow) (hrow : row ∈ db.recordsOf (typeWord t.typeId)) :
      RowSound accepted row ∧ row.state ≠ .deleted := by
    obtain ⟨hmem, -, hlive⟩ := mem_liveRecords.1 (hperm.subset hrow)
    exact ⟨hr.each row hmem, hlive⟩
  have hids : ((db.recordsOf (typeWord t.typeId)).map (·.id)).Nodup :=
    (hperm.map _).nodup_iff.2 hr.nodup_ids
  rw [← List.nil_append (db.recordsOf (typeWord t.typeId))] at hids
  obtain ⟨hapart, hvalid, hwritten⟩ := forM_backfill_holds haccepted hk hempty hsound hids h
  rw [List.append_nil] at hwritten
  refine ⟨⟨_, (List.reverse_perm _).trans hperm, hwritten⟩,
    fun row hrow => hvalid row (hperm.symm.subset hrow), hapart.imp id fun hnil => ?_⟩
  rw [hnil] at hperm
  exact List.nil_perm.1 hperm

end

/-! ### Publishing a schema -/

theorem schemaText?_append {text : String} (T' : String) (hnone : db.schemaText? T = none) :
    schemaText? { db with schemas := db.schemas ++ [⟨T, text⟩] } T' =
      if T' = T then some text else db.schemaText? T' := by
  by_cases hT : T' = T
  · subst hT
    have hfind : db.schemas.find? (·.typeName == T') = none := by
      simpa [schemaText?] using hnone
    simp [schemaText?, List.find?_append, hfind]
  · have hne : (T == T') = false := beq_eq_false_iff_ne.2 fun h => hT h.symm
    simp [schemaText?, List.find?_append, hne, hT]

/-- A database to which the schema of a type has been added. -/
structure AddsSchema (t : IndexedType) (db db' : Database) : Prop where
  types : db'.types = db.types
  schemas : db'.schemas = db.schemas ++ [⟨t.typeName, t.schema.text⟩]
  unpublished : db.schemaText? t.typeName = none

namespace AddsSchema
variable {t : IndexedType} {m : UInt32} {S : Schema}

theorem typeId? (h : AddsSchema t db db') (T : String) : db'.typeId? T = db.typeId? T := by
  rw [Database.typeId?, Database.typeId?, typeRow?, typeRow?, h.types]

theorem schemaText? (h : AddsSchema t db db') (T : String) : db'.schemaText? T =
    if T = t.typeName then some t.schema.text else db.schemaText? T := by
  rw [← schemaText?_append T h.unpublished, Database.schemaText?, Database.schemaText?, h.schemas]

theorem published_new (h : AddsSchema t db db') (hn : db.typeId? t.typeName = .ok (some t.typeId)) :
    Published db' t.typeName t.typeId t.schema :=
  ⟨by rw [h.schemaText?, if_pos rfl], (h.typeId? _).trans hn⟩

theorem published_old (h : AddsSchema t db db') (hp : Published db T m S) : Published db' T m S := by
  refine ⟨?_, (h.typeId? T).trans hp.number⟩
  have hne : T ≠ t.typeName := by
    rintro rfl
    have htext := hp.text
    rw [h.unpublished] at htext
    cases htext
  rw [h.schemaText?, if_neg hne]
  exact hp.text

theorem published_cases (h : AddsSchema t db db') (ht : TypesSound db)
    (hn : db.typeId? t.typeName = .ok (some t.typeId)) (hp : Published db' T m S) :
    T = t.typeName ∧ m = t.typeId ∧ S = t.schema ∨ m ≠ t.typeId ∧ Published db T m S := by
  by_cases hT : T = t.typeName
  · subst hT
    obtain ⟨rfl, rfl⟩ := hp.unique (h.published_new hn)
    exact .inl ⟨rfl, rfl, rfl⟩
  · have htext := hp.text
    rw [h.schemaText?, if_neg hT] at htext
    have hold : Published db T m S := ⟨htext, (h.typeId? T).symm.trans hp.number⟩
    refine .inr ⟨?_, hold⟩
    rintro rfl
    exact hT (ht.eq_of_number hold.number hn)

theorem typesSound (h : AddsSchema t db db') (ht : TypesSound db) : TypesSound db' :=
  ⟨h.types ▸ ht.names, h.types ▸ ht.numbers, h.types ▸ ht.usable⟩

theorem schemasSound (h : AddsSchema t db db') (hs : SchemasSound db)
    (hn : db.typeId? t.typeName = .ok (some t.typeId)) : SchemasSound db' := by
  constructor
  · rw [h.schemas, List.map_append, List.nodup_append]
    refine ⟨hs.names, List.nodup_singleton _, ?_⟩
    intro a ha b hb hab
    obtain rfl := List.mem_singleton.1 hb
    subst hab
    obtain ⟨row, hrow, hname⟩ := List.mem_map.1 ha
    have hsome : (db.schemaText? t.typeName).isSome = true := by
      rw [Database.schemaText?, Option.isSome_map, List.find?_isSome]
      exact ⟨row, hrow, by simpa using hname⟩
    rw [h.unpublished] at hsome
    cases hsome
  · intro row hrow
    rw [h.schemas] at hrow
    rw [h.typeId?]
    rcases List.mem_append.1 hrow with hrow | hrow
    · exact hs.each row hrow
    · obtain rfl := List.mem_singleton.1 hrow
      exact ⟨⟨t.schema, rfl⟩, t.typeId, hn⟩

end AddsSchema

/-- A type without a schema has no index table. -/
theorem Coherent.table?_eq_none (h : Coherent stem accepted db) (hn : db.typeId? T = .ok (some n))
    (hnone : db.schemaText? T = none) (name : String) :
    db.table? (tableName stem n name) = none := by
  cases ht : db.table? (tableName stem n name) with
  | none => rfl
  | some t =>
    obtain ⟨T', S, ix, hp, -, -⟩ := h.exists_index ht
    obtain rfl := h.types.eq_of_number hp.number hn
    have := hp.text
    rw [hnone] at this
    cases this

/-- Tables that were created for a type without any are empty. -/
theorem IndexesCreated.holds_nil {S : Schema} {owner : UInt32 → String → Prop}
    (h : IndexesCreated stem n S S.indexes owner db db')
    (hnone : ∀ name, db.table? (tableName stem n name) = none) : IndexesHold stem n S [] db' := by
  intro ix hix
  obtain ⟨u, hu⟩ := Option.isSome_iff_exists.1 (h.present ix hix)
  refine ⟨u, hu, ?_⟩
  rcases h.fresh _ u hu with hold | ⟨hrows, jx, hjx, hsame, hshaped⟩
  · rw [hnone] at hold
    cases hold
  · refine ⟨⟨jx, hjx, (sameName_tableName.1 hsame).2, hshaped⟩, ?_⟩
    rw [Filled, hrows]
    exact .nil

/-- A table of a name that none of the created ones has is as it was. -/
theorem IndexesCreated.table?_other {S : Schema} {owner : UInt32 → String → Prop}
    (h : IndexesCreated stem n S S.indexes owner db db') {x : String}
    (hx : ∀ ix ∈ S.indexes, sameName (tableName stem n ix.name) x = false) :
    db'.table? x = db.table? x := by
  apply Option.ext
  intro u
  constructor
  · intro hu
    rcases h.fresh x u hu with hu | ⟨-, ix, hix, hsame, -⟩
    · exact hu
    · rw [hx ix hix] at hsame
      cases hsame
  · exact h.kept x u

theorem Coherent.publish (h : Coherent stem accepted db) {t : IndexedType} {s : StoreSettings}
    (haccepted : ∀ r, accepted r → (Json.object r).WellFormed) (hs : s.stem = stem)
    (hn : db.typeId? t.typeName = .ok (some t.typeId)) {u : Unit}
    (hstep : t.publish s db = .ok (u, db')) : Coherent stem accepted db' := by
  obtain rfl := hs
  obtain ⟨hnone, db₁, hcreate, hfill⟩ := publish_eq_ok hstep
  have hkeyed : Keyed { db with schemas := db.schemas ++ [⟨t.typeName, t.schema.text⟩] } :=
    ⟨h.keyed.names, h.keyed.keys, h.keyed.numbered⟩
  have howned : Owned s.stem (IndexPublished db)
      { db with schemas := db.schemas ++ [⟨t.typeName, t.schema.text⟩] } :=
    ⟨h.owned.tables, h.owned.objects⟩
  have hcreated := indexesCreated_of_forM (fun _ hix => hix) hkeyed howned hcreate
  have hempty : IndexesHold s.stem t.typeId t.schema [] db₁ :=
    hcreated.holds_nil (h.table?_eq_none hn hnone)
  have hfollows : RowsFollow s.stem t.typeId t.schema db₁ db' :=
    rowsFollow_of_forM_backfill haccepted hcreated.keyed hempty
      (hcreated.records.symm ▸ h.records) hfill
  obtain ⟨_, -, hwritten⟩ := hfollows.written
  obtain ⟨htypes, hschemas, hrecords, hobjects, hdefinitions⟩ := hwritten.rowsOnly
  have hadds : AddsSchema t db db' :=
    ⟨htypes.trans hcreated.types, hschemas.trans hcreated.schemas, hnone⟩
  have hrecords' : db'.records = db.records := hrecords.trans hcreated.records
  refine ⟨hadds.typesSound h.types, hadds.schemasSound h.schemas hn, ?_, hwritten.keyed, ?_, ?_⟩
  · rw [hrecords']
    exact h.records
  · refine (hcreated.owned.of_definitions hdefinitions hobjects).mono ?_
    rintro m name (⟨T, S, hp, hix⟩ | ⟨rfl, hix⟩)
    · exact ⟨T, S, hadds.published_old hp, hix⟩
    · exact ⟨t.typeName, t.schema, hadds.published_new hn, hix⟩
  · intro T m S hp
    rcases hadds.published_cases h.types hn hp with ⟨rfl, rfl, rfl⟩ | ⟨hm, hp⟩
    · exact hfollows.typeHolds hcreated.readable hcreated.objects
    · -- the tables of another type are as they were
      have hother (x : String) : ∀ ix ∈ t.schema.indexes,
          sameName (tableName s.stem t.typeId ix.name) (tableName s.stem m x) = false :=
        fun ix _ => sameName_tableName_of_type_ne hm.symm ix.name x
      apply (h.holds T m S hp).congr (liveRecords_congr hrecords' m)
      · intro ix _
        rw [hwritten.other _ (hother ix.name)]
        exact hcreated.table?_other (hother ix.name)
      · intro ix _
        rw [indexesOf_congr_objects hobjects, hcreated.otherObjects _ (hother ix.name)]
        rfl

/-! ### Removing a schema -/

theorem schemaText?_removeSchema (db : Database) (T T' : String) :
    (db.removeSchema T).schemaText? T' = if T' = T then none else db.schemaText? T' := by
  simp only [removeSchema, schemaText?, List.find?_filter]
  by_cases hT : T' = T
  · subst hT
    simp
  · rw [if_neg hT]
    congr 2
    funext row
    by_cases hrow : row.typeName = T'
    · simp [hrow, hT]
    · simp [hrow]

/-- Without a schema and its tables the other types have theirs. -/
theorem published_withoutIndexes {ixs : List IndexDefinition} {T' : String} {m : UInt32} {S' : Schema} :
    Published (withoutIndexes stem n ixs (db.removeSchema T)) T' m S' ↔
      T' ≠ T ∧ Published db T' m S' := by
  have htext : (withoutIndexes stem n ixs (db.removeSchema T)).schemaText? T' =
      if T' = T then none else db.schemaText? T' := schemaText?_removeSchema db T T'
  constructor
  · rintro ⟨htext', hnumber⟩
    rw [htext] at htext'
    split at htext'
    · cases htext'
    · next hne => exact ⟨hne, htext', hnumber⟩
  · rintro ⟨hne, hp⟩
    exact ⟨by rw [htext, if_neg hne, hp.text], hp.number⟩

/-- A table that is left belongs to an index of another type. -/
theorem IndexPublished.withoutIndexes {S : Schema} {m : UInt32} {name : String}
    (h : IndexPublished db m name) (hp : Published db T n S)
    (hnot : S.indexes.all (fun ix => !sameName (tableName stem m name) (tableName stem n ix.name)) =
      true) :
    IndexPublished (withoutIndexes stem n S.indexes (db.removeSchema T)) m name := by
  obtain ⟨T', S', hp', ix, hix, rfl⟩ := h
  refine ⟨T', S', published_withoutIndexes.2 ⟨?_, hp'⟩, ix, hix, rfl⟩
  rintro rfl
  obtain ⟨rfl, rfl⟩ := hp'.unique hp
  have hself := List.all_eq_true.1 hnot ix hix
  rw [sameName_self] at hself
  cases hself

theorem Coherent.unpublish (h : Coherent stem accepted db) {s : StoreSettings} (hs : s.stem = stem)
    (hn : db.typeId? T = .ok (some n)) {b : Bool}
    (hstep : RecordStore.unpublish s n T db = .ok (b, db')) : Coherent stem accepted db' := by
  obtain rfl := hs
  obtain ⟨schema, hf, ⟨-, -, rfl⟩ | ⟨-, S, rfl, hdrop⟩⟩ := unpublish_eq_ok hstep
  · exact h
  have hp : Published db T n S := by
    rcases h.schemas.published_of_finds hn hf with ⟨hnone, -⟩ | ⟨S', hS, hp⟩
    · cases hnone
    · rwa [Option.some.inj hS]
  have howned : Owned s.stem (IndexPublished db) (db.removeSchema T) :=
    ⟨h.owned.tables, h.owned.objects⟩
  obtain rfl := forM_dropIndexTable_eq_ok howned hdrop
  refine ⟨⟨h.types.names, h.types.numbers, h.types.usable⟩, ⟨?_, ?_⟩, h.records,
    keyed_withoutIndexes ⟨h.keyed.names, h.keyed.keys, h.keyed.numbered⟩, ⟨?_, ?_⟩, ?_⟩
  · exact h.schemas.names.sublist (List.filter_sublist.map _)
  · intro row hrow
    exact h.schemas.each row (List.mem_of_mem_filter hrow)
  · intro t ht
    obtain ⟨hmem, hall⟩ := List.mem_filter.1 ht
    obtain ⟨m, name, hix, hname⟩ := h.owned.tables t hmem
    rw [hname] at hall
    exact ⟨m, name, hix.withoutIndexes hp hall, hname⟩
  · intro o ho
    obtain ⟨hmem, hall⟩ := List.mem_filter.1 ho
    obtain ⟨m, name, hix, hread, hname⟩ := h.owned.objects o hmem
    rw [hname] at hall
    exact ⟨m, name, hix.withoutIndexes hp hall, hread, hname⟩
  · intro T' m S' hp'
    obtain ⟨hne, hp'⟩ := published_withoutIndexes.1 hp'
    have hnumber : n ≠ m := by
      rintro rfl
      exact hne (h.types.eq_of_number hp'.number hn)
    have hother (x : String) : ∀ ix ∈ S.indexes,
        sameName (tableName s.stem n ix.name) (tableName s.stem m x) = false :=
      fun ix _ => sameName_tableName_of_type_ne hnumber ix.name x
    refine (h.holds T' m S' hp').congr rfl ?_ ?_
    · intro ix _
      exact table?_withoutIndexes _ (hother ix.name)
    · intro ix _
      exact indexesOf_withoutIndexes _ (hother ix.name)

end RecordStore
