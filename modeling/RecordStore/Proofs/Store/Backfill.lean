import Mathlib
import RecordStore.Proofs.Store.Entering
import RecordStore.Proofs.Store.Framed
import RecordStore.Proofs.Store.IndexConsistency

/-!
Two ways to the rows of an index.  A schema that is published first has each record entered when it is
created; one that is published last enters the records that are there.  Both take the same steps on
the tables of the indexes, one record after the other, so they end in the same database or fail both.
-/
namespace RecordStore
open Database Transaction Index RecordStore.Action

attribute [local irreducible] tableName indexName

/-! ### Records with the same fields have the same rows -/

namespace Index

theorem columnScalar_eq (t : Target) (c : IndexColumn) (r : Record) : columnScalar t c r =
    match fieldScalar? c.name r with
    | some f => .ok f
    | none => .error (.schemaMismatch (.notScalar t.typeName c.name)) := by
  unfold columnScalar fieldScalar?
  cases Json.member? c.name r <;> rfl

theorem SameFields.insertRow {r r' : Record} (h : SameFields r r') (t : Target) (id : UInt64) :
    Index.insertRow t id r = Index.insertRow t id r' := by
  have hvalue : columnValue t r = columnValue t r' := by
    funext c
    rw [columnValue, columnValue, columnScalar_eq, columnScalar_eq, h c.name]
  rw [Index.insertRow, Index.insertRow, rowValues, rowValues, hvalue]

end Index

theorem recordId_of_storedId? {id : UInt64} {m : Int64} (h : storedId? id = some m) :
    recordId m = .ok id := by
  obtain ⟨hnonneg, -, hid⟩ := storedId?_eq_some h
  rw [recordId, storedNumber, if_pos hnonneg, hid]

namespace IndexedType
variable (t : IndexedType) (s : StoreSettings)

/-! ### Entering one record and all of them -/

/-- Enters a record into the tables of all indexes, as long as it fits the schema. -/
def enter (id : UInt64) (r : Record) : Transaction Unit := do
  lift (checkRecord t.typeName t.schema r)
  t.insertRows s id r

/-- Creates the indexes of a type and enters stored records. -/
def provision (rows : List RecordRow) : Transaction Unit := do
  t.schema.indexes.forM fun ix => t.createIndex s ix.name
  rows.forM (t.backfill s)

theorem framed_enter (id : UInt64) (r : Record) : Framed (t.enter s id r) :=
  framed_bind (framed_lift _) fun _ => framed_insertRows t s id r

theorem framed_provision (rows : List RecordRow) : Framed (t.provision s rows) :=
  framed_bind (framed_forM fun ix _ => framed_createIndex t s ix.name) fun _ =>
    framed_forM fun row _ => framed_backfill t s row

theorem provision_append (rows : List RecordRow) (row : RecordRow) :
    t.provision s (rows ++ [row]) = (do t.provision s rows; t.backfill s row) := by
  have hloop : (rows ++ [row]).forM (t.backfill s) =
      rows.forM (t.backfill s) >>= fun _ => t.backfill s row := by
    simp only [List.forM_eq_forM, List.forM_append, List.forM_cons, List.forM_nil, bind_pure_unit]
  rw [provision, provision, hloop, bind_assoc]

variable {t s}

/-- The text of a record is read as one with the same fields, so a record that is entered later gets
the rows that it would have got at once. -/
theorem backfill_eq_enter {row : RecordRow} {id : UInt64} {r : Record} (hr : Readable r)
    (hid : storedId? id = some row.id) (hstate : row.state = .live)
    (htext : row.text = (Json.object r).text) : t.backfill s row = t.enter s id r := by
  obtain ⟨hformed, hdepth⟩ := hr
  have hrecord := row.record_of_text hformed htext
  have hcheck : checkRecord t.typeName t.schema row.record =
      checkRecord t.typeName t.schema r := by
    rw [checkRecord, checkRecord, hrecord, Schema.recordFault?_reread]
  have hinsert : t.insertRows s id row.record = t.insertRows s id r := by
    have hsame : SameFields row.record r := hrecord ▸ sameFields_reread r
    simp only [insertRows, hsame.insertRow]
  rw [backfill, recordId_of_storedId? hid, storedRecord_of_depth hformed hdepth htext, hstate]
  show (Transaction.lift (checkRecord _ _ row.record) >>= fun _ =>
    t.insertRows s id row.record >>= fun _ => pure ()) = _
  rw [hcheck, hinsert, bind_pure_unit]
  rfl

theorem publish_eq_ok_iff {db db' : Database} : t.publish s db = .ok ((), db') ↔
    db.schemaText? t.typeName = none ∧
      ∃ d, t.provision s (db.recordsOf (typeWord t.typeId)) db = .ok ((), d) ∧
        db' = d.over { db with schemas := db.schemas ++ [⟨t.typeName, t.schema.text⟩] } := by
  let fixed : Database := { db with schemas := db.schemas ++ [⟨t.typeName, t.schema.text⟩] }
  have hcreate : Framed (t.schema.indexes.forM fun ix => t.createIndex s ix.name) :=
    framed_forM fun ix _ => framed_createIndex t s ix.name
  have hfill : Framed ((db.recordsOf (typeWord t.typeId)).forM (t.backfill s)) :=
    framed_forM fun row _ => framed_backfill t s row
  constructor
  · intro h
    obtain ⟨hnone, db₁, h₁, h₂⟩ := publish_eq_ok h
    -- the new schema is a fixed table, which the steps on indexes do not see
    obtain ⟨d₁, hd₁, rfl⟩ := (hcreate.over_eq_ok db fixed).1 h₁
    obtain ⟨d₂, hd₂, rfl⟩ := (hfill.over_eq_ok d₁ fixed).1 h₂
    exact ⟨hnone, d₂, Transaction.bind_eq_ok.2 ⟨(), d₁, hd₁, hd₂⟩, rfl⟩
  · rintro ⟨hnone, d, hprovision, rfl⟩
    obtain ⟨⟨⟩, d₁, hd₁, hd₂⟩ := Transaction.bind_eq_ok.1 hprovision
    have hadd : apply (·.addSchema t.typeName t.schema.text) db = .ok ((), fixed) := by
      refine apply_eq_ok.2 ?_
      rw [addSchema, hnone]
      rfl
    have h₁ := (hcreate.over_eq_ok db fixed).2 ⟨d₁, hd₁, rfl⟩
    have h₂ := (hfill.over_eq_ok d₁ fixed).2 ⟨d, hd₂, rfl⟩
    have hget : (get : Transaction Database) (d₁.over fixed) = .ok (d₁.over fixed, d₁.over fixed) :=
      rfl
    exact (Transaction.bind_of_ok hadd).trans ((Transaction.bind_of_ok h₁).trans
      ((Transaction.bind_of_ok hget).trans h₂))

end IndexedType

/-! ### Adding a record before and after publishing -/

section
variable {stem : String} {accepted : Record → Prop} {db db₁ db' : Database} {T : String} {n : UInt32}

theorem FindsSchema.unique {schema schema' : Option Schema} (h : FindsSchema db T schema)
    (h' : FindsSchema db T schema') : schema = schema' := by
  have hstored := (storedSchema_of_finds h).symm.trans (storedSchema_of_finds h')
  exact (Prod.mk.inj (Except.ok.inj hstored)).1

theorem addRecord_eq_ok_iff {s : StoreSettings} {key : Key} {r : Record} {schema : Option Schema}
    (hf : FindsSchema db key.typeName schema) :
    addRecord s n key r db = .ok ((), db') ↔
      ∃ m db₁, keyWord key = .ok m ∧
        db.addRecord ⟨typeWord n, m, .live, (Json.object r).text⟩ = .ok db₁ ∧
        Follows schema (fun S => IndexedType.enter ⟨n, key.typeName, S⟩ s key.id r) db₁ db' := by
  constructor
  · intro h
    obtain ⟨schema', m, hf', hvalid, hkey, hfree, hrows⟩ := addRecord_eq_ok h
    obtain rfl := hf.unique hf'
    refine ⟨m, _, hkey, if_neg (by simpa using hfree), ?_⟩
    rcases hrows with ⟨rfl, rfl⟩ | ⟨S, rfl, hrows⟩
    · exact .inl ⟨rfl, rfl⟩
    · have hcheck : checkRecord key.typeName S r = .ok () := checkRecord_eq_ok.2 (hvalid S rfl)
      exact .inr ⟨S, rfl, Transaction.bind_eq_ok.2 ⟨(), _, lift_eq_ok.2 ⟨hcheck, rfl⟩, hrows⟩⟩
  · rintro ⟨m, db₁, hkey, hadd, hrows⟩
    have hword : lift (keyWord key) db = .ok (m, db) := lift_eq_ok.2 ⟨hkey, rfl⟩
    have hrow : apply (·.addRecord ⟨typeWord n, m, .live, (Json.object r).text⟩) db =
        .ok ((), db₁) := apply_eq_ok.2 hadd
    rcases hrows with ⟨rfl, rfl⟩ | ⟨S, rfl, hrows⟩
    · have hfor := schemaFor_of_finds (r := r) hf nofun
      exact (Transaction.bind_of_ok hfor).trans ((Transaction.bind_of_ok hword).trans
        (Transaction.bind_of_ok hrow))
    · obtain ⟨⟨⟩, db₂, hlift, hinsert⟩ := Transaction.bind_eq_ok.1 hrows
      obtain ⟨hcheck, rfl⟩ := lift_eq_ok.1 hlift
      have hfor := schemaFor_of_finds (r := r) hf fun S' hS =>
        Option.some.inj hS ▸ checkRecord_eq_ok.1 hcheck
      exact (Transaction.bind_of_ok hfor).trans ((Transaction.bind_of_ok hword).trans
        ((Transaction.bind_of_ok hrow).trans hinsert))

/-- Records of one type stand by their numbers already. -/
theorem Counted.recordsOf_eq (h : Counted db) (n : UInt32) :
    db.recordsOf (typeWord n) = db.liveRecords n := by
  refine List.mergeSort_of_pairwise ?_
  have hordered := (List.pairwise_map.1 h.ascending).sublist
    (List.filter_sublist (p := fun r => r.typeId == typeWord n && r.state != .deleted))
  refine hordered.imp_of_mem fun {a b} ha hb hab => ?_
  obtain ⟨-, ha, -⟩ := mem_liveRecords.1 ha
  obtain ⟨-, hb, -⟩ := mem_liveRecords.1 hb
  rw [decide_eq_true_iff, Int64.le_iff_toInt_le]
  exact le_of_lt (hab (ha.trans hb.symm))

/-- The row of a new record. -/
def newRow (n : UInt32) (m : Int64) (r : Record) : RecordRow :=
  ⟨typeWord n, m, .live, (Json.object r).text⟩

section
variable {s : StoreSettings} {S : Schema} {id : UInt64} {m : Int64} {r : Record}
  (hkey : keyWord ⟨T, id⟩ = .ok m)
  (hfresh : ∀ row ∈ db.records, row.typeId = typeWord n → row.id.toInt < m.toInt)
include hkey hfresh

theorem addRecord_fresh_iff {schema : Option Schema} (hf : FindsSchema db T schema) :
    addRecord s n ⟨T, id⟩ r db = .ok ((), db') ↔
      Follows schema (fun S => IndexedType.enter ⟨n, T, S⟩ s id r)
        { db with records := db.records ++ [newRow n m r] } db' := by
  have hrow : db.addRecord (newRow n m r) =
      .ok { db with records := db.records ++ [newRow n m r] } := by
    refine if_neg ?_
    rw [Bool.not_eq_true, List.any_eq_false]
    intro row hmem hhit
    obtain ⟨htype, hid⟩ := by simpa using hhit
    have hlt := hfresh row hmem htype
    rw [hid] at hlt
    exact lt_irrefl _ hlt
  rw [addRecord_eq_ok_iff hf]
  constructor
  · rintro ⟨m', d, hm, hd, hrows⟩
    obtain rfl := Except.ok.inj (hkey.symm.trans hm)
    obtain rfl := Except.ok.inj (hrow.symm.trans hd)
    exact hrows
  · exact fun hrows => ⟨_, _, hkey, hrow, hrows⟩

variable (types : List TypeRow) (hnone : db.schemaText? T = none)
include hnone

/-- A record that is added after a schema was published is entered behind those that were there. -/
theorem publish_addRecord_iff :
    (∃ d, IndexedType.publish ⟨n, T, S⟩ s db = .ok ((), d) ∧
        addRecord s n ⟨T, id⟩ r { d with types := types } = .ok ((), db')) ↔
      ∃ d, (do
        IndexedType.provision ⟨n, T, S⟩ s (db.recordsOf (typeWord n))
        IndexedType.enter ⟨n, T, S⟩ s id r : Transaction Unit) db = .ok ((), d) ∧
          db' = d.over { db with
            types := types
            schemas := db.schemas ++ [⟨T, S.text⟩]
            records := db.records ++ [newRow n m r] } := by
  let published : Database :=
    { db with types := types, schemas := db.schemas ++ [⟨T, S.text⟩] }
  have hfinds (e : Database) : FindsSchema (e.over published) T (some S) := by
    refine .inr ⟨S.text, S, rfl, ?_, Schema.parse_text S⟩
    exact (schemaText?_append T hnone).trans (if_pos rfl)
  have hafter (e : Database) : addRecord s n ⟨T, id⟩ r (e.over published) = .ok ((), db') ↔
      ∃ f, IndexedType.enter ⟨n, T, S⟩ s id r e = .ok ((), f) ∧
        db' = f.over { published with records := db.records ++ [newRow n m r] } := by
    have hfresh' : ∀ row ∈ (e.over published).records, row.typeId = typeWord n →
        row.id.toInt < m.toInt := hfresh
    rw [addRecord_fresh_iff hkey hfresh' (hfinds e),
      ← (IndexedType.framed_enter ⟨n, T, S⟩ s id r).over_eq_ok]
    constructor
    · rintro (⟨hnot, -⟩ | ⟨S', hS, hrows⟩)
      · cases hnot
      · obtain rfl := Option.some.inj hS
        exact hrows
    · exact fun hrows => .inr ⟨S, rfl, hrows⟩
  constructor
  · rintro ⟨d, hpublish, hadd⟩
    obtain ⟨-, e, he, rfl⟩ := IndexedType.publish_eq_ok_iff.1 hpublish
    obtain ⟨f, hf, rfl⟩ := (hafter e).1 hadd
    exact ⟨f, Transaction.bind_eq_ok.2 ⟨(), e, he, hf⟩, rfl⟩
  · rintro ⟨f, hboth, rfl⟩
    obtain ⟨⟨⟩, e, he, hf⟩ := Transaction.bind_eq_ok.1 hboth
    exact ⟨_, IndexedType.publish_eq_ok_iff.2 ⟨hnone, e, he, rfl⟩, (hafter e).2 ⟨f, hf, rfl⟩⟩

/-- A record that was added before a schema is published is entered last, since it has the largest
number. -/
theorem addRecord_publish_iff (hr : Readable r)
    (hrows : recordsOf { db with records := db.records ++ [newRow n m r] } (typeWord n) =
      db.recordsOf (typeWord n) ++ [newRow n m r]) :
    (∃ d, addRecord s n ⟨T, id⟩ r { db with types := types } = .ok ((), d) ∧
        IndexedType.publish ⟨n, T, S⟩ s d = .ok ((), db')) ↔
      ∃ d, (do
        IndexedType.provision ⟨n, T, S⟩ s (db.recordsOf (typeWord n))
        IndexedType.enter ⟨n, T, S⟩ s id r : Transaction Unit) db = .ok ((), d) ∧
          db' = d.over { db with
            types := types
            schemas := db.schemas ++ [⟨T, S.text⟩]
            records := db.records ++ [newRow n m r] } := by
  let added : Database :=
    { db with types := types, records := db.records ++ [newRow n m r] }
  have hadded {d : Database} :
      addRecord s n ⟨T, id⟩ r { db with types := types } = .ok ((), d) ↔ d = added := by
    have hfinds : FindsSchema { db with types := types } T none := .inl ⟨rfl, hnone⟩
    rw [addRecord_fresh_iff hkey (show ∀ row ∈ records { db with types := types }, _ from hfresh)
      hfinds]
    constructor
    · rintro (⟨-, hd⟩ | ⟨S', hS, -⟩)
      · exact hd
      · cases hS
    · exact fun hd => .inl ⟨rfl, hd⟩
  have hprovision : IndexedType.provision ⟨n, T, S⟩ s (added.recordsOf (typeWord n)) = (do
      IndexedType.provision ⟨n, T, S⟩ s (db.recordsOf (typeWord n))
      IndexedType.enter ⟨n, T, S⟩ s id r) := by
    have hadded' : added.recordsOf (typeWord n) = db.recordsOf (typeWord n) ++ [newRow n m r] := hrows
    rw [hadded', IndexedType.provision_append,
      IndexedType.backfill_eq_enter hr (keyWord_eq_ok hkey) rfl rfl]
  have hframed := IndexedType.framed_provision ⟨n, T, S⟩ s (added.recordsOf (typeWord n))
  rw [hprovision] at hframed
  constructor
  · rintro ⟨d, hd, hpublish⟩
    obtain rfl := hadded.1 hd
    obtain ⟨-, e, he, rfl⟩ := IndexedType.publish_eq_ok_iff.1 hpublish
    rw [hprovision] at he
    obtain ⟨f, hf, rfl⟩ := (hframed.over_eq_ok db added).1 he
    exact ⟨f, hf, rfl⟩
  · rintro ⟨f, hboth, rfl⟩
    refine ⟨added, hadded.2 rfl, IndexedType.publish_eq_ok_iff.2 ⟨hnone, f.over added, ?_, rfl⟩⟩
    rw [hprovision]
    exact (hframed.over_eq_ok db added).2 ⟨f, hboth, rfl⟩

end

/-- It makes no difference whether a record is added before a schema is published or after that. -/
theorem publish_addRecord_comm (h : Counted db) (ht : TypesSound db) {s : StoreSettings}
    {S : Schema} {id : UInt64} {r : Record} (hn : db.typeId? T = .ok (some n))
    (hnone : db.schemaText? T = none) (hnext : db.nextId T = .ok (id, db₁)) (hr : Readable r)
    (db' : Database) :
    (∃ d, IndexedType.publish ⟨n, T, S⟩ s db = .ok ((), d) ∧
        addRecord s n ⟨T, id⟩ r { d with types := db₁.types } = .ok ((), db')) ↔
      ∃ d, addRecord s n ⟨T, id⟩ r db₁ = .ok ((), d) ∧
        IndexedType.publish ⟨n, T, S⟩ s d = .ok ((), db') := by
  obtain ⟨row, hrow, -, hkey⟩ := h.keyWord_of_nextId hnext
  have hfresh := h.fresh hrow hn
  have hcounted {d : Database} (hd : addRecord s n ⟨T, id⟩ r db₁ = .ok ((), d)) : Counted d :=
    h.addRecord ht hn hnext hd
  obtain ⟨types, rfl⟩ : ∃ types, db₁ = { db with types := types } := by
    obtain ⟨-, -, -, -, rfl⟩ := nextId_eq_ok hnext
    exact ⟨_, rfl⟩
  have hrows : recordsOf { db with records := db.records ++ [newRow n row.nextId r] } (typeWord n) =
      db.recordsOf (typeWord n) ++ [newRow n row.nextId r] := by
    have hfinds : FindsSchema { db with types := types } T none := .inl ⟨rfl, hnone⟩
    have hadded := hcounted ((addRecord_fresh_iff hkey
      (show ∀ row ∈ records { db with types := types }, _ from hfresh) hfinds).2 (.inl ⟨rfl, rfl⟩))
    have hsame := hadded.recordsOf_eq n
    rw [liveRecords, List.filter_append] at hsame
    exact hsame.trans (by rw [h.recordsOf_eq, liveRecords]; congr 1; simp [newRow])
  rw [publish_addRecord_iff hkey hfresh types hnone,
    ← addRecord_publish_iff hkey hfresh types hnone hr hrows]

end

/-! ### Types that are registered -/

section
variable {db d : Database} {T : String} {n : UInt32}

theorem typeId?_congr (h : d.types = db.types) (T : String) : d.typeId? T = db.typeId? T := by
  rw [typeId?, typeId?, typeRow?, typeRow?, h]

theorem typeId_of_registered (h : db.typeId? T = .ok (some n)) (create : Bool) :
    db.typeId T create = .ok (some n, db) :=
  bind_eq_ok.2 ⟨some n, h, rfl⟩

theorem nextId_congr (h : d.types = db.types) (T : String) :
    d.nextId T = (db.nextId T).map fun p => (p.1, { d with types := p.2.types }) := by
  rw [nextId, nextId, typeRow?, typeRow?, h]
  split
  · rfl
  · split <;> rfl

theorem schemas_of_typeId {create : Bool} {found : Option UInt32}
    (h : db.typeId T create = .ok (found, d)) : d.schemas = db.schemas := by
  rcases typeId_eq_ok h with ⟨-, rfl⟩ | ⟨-, -, id, -, -, rfl⟩ <;> rfl

end

/-! ### Publishing before and after records are created -/

/-- A type without a schema, as far as the store remembers and the database has it. -/
structure Workspace.Lacks (w : Workspace) (T : String) : Prop where
  stored : w.database.schemaText? T = none
  remembered : w.session.schemas.lookup T = none

section
variable {s : Store} {w w' : Workspace} {T : String} {n : UInt32} {S : Schema} {r : Record} {k : Key}

theorem checkTypeName_eq_ok {u : Unit} : checkTypeName T = .ok u ↔ validTypeName T = true := by
  unfold checkTypeName
  cases validTypeName T <;> simp

theorem typeId_eq_ok_iff {create : Bool} : Store.typeId T create w = (.ok n, w') ↔
    ∃ db, w.database.typeId T create = .ok (some n, db) ∧ w' = { w with database := db } := by
  rw [Store.typeId, bind_eq_ok_iff]
  constructor
  · rintro ⟨found, w₁, hfound, h⟩
    obtain ⟨db, hdb, rfl⟩ := transact_eq_ok_iff.1 hfound
    cases found with
    | none => cases (Prod.mk.inj h).1
    | some m =>
      obtain ⟨hm, rfl⟩ := Prod.mk.inj h
      obtain rfl := Except.ok.inj hm
      exact ⟨db, hdb, rfl⟩
  · rintro ⟨db, hdb, rfl⟩
    exact ⟨some n, _, transact_eq_ok_iff.2 ⟨db, hdb, rfl⟩, rfl⟩

/-- A value that is stored is an object. -/
theorem exists_record_of_create {v : Json} (h : s.create T v w = (.ok k, w')) :
    ∃ r, v = .object r := by
  obtain ⟨_, w₁, -, h₁⟩ := Action.bind_eq_ok h
  obtain ⟨r, w₂, hobject, -⟩ := Action.bind_eq_ok h₁
  have hr := record?_of_checkObject (lift_eq_ok_iff.1 hobject).1
  cases v <;> cases hr
  exact ⟨r, rfl⟩

theorem create_eq_ok_iff : s.create T (.object r) w = (.ok k, w') ↔
    validTypeName T = true ∧ ∃ n db id db₁ d, w.database.typeId T true = .ok (some n, db) ∧
      db.nextId T = .ok (id, db₁) ∧ addRecord s.settings n ⟨T, id⟩ r db₁ = .ok ((), d) ∧
      k = ⟨T, id⟩ ∧ w' = { w with database := d } := by
  constructor
  · intro h
    obtain ⟨_, w₁, hcheck, h₁⟩ := Action.bind_eq_ok h
    obtain ⟨hvalid, rfl⟩ := lift_eq_ok_iff.1 hcheck
    obtain ⟨r', w₂, hobject, h₂⟩ := Action.bind_eq_ok h₁
    obtain ⟨hr, rfl⟩ := lift_eq_ok_iff.1 hobject
    obtain rfl := Except.ok.inj hr
    obtain ⟨n, w₃, htype, h₃⟩ := Action.bind_eq_ok h₂
    obtain ⟨db, hdb, rfl⟩ := typeId_eq_ok_iff.1 htype
    obtain ⟨id, w₄, hid, h₄⟩ := Action.bind_eq_ok h₃
    obtain ⟨db₁, hnext, rfl⟩ := transact_eq_ok_iff.1 hid
    obtain ⟨_, w₅, hadd, h₅⟩ := Action.bind_eq_ok h₄
    obtain ⟨d, hd, rfl⟩ := transact_eq_ok_iff.1 hadd
    obtain ⟨hk, rfl⟩ := Prod.mk.inj h₅
    exact ⟨checkTypeName_eq_ok.1 hvalid, n, db, id, db₁, d, hdb, hnext, hd,
      (Except.ok.inj hk).symm, rfl⟩
  · rintro ⟨hvalid, n, db, id, db₁, d, hdb, hnext, hd, rfl, rfl⟩
    have hnext' : transact (fun db => db.nextId T) { w with database := db } =
        (.ok id, { w with database := db₁ }) :=
      transact_eq_ok_iff.2 ⟨db₁, hnext, rfl⟩
    have hadd : transact (addRecord s.settings n ⟨T, id⟩ r) { w with database := db₁ } =
        (.ok (), { w with database := d }) :=
      transact_eq_ok_iff.2 ⟨d, hd, rfl⟩
    have hcreate := create_of_typeId (s := s) hvalid (v := .object r) rfl hdb w.session
    exact hcreate.trans ((Action.bind_of_ok hnext').trans (Action.bind_of_ok hadd))

theorem Workspace.Lacks.schema_eq (h : w.Lacks T) : Store.schema T w = (.ok none, w) := by
  have hstored : (storedSchema T).run w.database = .ok (none, w.database) :=
    storedSchema_of_finds (.inl ⟨rfl, h.stored⟩)
  unfold Store.schema
  rw [h.remembered]
  simp only [hstored]

theorem Workspace.Lacks.createSchema_eq_ok_iff (h : w.Lacks T) :
    s.createSchema T S w = (.ok (), w') ↔
      validTypeName T = true ∧ ∃ n db d, w.database.typeId T true = .ok (some n, db) ∧
        IndexedType.publish ⟨n, T, S⟩ s.settings db = .ok ((), d) ∧
        w' = ⟨d, w.session.remember T S⟩ := by
  constructor
  · intro hdone
    obtain ⟨_, w₁, hcheck, h₁⟩ := Action.bind_eq_ok hdone
    obtain ⟨hvalid, rfl⟩ := lift_eq_ok_iff.1 hcheck
    obtain ⟨found, w₂, hfound, h₂⟩ := Action.bind_eq_ok h₁
    rw [h.schema_eq] at hfound
    obtain ⟨hnone, rfl⟩ := Prod.mk.inj hfound
    obtain rfl := Except.ok.inj hnone
    obtain ⟨n, w₃, htype, h₃⟩ := Action.bind_eq_ok h₂
    obtain ⟨db, hdb, rfl⟩ := typeId_eq_ok_iff.1 htype
    obtain ⟨_, w₄, hpublish, h₄⟩ := Action.bind_eq_ok h₃
    obtain ⟨d, hd, rfl⟩ := transact_eq_ok_iff.1 hpublish
    exact ⟨checkTypeName_eq_ok.1 hvalid, n, db, d, hdb, hd, (Prod.mk.inj h₄).2.symm⟩
  · rintro ⟨hvalid, n, db, d, hdb, hd, rfl⟩
    have hcheck : Action.lift (checkTypeName T) w = (.ok (), w) :=
      lift_eq_ok_iff.2 ⟨checkTypeName_eq_ok.2 hvalid, rfl⟩
    have htype : Store.typeId T true w = (.ok n, { w with database := db }) :=
      typeId_eq_ok_iff.2 ⟨db, hdb, rfl⟩
    have hpublish : transact (IndexedType.publish ⟨n, T, S⟩ s.settings) { w with database := db } =
        (.ok (), { w with database := d }) :=
      transact_eq_ok_iff.2 ⟨d, hd, rfl⟩
    exact (Action.bind_of_ok hcheck).trans ((Action.bind_of_ok h.schema_eq).trans
      ((Action.bind_of_ok htype).trans (Action.bind_of_ok hpublish)))

end

section
variable {s : Store} {stem : String} {w w' : Workspace} {T : String} {S : Schema}

/-- Once a type is registered it keeps its number. -/
theorem eq_of_registered {db : Database} {n n' : UInt32} {db' : Database} {create : Bool}
    (hn : db.typeId? T = .ok (some n)) (h : db.typeId T create = .ok (some n', db')) :
    n = n' ∧ db = db' := by
  obtain ⟨hn', hdb⟩ := Prod.mk.inj (Except.ok.inj ((typeId_of_registered hn create).symm.trans h))
  exact ⟨Option.some.inj hn', hdb⟩

/-- A type that is given a record does not come by a schema. -/
theorem Workspace.Lacks.create {r : Record} {k : Key} (hl : w.Lacks T)
    (h : s.create T (.object r) w = (.ok k, w')) : w'.Lacks T := by
  obtain ⟨-, n, db, id, db₁, d, hdb, hnext, hadd, -, rfl⟩ := create_eq_ok_iff.1 h
  have hschemas : d.schemas = w.database.schemas := by
    rw [(fixedKept_addRecord _ _ _ _ _ _ _ hadd).schemas, ← schemas_of_typeId hdb]
    obtain ⟨-, -, -, -, rfl⟩ := nextId_eq_ok hnext
    rfl
  refine ⟨?_, hl.remembered⟩
  rw [schemaText?, hschemas]
  exact hl.stored

/-- A record may be created before the schema of its type is published or after that. -/
theorem createSchema_create_comm {r : Record} {k : Key} (hc : Coherent stem Readable w.database)
    (hcounted : Counted w.database) (hl : w.Lacks T) (hr : Readable r) :
    (∃ w₁, s.createSchema T S w = (.ok (), w₁) ∧ s.create T (.object r) w₁ = (.ok k, w')) ↔
      ∃ w₁, s.create T (.object r) w = (.ok k, w₁) ∧ s.createSchema T S w₁ = (.ok (), w') := by
  -- the type is registered by whichever comes first
  have hcomm {n : UInt32} {db db₁ : Database} {id : UInt64}
      (hdb : w.database.typeId T true = .ok (some n, db)) (hnext : db.nextId T = .ok (id, db₁)) :=
    publish_addRecord_comm (s := s.settings) (S := S) (hcounted.typeId hdb) (hc.typeId hdb).types
      (typeId?_of_typeId hdb) (by rw [schemaText?, schemas_of_typeId hdb]; exact hl.stored) hnext hr
  have hnumber {n : UInt32} {db db₁ e : Database} {id : UInt64}
      (hdb : w.database.typeId T true = .ok (some n, db)) (hnext : db.nextId T = .ok (id, db₁))
      (hadd : addRecord s.settings n ⟨T, id⟩ r db₁ = .ok ((), e)) : e.typeId? T = .ok (some n) := by
    have htypes := (fixedKept_addRecord _ _ _ _ _ _ _ hadd).types
    rw [typeId?_congr htypes, typeId?_of_nextId hnext, typeId?_of_typeId hdb]
  constructor
  · rintro ⟨w₁, hpublished, hcreated⟩
    obtain ⟨hvalid, n, db, d, hdb, hpublish, rfl⟩ := hl.createSchema_eq_ok_iff.1 hpublished
    obtain ⟨-, n', db', id, d₁, d₂, hdb', hnext', hadd, rfl, rfl⟩ := create_eq_ok_iff.1 hcreated
    have htypes : d.types = db.types := (fixed_publish hpublish).1
    obtain ⟨rfl, rfl⟩ :=
      eq_of_registered ((typeId?_congr htypes T).trans (typeId?_of_typeId hdb)) hdb'
    rw [nextId_congr htypes] at hnext'
    obtain ⟨⟨id', db₁⟩, hnext, hd₁⟩ := map_eq_ok.1 hnext'
    obtain ⟨hid, hd₁⟩ := Prod.mk.inj hd₁
    rw [← hd₁] at hadd
    rw [← hid] at hadd ⊢
    obtain ⟨e, hadd', hpublish'⟩ := (hcomm hdb hnext d₂).1 ⟨_, hpublish, hadd⟩
    have hcreate := create_eq_ok_iff.2 ⟨hvalid, n, db, id', db₁, e, hdb, hnext, hadd', rfl, rfl⟩
    have hregistered := typeId_of_registered (hnumber hdb hnext hadd') true
    exact ⟨_, hcreate, (hl.create hcreate).createSchema_eq_ok_iff.2
      ⟨hvalid, n, e, d₂, hregistered, hpublish', rfl⟩⟩
  · rintro ⟨w₁, hcreated, hpublished⟩
    obtain ⟨hvalid, n, db, id, db₁, e, hdb, hnext, hadd, rfl, rfl⟩ := create_eq_ok_iff.1 hcreated
    obtain ⟨-, n', db', d₂, hdb', hpublish, rfl⟩ :=
      (hl.create hcreated).createSchema_eq_ok_iff.1 hpublished
    obtain ⟨rfl, rfl⟩ := eq_of_registered (hnumber hdb hnext hadd) hdb'
    obtain ⟨d, hpublish', hadd'⟩ := (hcomm hdb hnext d₂).2 ⟨e, hadd, hpublish⟩
    have htypes : d.types = db.types := (fixed_publish hpublish').1
    have hregistered := typeId_of_registered
      ((typeId?_congr htypes T).trans (typeId?_of_typeId hdb)) true
    have hnext' : d.nextId T = .ok (id, { d with types := db₁.types }) := by
      rw [nextId_congr htypes, hnext]
      rfl
    exact ⟨_, hl.createSchema_eq_ok_iff.2 ⟨hvalid, n, db, d, hdb, hpublish', rfl⟩,
      create_eq_ok_iff.2 ⟨hvalid, n, d, id, _, d₂, hregistered, hnext', hadd', rfl, rfl⟩⟩

theorem counted_of_create (hs : s.settings.stem = stem) {r : Record} {k : Key}
    (hw : Coherent stem Readable w.database ∧ Counted w.database) (hr : Readable r)
    (h : s.create T (.object r) w = (.ok k, w')) :
    Coherent stem Readable w'.database ∧ Counted w'.database := by
  have hkept := keptBy_counted (fun r (hr : Readable r) => hr.1) hs
  have hperform := hkept.perform (o := .create T (.object r)) (fun r' hr' => by
    obtain rfl := Option.some.inj hr'
    exact hr) hw
  have hdatabase : (s.perform (.create T (.object r)) w).2.database = w'.database := by
    show ((Answer.key <$> s.create T (.object r)) w).2.database = _
    rw [map_apply, h]
  rwa [hdatabase] at hperform

/-- Creates records of one type, one after the other. -/
def Store.createAll (s : Store) (T : String) (rs : List Record) : Action (List Key) :=
  rs.mapM fun r => s.create T (.object r)

/-- Publishing first and publishing last succeed for the same records, with the same keys, and leave
the same behind. -/
theorem createSchema_createAll_comm (hs : s.settings.stem = stem) {rs : List Record} :
    ∀ {w : Workspace}, Coherent stem Readable w.database → Counted w.database →
      w.Lacks T → (∀ r ∈ rs, Readable r) → ∀ ks,
      ((∃ w₁, s.createSchema T S w = (.ok (), w₁) ∧ s.createAll T rs w₁ = (.ok ks, w')) ↔
        ∃ w₁, s.createAll T rs w = (.ok ks, w₁) ∧ s.createSchema T S w₁ = (.ok (), w')) := by
  induction rs with
  | nil =>
    intro w hc hcounted hl _ ks
    constructor
    · rintro ⟨w₁, hpublished, hnil⟩
      obtain ⟨hks, rfl⟩ := Prod.mk.inj hnil
      exact ⟨w, congrArg (·, w) hks, hpublished⟩
    · rintro ⟨w₁, hnil, hpublished⟩
      obtain ⟨hks, rfl⟩ := Prod.mk.inj hnil
      exact ⟨w', hpublished, congrArg (·, w') hks⟩
  | cons r rs ih =>
    intro w hc hcounted hl hrs ks
    have hr := hrs r List.mem_cons_self
    -- the schema moves past the first record and then past the others
    have hrest {k : Key} {v : Workspace} {ks' : List Key}
        (hv : s.create T (.object r) w = (.ok k, v)) :=
      have hinv := counted_of_create hs ⟨hc, hcounted⟩ hr hv
      ih (w := v) hinv.1 hinv.2 (hl.create hv) (fun r' hr' =>
        hrs r' (List.mem_cons_of_mem _ hr')) ks'
    constructor
    · rintro ⟨w₁, hpublished, hall⟩
      obtain ⟨k, ks', w₂, hk, hks, rfl⟩ := mapM_cons_eq_ok_iff.1 hall
      obtain ⟨v, hv, hpublished'⟩ :=
        (createSchema_create_comm hc hcounted hl hr).1 ⟨w₁, hpublished, hk⟩
      obtain ⟨v', hv', hlast⟩ := (hrest hv).1 ⟨w₂, hpublished', hks⟩
      exact ⟨v', mapM_cons_eq_ok_iff.2 ⟨k, ks', v, hv, hv', rfl⟩, hlast⟩
    · rintro ⟨v', hall, hlast⟩
      obtain ⟨k, ks', v, hv, hv', rfl⟩ := mapM_cons_eq_ok_iff.1 hall
      obtain ⟨w₂, hpublished', hks⟩ := (hrest hv).2 ⟨v', hv', hlast⟩
      obtain ⟨w₁, hpublished, hk⟩ :=
        (createSchema_create_comm hc hcounted hl hr).2 ⟨v, hv, hpublished'⟩
      exact ⟨w₁, hpublished, mapM_cons_eq_ok_iff.2 ⟨k, ks', w₂, hk, hks, rfl⟩⟩

end

end RecordStore
