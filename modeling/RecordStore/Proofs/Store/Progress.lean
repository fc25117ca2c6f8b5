import Mathlib
import RecordStore.Proofs.Index.Ready
import RecordStore.Proofs.Query.Answer
import RecordStore.Proofs.Store.RecordSteps

/-!
Transactions on records that go through.  In a coherent database the statements on the rows of one
record reach their tables, and only a record that shares a key with another one is refused: by the
first index in which it does.
-/
namespace RecordStore
open Database Transaction Sql Index

attribute [local irreducible] tableName indexName

namespace Transaction
variable {α β : Type}

/-- How a step ends on a database: with an answer, or with an error if there is one to expect. -/
def Ends (t : Transaction α) (db : Database) (a : α) : Option Error → Prop
  | none => ∃ db', t db = .ok (a, db')
  | some e => t db = .error e

theorem ends_bind {x : Transaction α} {f : α → Transaction β} {db db' : Database} {a : α} {b : β}
    {e : Option Error} (hx : x db = .ok (a, db')) (hf : Ends (f a) db' b e) :
    Ends (x >>= f) db b e := by
  cases e with
  | none =>
    obtain ⟨db'', h⟩ := hf
    exact ⟨db'', (bind_of_ok hx).trans h⟩
  | some e => exact (bind_of_ok hx).trans hf

theorem ends_bind_pure {x : Transaction α} {db : Database} {a : α} {b : β} {e : Option Error}
    (hx : Ends x db a e) : Ends (x >>= fun _ => pure b) db b e := by
  cases e with
  | none =>
    obtain ⟨db', h⟩ := hx
    exact ⟨db', bind_of_ok h⟩
  | some e => exact bind_of_error hx

/-- A loop whose turns can only fail for a reason that is known beforehand ends at the first turn
that has one. -/
theorem forM_ends {ready : α → Database → Prop} {apart : α → α → Prop} {bad : α → Bool}
    {e : α → Error} {f : α → Transaction Unit} {xs : List α}
    (hbad : ∀ x ∈ xs, ∀ db, ready x db → bad x = true → f x db = .error (e x))
    (hgood : ∀ x ∈ xs, ∀ db, ready x db → bad x = false → ∃ db', f x db = .ok ((), db') ∧
      ∀ y ∈ xs, apart x y → ready y db → ready y db')
    (hd : xs.Pairwise apart) :
    ∀ {db : Database}, (∀ x ∈ xs, ready x db) → Ends (xs.forM f) db () ((xs.find? bad).map e) := by
  induction xs with
  | nil => exact fun {db} _ => ⟨db, rfl⟩
  | cons x xs ih =>
    intro db hready
    obtain ⟨hx, hxs⟩ := List.pairwise_cons.1 hd
    show Ends (f x >>= fun _ => xs.forM f) db () _
    cases hb : bad x with
    | true =>
      rw [List.find?_cons_of_pos hb]
      exact bind_of_error (hbad x (by simp) db (hready x (by simp)) hb)
    | false =>
      rw [List.find?_cons_of_neg (by simp [hb])]
      obtain ⟨db', hstep, hkept⟩ := hgood x (by simp) db (hready x (by simp)) hb
      refine ends_bind hstep (ih (fun y hy => hbad y (by simp [hy])) (fun y hy db h hy' => ?_) hxs
        fun y hy => hkept y (by simp [hy]) (hx y hy) (hready y (by simp [hy])))
      obtain ⟨db₁, h₁, hkept₁⟩ := hgood y (by simp [hy]) db h hy'
      exact ⟨db₁, h₁, fun z hz => hkept₁ z (by simp [hz])⟩

end Transaction

/-! ### Indexes that are ready -/

namespace IndexedType

/-- An index is ready when its table can be reached and holds the rows of the given records. -/
structure Ready (t : IndexedType) (s : StoreSettings) (records : List RecordRow)
    (ix : IndexDefinition) (db : Database) : Prop where
  readable : readNames (tableName s.stem t.typeId ix.name ::
    (columnSpecs t.schema ix).map (·.name)) = .ok ()
  uniques : db.uniquesOf (tableName s.stem t.typeId ix.name) = uniquesFor ix
  table : ∃ u, db.table? (tableName s.stem t.typeId ix.name) = some u ∧ Shaped t.schema ix u ∧
    Filled t.schema ix u records ∧ u.Keyed (uniquesFor ix) ∧ u.Numbered
  bound : ∀ x ∈ records, Bound t.schema ix x.record

section
variable {t : IndexedType} {s : StoreSettings} {records : List RecordRow} {ix jx : IndexDefinition}
  {db db' : Database} {id : UInt64} {m : Int64} {r : Record}

/-- A step on the table of another index leaves an index ready. -/
theorem Ready.of_rowStep {R : Table → Table → Prop} (h : t.Ready s records jx db)
    (hstep : RowStep (tableName s.stem t.typeId ix.name) R db db')
    (hne : sameName (tableName s.stem t.typeId ix.name) (tableName s.stem t.typeId jx.name) =
      false) : t.Ready s records jx db' where
  readable := h.readable
  uniques := by
    obtain ⟨u, u', -, -, -, rfl⟩ := hstep
    exact h.uniques
  table := by
    rw [hstep.table?_other hne]
    exact h.table
  bound := h.bound

theorem Ready.reach (h : t.Ready s records ix db) {u : Table}
    (hu : db.table? (tableName s.stem t.typeId ix.name) = some u) {columns : List String}
    (hc : ∀ c ∈ columns, c ∈ (columnSpecs t.schema ix).map (·.name)) :
    db.reach (tableName s.stem t.typeId ix.name) columns = .ok u := by
  refine bind_eq_ok.2 ⟨(), readNames_eq_ok.2 fun c hmem => ?_, by rw [hu]; rfl⟩
  have hall := readNames_eq_ok.1 h.readable
  rcases List.mem_cons.1 hmem with rfl | hmem
  · exact hall _ List.mem_cons_self
  · exact hall c (List.mem_cons_of_mem _ (hc c hmem))

theorem Ready.insert (h : t.Ready s records ix db) {u : Table}
    (hu : db.table? (tableName s.stem t.typeId ix.name) = some u) {q : Insert}
    (hq : q.table = tableName s.stem t.typeId ix.name)
    (hc : ∀ c ∈ q.columns, c ∈ (columnSpecs t.schema ix).map (·.name)) :
    db.insert q = (u.insert (uniquesFor ix) q).map db.setTable := by
  rw [Database.insert, hq, h.reach hu hc, h.uniques]
  rfl

theorem Ready.update (h : t.Ready s records ix db) {u : Table}
    (hu : db.table? (tableName s.stem t.typeId ix.name) = some u) {q : Update}
    (hq : q.table = tableName s.stem t.typeId ix.name)
    (hc : ∀ c ∈ q.assignments.map (·.1) ++ [q.condition.column],
      c ∈ (columnSpecs t.schema ix).map (·.name)) :
    db.update q = (u.update (uniquesFor ix) q).map db.setTable := by
  rw [Database.update, hq, h.reach hu hc, h.uniques]
  rfl

theorem Ready.delete (h : t.Ready s records ix db) {u : Table}
    (hu : db.table? (tableName s.stem t.typeId ix.name) = some u) {q : Delete}
    (hq : q.table = tableName s.stem t.typeId ix.name)
    (hc : q.condition.column ∈ (columnSpecs t.schema ix).map (·.name)) :
    db.delete q = .ok (db.setTable (u.delete q)) := by
  have hone : ∀ c ∈ [q.condition.column], c ∈ (columnSpecs t.schema ix).map (·.name) := by
    simpa using hc
  rw [Database.delete, hq, h.reach hu hone]
  rfl

/-- Turns on indexes that are ready, one after another: the first index that refuses its statement
ends the loop, and its conflict is told. -/
theorem forM_turns_ends {α : Type} (make : Index.Target → Except Error α)
    (run : Database → α → Except DatabaseFault Database) (bad : IndexDefinition → Bool)
    (hturn : ∀ ix ∈ t.schema.indexes, ∀ db, t.Ready s records ix db → ∃ q,
      make (t.target s ix) = .ok q ∧ (bad ix = true → run db q = .error .uniqueViolation) ∧
        (bad ix = false → ∃ R db', run db q = .ok db' ∧
          RowStep (tableName s.stem t.typeId ix.name) R db db'))
    (hs : t.schema.Apart) (hready : ∀ ix ∈ t.schema.indexes, t.Ready s records ix db) :
    Ends (t.schema.indexes.forM (t.turn s make run)) db ()
      ((t.schema.indexes.find? bad).map fun ix => .uniquenessConflict t.typeName ix.name) := by
  refine @forM_ends _ (t.Ready s records) _ _ _ _ _ (fun ix hix db h hb => ?_) (fun ix hix db h hb => ?_)
    (hs.names s.stem t.typeId) db hready
  · obtain ⟨q, hmake, hrefused, -⟩ := hturn ix hix db h
    have hlift : lift (make (t.target s ix)) db = .ok (q, db) := lift_eq_ok.2 ⟨hmake, rfl⟩
    refine (bind_of_ok hlift).trans ?_
    rw [write, hrefused hb]
    rfl
  · obtain ⟨q, hmake, -, hruns⟩ := hturn ix hix db h
    obtain ⟨R, db', hrun, hstep⟩ := hruns hb
    have hlift : lift (make (t.target s ix)) db = .ok (q, db) := lift_eq_ok.2 ⟨hmake, rfl⟩
    refine ⟨db', (bind_of_ok hlift).trans (write_eq_ok.2 hrun), fun jx _ hne hjx => ?_⟩
    exact hjx.of_rowStep hstep hne

/-- Rows of a new record go into all tables unless a unique index has its key. -/
theorem insertRows_ends (hs : t.schema.Apart)
    (hready : ∀ ix ∈ t.schema.indexes, t.Ready s records ix db) {row : RecordRow}
    (hid : storedId? id = some row.id) (hstate : row.state = .live)
    (hrecord : SameFields row.record r) (hb : ∀ ix ∈ t.schema.indexes, Bound t.schema ix r)
    (hfree : ∀ x ∈ records, x.id ≠ row.id) (hlength : records.length < 2 ^ 63) :
    Ends (t.insertRows s id r) db ()
      ((t.schema.indexes.find? (blocked t.schema · row.id r records)).map fun ix =>
        .uniquenessConflict t.typeName ix.name) := by
  refine forM_turns_ends (Index.insertRow · id r) (fun db q => db.insert q)
    (blocked t.schema · row.id r records) (fun ix hix db h => ?_) hs hready
  obtain ⟨u, hu, hshaped, hfilled, hkeyed, hnumbered⟩ := h.table
  have houtcome := hfilled.insert_outcome hshaped hnumbered hkeyed h.bound hlength (hb ix hix) hstate
    hrecord hfree (tableName s.stem t.typeId ix.name)
  have hinsert := h.insert hu
    (q := ⟨tableName s.stem t.typeId ix.name, idColumn :: (valueNames ix ++ [quarantinedColumn]),
      .ofInt row.id :: (ix.valueColumns.map (boundValue t.schema r) ++ [.ofText flagNo])⟩) rfl
    fun c hc => by
      rw [columnSpecs_names]
      exact hc
  have hmake : Index.insertRow (t.target s ix) id r =
      .ok ⟨tableName s.stem t.typeId ix.name, idColumn :: (valueNames ix ++ [quarantinedColumn]),
        .ofInt row.id :: (ix.valueColumns.map (boundValue t.schema r) ++ [.ofText flagNo])⟩ :=
    insertRow_of_bound hid (hb ix hix)
  refine ⟨_, hmake, fun hblocked => ?_, fun hclear => ?_⟩
  · show db.insert _ = _
    rw [hinsert, houtcome.1 hblocked]
    rfl
  · obtain ⟨u', hu'⟩ := houtcome.2 hclear
    rw [hu'] at hinsert
    have hstep := rowStep_insert hinsert
    exact ⟨_, _, hinsert, hstep⟩

/-- The rows of a record take on new values unless a unique index has its key in another row. -/
theorem updateRows_ends (hs : t.schema.Apart)
    (hready : ∀ ix ∈ t.schema.indexes, t.Ready s records ix db) (hid : storedId? id = some m)
    (hb : ∀ ix ∈ t.schema.indexes, Bound t.schema ix r) (hmem : ∃ x ∈ records, x.id = m)
    {text : String} (hrecord : ∀ x : RecordRow, SameFields { x with text := text }.record r) :
    Ends (t.updateRows s id r) db ()
      ((t.schema.indexes.find? (blocked t.schema · m r records)).map fun ix =>
        .uniquenessConflict t.typeName ix.name) := by
  rw [updateRows, filter_valueColumns]
  refine forM_turns_ends (Index.updateRow · id r) (fun db q => db.update q)
    (blocked t.schema · m r records) (fun ix hix db h => ?_) hs hready
  obtain ⟨u, hu, hshaped, hfilled, hkeyed, hnumbered⟩ := h.table
  have houtcome := hfilled.update_outcome hshaped hnumbered hkeyed h.bound
    (Schema.indexSound hix).valueColumns_ne (hb ix hix) hmem hrecord
    (tableName s.stem t.typeId ix.name)
  have hupdate := h.update hu
    (q := ⟨tableName s.stem t.typeId ix.name, assignments t.schema ix r, idCondition (.ofInt m)⟩) rfl
    fun c hc => by
      refine mem_columnNames.2 ?_
      rw [assignments_names] at hc
      rcases List.mem_append.1 hc with hc | hc
      · exact .inr (.inl hc)
      · exact .inl (List.mem_singleton.1 hc)
  have hmake : Index.updateRow (t.target s ix) id r = .ok ⟨tableName s.stem t.typeId ix.name,
      assignments t.schema ix r, idCondition (.ofInt m)⟩ := updateRow_of_bound hid (hb ix hix)
  refine ⟨_, hmake, fun hblocked => ?_, fun hclear => ?_⟩
  · show db.update _ = _
    rw [hupdate, houtcome.1 hblocked]
    rfl
  · obtain ⟨u', hu'⟩ := houtcome.2 hclear
    rw [hu'] at hupdate
    have hstep := rowStep_update hupdate
    exact ⟨_, _, hupdate, hstep⟩

/-- A loop whose statements never conflict goes through. -/
theorem forM_turns_ok {α : Type} (make : Index.Target → Except Error α)
    (run : Database → α → Except DatabaseFault Database)
    (hturn : ∀ ix ∈ t.schema.indexes, ∀ db, t.Ready s records ix db → ∃ q,
      make (t.target s ix) = .ok q ∧ ∃ R db', run db q = .ok db' ∧
        RowStep (tableName s.stem t.typeId ix.name) R db db')
    (hs : t.schema.Apart) (hready : ∀ ix ∈ t.schema.indexes, t.Ready s records ix db) :
    ∃ db', t.schema.indexes.forM (t.turn s make run) db = .ok ((), db') := by
  have hends := @forM_turns_ends t s records db _ make run
    (fun _ : IndexDefinition => false) (fun ix hix db h => by
      obtain ⟨q, hmake, hrun⟩ := hturn ix hix db h
      exact ⟨q, hmake, nofun, fun _ => hrun⟩) hs hready
  rwa [List.find?_eq_none.2 (by simp)] at hends

theorem flagRows_ok (hs : t.schema.Apart)
    (hready : ∀ ix ∈ t.schema.indexes, t.Ready s records ix db) (hid : storedId? id = some m)
    (quarantined : Bool) : ∃ db', t.flagRows s id quarantined db = .ok ((), db') := by
  refine forM_turns_ok (Index.flagRow · id quarantined)
    (fun db q => db.update q) (fun ix hix db h => ?_) hs hready
  obtain ⟨u, hu, hshaped, hfilled, hkeyed, hnumbered⟩ := h.table
  obtain ⟨u', hu'⟩ := hfilled.flag_outcome (m := m) hshaped hnumbered hkeyed h.bound quarantined
    (tableName s.stem t.typeId ix.name)
  have hupdate := h.update hu (q := ⟨tableName s.stem t.typeId ix.name,
      [(quarantinedColumn, .ofText (quarantineFlag quarantined))], idCondition (.ofInt m)⟩) rfl
    fun c hc => by
      refine mem_columnNames.2 ?_
      rcases List.mem_append.1 hc with hc | hc
      · exact .inr (.inr (List.mem_singleton.1 hc))
      · exact .inl (List.mem_singleton.1 hc)
  have hmake : Index.flagRow (t.target s ix) id quarantined = .ok ⟨tableName s.stem t.typeId ix.name,
      [(quarantinedColumn, .ofText (quarantineFlag quarantined))], idCondition (.ofInt m)⟩ :=
    flagRow_of_storedId? hid quarantined
  rw [hu'] at hupdate
  have hstep := rowStep_update hupdate
  exact ⟨_, hmake, _, _, hupdate, hstep⟩

theorem deleteRows_ok (hs : t.schema.Apart)
    (hready : ∀ ix ∈ t.schema.indexes, t.Ready s records ix db) (hid : storedId? id = some m) :
    ∃ db', t.deleteRows s id db = .ok ((), db') := by
  refine forM_turns_ok (Index.deleteRow · id) (fun db q => db.delete q)
    (fun ix hix db h => ?_) hs hready
  obtain ⟨u, hu, hshaped, -⟩ := h.table
  have hrun := h.delete hu
    (q := ⟨tableName s.stem t.typeId ix.name, idCondition (.ofInt m)⟩) rfl
    (mem_columnNames.2 (.inl rfl))
  have hmake : Index.deleteRow (t.target s ix) id =
      .ok ⟨tableName s.stem t.typeId ix.name, idCondition (.ofInt m)⟩ := deleteRow_of_storedId? hid
  have hstep := rowStep_delete hrun
  exact ⟨_, hmake, _, _, hrun, hstep⟩

/-- Tables that are there can be emptied, also those that several indexes share. -/
theorem truncateAll_ok (hstem : '"' ∉ s.stem.toList)
    (hnames : ∀ ix ∈ t.schema.indexes, readable (tableName s.stem t.typeId ix.name) = true)
    (htables : ∀ ix ∈ t.schema.indexes,
      (db.table? (tableName s.stem t.typeId ix.name)).isSome = true) :
    ∃ db', t.truncateAll s db = .ok ((), db') := by
  have hends : Ends (t.truncateAll s) db ()
      ((t.schema.indexes.find? fun _ => false).map fun ix =>
        .uniquenessConflict t.typeName ix.name) := by
    refine @forM_ends IndexDefinition
      (fun ix db => (db.table? (tableName s.stem t.typeId ix.name)).isSome = true)
      (fun _ _ => True) (fun _ => false) _ _ _ (fun _ _ _ _ => nofun) (fun ix hix db h _ => ?_)
      (List.pairwise_of_forall fun _ _ => trivial) db htables
    obtain ⟨u, hu⟩ := Option.isSome_iff_exists.1 h
    have hrun : db.truncate (tableName s.stem t.typeId ix.name) =
        .ok (db.setTable { u with rows := [] }) := by
      rw [Database.truncate, readBare?_tableName hstem (hnames ix hix)]
      simp only [hu]
    refine ⟨_, apply_eq_ok.2 hrun, fun jx _ _ hjx => ?_⟩
    rw [table?_setTable, Option.isSome_map]
    exact hjx
  rwa [List.find?_eq_none.2 (by simp)] at hends

end

end IndexedType

/-! ### Transactions -/

section
variable {stem : String} {accepted : Record → Prop} {db : Database} {T : String} {n : UInt32}
  {S : Schema}

theorem storedSchema_of_finds {schema : Option Schema} (h : FindsSchema db T schema) :
    storedSchema T db = .ok (schema, db) := by
  rcases h with ⟨rfl, hnone⟩ | ⟨text, S, rfl, htext, hparse⟩
  · simp [storedSchema, hnone]
  · simp [storedSchema, htext, hparse]

theorem Published.finds (h : Published db T n S) : FindsSchema db T (some S) :=
  .inr ⟨S.text, S, rfl, h.text, Schema.parse_text S⟩

/-- Every schema that is stored can be read. -/
theorem Coherent.exists_finds (h : Coherent stem accepted db) (T : String) :
    ∃ schema, FindsSchema db T schema := by
  cases htext : db.schemaText? T with
  | none => exact ⟨none, .inl ⟨rfl, htext⟩⟩
  | some text =>
    obtain ⟨⟨S, hS⟩, -⟩ := h.schemas.each _ (mem_of_schemaText? htext)
    have hS' : text = S.text := hS
    exact ⟨some S, .inr ⟨text, S, rfl, htext, by rw [hS', Schema.parse_text]⟩⟩

/-- Whatever the records are now, the indexes are ready for those that their tables hold. -/
theorem Coherent.ready (h : Coherent stem accepted db) {s : StoreSettings} (hs : s.stem = stem)
    (hp : Published db T n S) (hapart : S.Apart) (records : List RecordRow) :
    ∀ ix ∈ S.indexes, IndexedType.Ready ⟨n, T, S⟩ s (db.liveRecords n) ix
      { db with records := records } := by
  intro ix hix
  subst hs
  have hholds := h.holds T n S hp
  obtain ⟨u, hu, hshaped, hfilled⟩ := hholds.tables.shaped hapart hix
  obtain ⟨hmem, hname⟩ := mem_of_table? hu
  have huniques := hholds.uniquesOf hapart hix
  refine ⟨hholds.readable ix hix, huniques, ⟨u, hu, hshaped, hfilled, ?_, ?_⟩,
    fun x hx => (hholds.valid x hx).2 ix hix⟩
  · rw [← huniques, ← uniquesOf_congr db hname]
    exact h.keyed.keys u hmem
  · exact h.keyed.numbered u hmem

/-- Which index a record meets first in which another record is in its way, if it fits the schema of
its type. -/
inductive Meets (db : Database) (T : String) (m : Int64) (r : Record) : Option IndexDefinition → Prop
  | unpublished : db.schemaText? T = none → Meets db T m r none
  | published {n : UInt32} {S : Schema} : Published db T n S → S.Apart → S.recordFault? r = none →
      (∀ ix ∈ S.indexes, Bound S ix r) →
      Meets db T m r (S.indexes.find? (blocked S · m r (db.liveRecords n)))

theorem schemaFor_of_finds {schema : Option Schema} {r : Record} (h : FindsSchema db T schema)
    (hvalid : ∀ S, schema = some S → S.recordFault? r = none) :
    schemaFor T r db = .ok (schema, db) := by
  refine (bind_of_ok (storedSchema_of_finds h)).trans ?_
  cases schema with
  | none => rfl
  | some S =>
    have hcheck : lift (checkRecord T S r) db = .ok ((), db) :=
      lift_eq_ok.2 ⟨checkRecord_eq_ok.2 (hvalid S rfl), rfl⟩
    exact bind_of_ok hcheck

/-- A record enters its type unless it meets an index that refuses it. -/
theorem Coherent.addRecord_ends (haccepted : ∀ r, accepted r → (Json.object r).WellFormed)
    (h : Coherent stem accepted db) {s : StoreSettings} (hs : s.stem = stem) {key : Key}
    {r : Record} {m : Int64} {c : Option IndexDefinition} (hr : accepted r)
    (hn : db.typeId? key.typeName = .ok (some n)) (hkey : keyWord key = .ok m)
    (hmeets : Meets db key.typeName m r c) (hlength : (db.liveRecords n).length < 2 ^ 63)
    (hfree : ∀ row ∈ db.records, row.typeId = typeWord n → row.id ≠ m) :
    Ends (RecordStore.addRecord s n key r) db ()
      (c.map fun ix => .uniquenessConflict key.typeName ix.name) := by
  have hword : lift (keyWord key) db = .ok (m, db) := lift_eq_ok.2 ⟨hkey, rfl⟩
  have hadd : apply (·.addRecord ⟨typeWord n, m, .live, (Json.object r).text⟩) db =
      .ok ((), { db with
        records := db.records ++ [⟨typeWord n, m, .live, (Json.object r).text⟩] }) := by
    refine apply_eq_ok.2 ?_
    rw [Database.addRecord, if_neg]
    rw [Bool.not_eq_true, List.any_eq_false]
    intro row hrow hhit
    obtain ⟨htype, hid⟩ := by simpa using hhit
    exact hfree row hrow htype hid
  cases hmeets with
  | unpublished hnone =>
    refine ends_bind (schemaFor_of_finds (.inl ⟨rfl, hnone⟩) nofun) ?_
    exact ends_bind hword (ends_bind hadd ⟨_, rfl⟩)
  | @published n' S hp hapart hvalid hbound =>
    obtain rfl : n = n' := Option.some.inj (Except.ok.inj (hn.symm.trans hp.number))
    refine ends_bind (schemaFor_of_finds hp.finds fun S' hS => Option.some.inj hS ▸ hvalid) ?_
    refine ends_bind hword (ends_bind hadd ?_)
    let row : RecordRow := ⟨typeWord n, m, .live, (Json.object r).text⟩
    have hsame : SameFields row.record r := sameFields_of_text (haccepted r hr) rfl
    exact IndexedType.insertRows_ends (t := ⟨n, key.typeName, S⟩) hapart
      (h.ready hs hp hapart _) (keyWord_eq_ok hkey) rfl hsame
      hbound (fun x hx => hfree x (mem_liveRecords.1 hx).1 (mem_liveRecords.1 hx).2.1) hlength

/-- A change of a record is tried when it is there in a state that allows it. -/
theorem changeRecord_ends {key : Key} {m : Int64} (hkey : keyWord key = .ok m)
    {schema : Option Schema} {allowed : RecordState → Bool} {change : RecordRow → RecordRow}
    {rows : IndexedType → Transaction Unit} {e : Option Error} {db' : Database}
    (hchange : db.changeRecord? (typeWord n) m allowed change = some db')
    (hrows : schema.elim (e = none) fun S => Ends (rows ⟨n, key.typeName, S⟩) db' () e) :
    Ends (changeRecord n key schema allowed change rows) db true e := by
  have hword : lift (keyWord key) db = .ok (m, db) := lift_eq_ok.2 ⟨hkey, rfl⟩
  have hget : (get : Transaction Database) db = .ok (db, db) := rfl
  refine ends_bind hword (ends_bind hget ?_)
  rw [hchange]
  have hset : (set db' : Transaction PUnit) db = .ok ((), db') := rfl
  refine ends_bind hset ?_
  cases schema with
  | none =>
    obtain rfl : e = none := hrows
    exact ⟨db', rfl⟩
  | some S => exact ends_bind_pure hrows

/-- The number of a key can be stored, or it is too large. -/
theorem keyWord_cases (key : Key) : (∃ m, keyWord key = .ok m) ∨
    keyWord key = .error (.invalidKey (.outOfRange key)) ∧ 0x8000000000000000 ≤ key.id.toNat := by
  by_cases hsmall : key.id.toNat < 0x8000000000000000
  · left
    refine ⟨Int64.ofInt key.id.toNat, ?_⟩
    rw [keyWord, storedId?, if_pos hsmall]
  · right
    refine ⟨?_, by omega⟩
    rw [keyWord, storedId?, if_neg hsmall]

theorem changeRecord_of_error {key : Key} {schema : Option Schema} {allowed : RecordState → Bool}
    {change : RecordRow → RecordRow} {rows : IndexedType → Transaction Unit} {e : Error}
    (hkey : keyWord key = .error e) : changeRecord n key schema allowed change rows db = .error e := by
  have hword : lift (keyWord key) db = .error e := by
    rw [hkey]
    rfl
  exact bind_of_error hword

theorem changeRecord_absent {key : Key} {m : Int64} (hkey : keyWord key = .ok m)
    {schema : Option Schema} {allowed : RecordState → Bool} {change : RecordRow → RecordRow}
    {rows : IndexedType → Transaction Unit}
    (hchange : db.changeRecord? (typeWord n) m allowed change = none) :
    changeRecord n key schema allowed change rows db = .ok (false, db) := by
  have hword : lift (keyWord key) db = .ok (m, db) := lift_eq_ok.2 ⟨hkey, rfl⟩
  have hget : (get : Transaction Database) db = .ok (db, db) := rfl
  refine (bind_of_ok hword).trans ((bind_of_ok hget).trans ?_)
  rw [hchange]
  rfl

/-- A record takes on new values unless it meets an index that refuses them. -/
theorem Coherent.replaceRecord_ends (haccepted : ∀ r, accepted r → (Json.object r).WellFormed)
    (h : Coherent stem accepted db) {s : StoreSettings} (hs : s.stem = stem) {key : Key}
    {r : Record} {m : Int64} {c : Option IndexDefinition} (hr : accepted r)
    (hn : db.typeId? key.typeName = .ok (some n)) (hkey : keyWord key = .ok m)
    (hmeets : Meets db key.typeName m r c) (hmem : ∃ row ∈ db.liveRecords n, row.id = m) :
    Ends (RecordStore.replaceRecord s n key r) db true
      (c.map fun ix => .uniquenessConflict key.typeName ix.name) := by
  obtain ⟨db', hchange, records, rfl⟩ : ∃ db', db.changeRecord? (typeWord n) m (· != .deleted)
      ({ · with text := (Json.object r).text }) = some db' ∧
      ∃ records, db' = { db with records := records } := by
    obtain ⟨row, hrow, rfl⟩ := hmem
    obtain ⟨hrow, htype, hstate⟩ := mem_liveRecords.1 hrow
    refine ⟨_, if_pos (List.any_eq_true.2 ⟨row, hrow, ?_⟩), _, rfl⟩
    simp [htype, hstate]
  cases hmeets with
  | unpublished hnone =>
    refine ends_bind (schemaFor_of_finds (.inl ⟨rfl, hnone⟩) nofun) ?_
    exact changeRecord_ends hkey hchange rfl
  | @published n' S hp hapart hvalid hbound =>
    obtain rfl : n = n' := Option.some.inj (Except.ok.inj (hn.symm.trans hp.number))
    refine ends_bind (schemaFor_of_finds hp.finds fun S' hS => Option.some.inj hS ▸ hvalid) ?_
    refine changeRecord_ends hkey hchange ?_
    exact IndexedType.updateRows_ends (t := ⟨n, key.typeName, S⟩) hapart (h.ready hs hp hapart _)
      (keyWord_eq_ok hkey) hbound hmem fun row => sameFields_of_text (haccepted r hr) rfl

/-- A change that no index can refuse. -/
theorem Coherent.changeRecord_ok (h : Coherent stem accepted db) {key : Key} {m : Int64}
    (hn : db.typeId? key.typeName = .ok (some n)) (hkey : keyWord key = .ok m)
    {allowed : RecordState → Bool} (hallowed : allowed .deleted = false)
    {change : RecordRow → RecordRow} {rows : IndexedType → Transaction Unit}
    (hrows : ∀ S, Published db key.typeName n S → S.Apart → ∀ records,
      ∃ db', rows ⟨n, key.typeName, S⟩ { db with records := records } = .ok ((), db'))
    {schema : Option Schema} (hf : FindsSchema db key.typeName schema) :
    ∃ b db', changeRecord n key schema allowed change rows db = .ok (b, db') := by
  cases hchange : db.changeRecord? (typeWord n) m allowed change with
  | none => exact ⟨false, db, changeRecord_absent hkey hchange⟩
  | some db' =>
    refine ⟨true, changeRecord_ends (e := none) hkey hchange ?_⟩
    rcases h.schemas.published_of_finds hn hf with ⟨rfl, -⟩ | ⟨S, rfl, hp⟩
    · rfl
    obtain ⟨⟨row, hrow, htype, -, hstate⟩, rfl⟩ := changeRecord?_eq_some hchange
    have hlive : row ∈ db.liveRecords n :=
      mem_liveRecords.2 ⟨hrow, htype, fun hdead => by rw [hdead, hallowed] at hstate; cases hstate⟩
    exact hrows S hp ((h.holds _ n S hp).apart_of_mem hlive) _

theorem Coherent.deleteRecord_ok (h : Coherent stem accepted db) {s : StoreSettings}
    (hs : s.stem = stem) {key : Key} {m : Int64} (hn : db.typeId? key.typeName = .ok (some n))
    (hkey : keyWord key = .ok m) :
    ∃ b db', RecordStore.deleteRecord s n key db = .ok (b, db') := by
  obtain ⟨schema, hf⟩ := h.exists_finds key.typeName
  obtain ⟨b, db', hstep⟩ : ∃ b db', changeRecord n key schema (· != .deleted)
      ({ · with state := .deleted }) (fun t => t.deleteRows s key.id) db = .ok (b, db') :=
    h.changeRecord_ok hn hkey rfl (fun S hp hapart records =>
      IndexedType.deleteRows_ok hapart (h.ready hs hp hapart records) (keyWord_eq_ok hkey)) hf
  exact ⟨b, db', (bind_of_ok (storedSchema_of_finds hf)).trans hstep⟩

theorem Coherent.moveRecord_ok (h : Coherent stem accepted db) {s : StoreSettings}
    (hs : s.stem = stem) {key : Key} {m : Int64} (hn : db.typeId? key.typeName = .ok (some n))
    (hkey : keyWord key = .ok m) (quarantined : Bool) :
    ∃ b db', RecordStore.moveRecord s n key quarantined db = .ok (b, db') := by
  obtain ⟨schema, hf⟩ := h.exists_finds key.typeName
  obtain ⟨b, db', hstep⟩ : ∃ b db', changeRecord n key schema (· == movedFrom quarantined)
      ({ · with state := movedTo quarantined }) (fun t => t.flagRows s key.id quarantined) db =
        .ok (b, db') :=
    h.changeRecord_ok hn hkey (by cases quarantined <;> rfl) (fun S hp hapart records =>
      IndexedType.flagRows_ok hapart (h.ready hs hp hapart records) (keyWord_eq_ok hkey)
        quarantined) hf
  refine ⟨b, db', (bind_of_ok (storedSchema_of_finds hf)).trans ?_⟩
  cases quarantined <;> exact hstep

/-- Under a stem without quote marks a type can always be cleared. -/
theorem Coherent.clearType_ok (h : Coherent stem accepted db) {s : StoreSettings} (hs : s.stem = stem)
    (hstem : '"' ∉ stem.toList) (hn : db.typeId? T = .ok (some n)) :
    ∃ k db', RecordStore.clearType s n T db = .ok (k, db') := by
  subst hs
  obtain ⟨schema, hf⟩ := h.exists_finds T
  have hget : (get : Transaction Database) db = .ok (db, db) := rfl
  have hset : (set (db.clearRecords (typeWord n)).2 : Transaction PUnit) db =
      .ok ((), (db.clearRecords (typeWord n)).2) := rfl
  refine ⟨(db.clearRecords (typeWord n)).1, ends_bind (e := none) (storedSchema_of_finds hf)
    (ends_bind hget (ends_bind hset ?_))⟩
  rcases h.schemas.published_of_finds hn hf with ⟨rfl, -⟩ | ⟨S, rfl, hp⟩
  · exact ⟨_, rfl⟩
  · have hholds := h.holds T n S hp
    obtain ⟨db', hrows⟩ : ∃ db', IndexedType.truncateAll ⟨n, T, S⟩ s
        (db.clearRecords (typeWord n)).2 = .ok ((), db') :=
      IndexedType.truncateAll_ok hstem
        (fun ix hix => readNames_eq_ok.1 (hholds.readable ix hix) _ List.mem_cons_self)
        fun ix hix => by
          obtain ⟨u, hu, -⟩ := hholds.tables ix hix
          exact Option.isSome_iff_exists.2 ⟨u, hu⟩
    exact ⟨db', bind_of_ok hrows⟩

end

end RecordStore
