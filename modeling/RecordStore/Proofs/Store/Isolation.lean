import Mathlib
import RecordStore.Proofs.Store.Atomicity
import RecordStore.Proofs.Store.Backfill
import RecordStore.Proofs.Store.OneType
import RecordStore.Proofs.Store.Sharing

/-!
Types and records are kept apart.  An operation leaves everything alone that belongs to another type than
the one it works on, and an operation on one record leaves the rows of all other records alone, whether
it succeeds or not.
-/
namespace RecordStore
open Database Transaction Sql Index RecordStore.Action

attribute [local irreducible] tableName indexName

/-! ### Other types -/

/-- All that belongs to a type is as it was: its number and the next number of its records, its schema,
its records, and the tables and index objects of its indexes. -/
structure TypeKept (stem T : String) (db db' : Database) : Prop where
  registered : db'.types.filter (·.name == T) = db.types.filter (·.name == T)
  schema : db'.schemas.filter (·.typeName == T) = db.schemas.filter (·.typeName == T)
  records : ∀ n, db.typeId? T = .ok (some n) →
    db'.records.filter (·.typeId == typeWord n) = db.records.filter (·.typeId == typeWord n)
  tables : ∀ n, db.typeId? T = .ok (some n) → ∀ index,
    db'.table? (tableName stem n index) = db.table? (tableName stem n index)
  objects : ∀ n, db.typeId? T = .ok (some n) → ∀ index,
    db'.indexesOf (tableName stem n index) = db.indexesOf (tableName stem n index)

section
variable {stem : String} {accepted : Record → Prop} {T T' : String} {n : UInt32} {db db' : Database}

theorem typeId?_of_filter (h : db'.types.filter (·.name == T) = db.types.filter (·.name == T)) :
    db'.typeId? T = db.typeId? T := by
  have hrow : db'.typeRow? T = db.typeRow? T := by
    rw [typeRow?, typeRow?, ← List.head?_filter, ← List.head?_filter, h]
  rw [typeId?, typeId?, hrow]

theorem composes_typeKept (stem T : String) : Composes (TypeKept stem T) where
  refl _ := ⟨rfl, rfl, fun _ _ => rfl, fun _ _ _ => rfl, fun _ _ _ => rfl⟩
  trans {db₁ db₂ db₃} h h' := by
    have hn : db₂.typeId? T = db₁.typeId? T := typeId?_of_filter h.registered
    exact ⟨h'.registered.trans h.registered, h'.schema.trans h.schema,
      fun n hn₁ => (h'.records n (hn.trans hn₁)).trans (h.records n hn₁),
      fun n hn₁ index => (h'.tables n (hn.trans hn₁) index).trans (h.tables n hn₁ index),
      fun n hn₁ index => (h'.objects n (hn.trans hn₁) index).trans (h.objects n hn₁ index)⟩

/-- A change within one type leaves another type alone. -/
theorem WithinType.typeKept (h : WithinType stem n T db db') (ht : TypesSound db)
    (hn : db.typeId? T = .ok (some n)) (hne : T' ≠ T) : TypeKept stem T' db db' := by
  have hnumber (m : UInt32) (hm : db.typeId? T' = .ok (some m)) : m ≠ n := by
    rintro rfl
    exact hne (ht.eq_of_number hm hn)
  exact ⟨by rw [h.types], h.schemas T' hne,
    fun m hm => h.records (typeWord m) fun he => hnumber m hm (typeWord_injective he),
    fun m hm index => h.table _ (outside_tableName stem (hnumber m hm) index),
    fun m hm index => h.objects _ (outside_tableName stem (hnumber m hm) index)⟩

theorem typeKept_of_types {types : List TypeRow}
    (h : types.filter (·.name == T) = db.types.filter (·.name == T)) :
    TypeKept stem T db { db with types := types } :=
  ⟨h, rfl, fun _ _ => rfl, fun _ _ _ => rfl, fun _ _ _ => rfl⟩

theorem typeKept_typeId {create : Bool} {found : Option UInt32}
    (h : db.typeId T create = .ok (found, db')) (hne : T' ≠ T) : TypeKept stem T' db db' := by
  rcases typeId_eq_ok h with ⟨-, rfl⟩ | ⟨-, -, id, -, -, rfl⟩
  · exact (composes_typeKept stem T').refl _
  · have hnew : (T == T') = false := beq_eq_false_iff_ne.2 hne.symm
    exact typeKept_of_types (by simp [hnew])

theorem typeKept_nextId {id : UInt64} (h : db.nextId T = .ok (id, db')) (hne : T' ≠ T) :
    TypeKept stem T' db db' := by
  obtain ⟨row, -, -, -, rfl⟩ := nextId_eq_ok h
  refine typeKept_of_types (filter_map_of_fixed (fun r => by rw [movedOn_name]) (fun r hr => ?_) _)
  have hname : r.name = T' := beq_iff_eq.1 hr
  rw [if_neg (by rw [hname]; simpa using hne)]

/-- What stores do for other types leaves a type as it was. -/
theorem keptFor_typeKept (haccepted : ∀ r, accepted r → (Json.object r).WellFormed) {s : Store}
    (hs : s.settings.stem = stem) (T' : String) (db₀ : Database) :
    KeptFor s accepted (T' ≠ ·)
      fun db => Coherent stem accepted db ∧ TypeKept stem T' db₀ db := by
  obtain rfl := hs
  have hc := keptBy_coherent haccepted (s := s) rfl
  have hcomp := composes_typeKept s.settings.stem T'
  exact {
    typeId := fun hne h hstep => ⟨hc.typeId h.1 hstep, hcomp.trans h.2 (typeKept_typeId hstep hne)⟩
    nextId := fun hne h hstep => ⟨hc.nextId h.1 hstep, hcomp.trans h.2 (typeKept_nextId hstep hne)⟩
    -- the number of the record was taken in between, which does not touch what the type is registered as
    addRecord := fun {T _ _ _ _ _ _ _} hne h hn hnext hr hstep => by
      have hnumber := (typeId?_of_nextId hnext T).trans hn
      have hadded := (addRecord_within hstep).typeKept (h.1.nextId hnext).types hnumber hne
      exact ⟨hc.addRecord h.1 hn hnext hr hstep,
        hcomp.trans (hcomp.trans h.2 (typeKept_nextId hnext hne)) hadded⟩
    replaceRecord := fun hne h hn hr hstep => ⟨hc.replaceRecord h.1 hn hr hstep,
      hcomp.trans h.2 ((replaceRecord_within hstep).typeKept h.1.types hn hne)⟩
    deleteRecord := fun hne h hn hstep => ⟨hc.deleteRecord h.1 hn hstep,
      hcomp.trans h.2 ((deleteRecord_within hstep).typeKept h.1.types hn hne)⟩
    moveRecord := fun hne h hn hstep => ⟨hc.moveRecord h.1 hn hstep,
      hcomp.trans h.2 ((moveRecord_within hstep).typeKept h.1.types hn hne)⟩
    clearType := fun hne h hn hstep => ⟨hc.clearType h.1 hn hstep,
      hcomp.trans h.2 ((clearType_within h.1 hstep).typeKept h.1.types hn hne)⟩
    publish := fun hne h hvalid hn hstep => ⟨hc.publish h.1 hvalid hn hstep,
      hcomp.trans h.2 ((publish_within h.1 hstep).typeKept h.1.types hn hne)⟩
    unpublish := fun hne h hn hstep => ⟨hc.unpublish h.1 hn hstep,
      hcomp.trans h.2 ((unpublish_within h.1 hstep).typeKept h.1.types hn hne)⟩ }

theorem typeKept_perform (haccepted : ∀ r, accepted r → (Json.object r).WellFormed) {s : Store}
    (hs : s.settings.stem = stem) {o : Operation} (ho : o.Admits accepted) {w : Workspace}
    (hw : Coherent stem accepted w.database) (hT : o.type? s w.session ≠ some T) :
    TypeKept stem T w.database (s.perform o w).2.database := by
  have hkept := keptFor_typeKept haccepted hs T w.database
  refine (hkept.perform ho ⟨hw, (composes_typeKept stem T).refl _⟩ fun T' hT' => ?_).2
  rintro rfl
  exact hT hT'

/-! ### Other records -/

/-- The records under a number of a type. -/
def Database.recordsUnder (db : Database) (n : UInt32) (m : Int64) : List RecordRow :=
  db.records.filter fun r => r.typeId == typeWord n && r.id == m

/-- The rows under a record number in the table of an index. -/
def Database.rowsUnder (db : Database) (table : String) (m : Int64) : List (List Cell) :=
  match db.table? table with
  | some t => (t.rows.filter fun row => (t.source idColumn).cell row == .integer m).map (·.cells)
  | none => []

/-- All that belongs to a record number is as it was: the record and its rows in index tables. -/
structure RecordKept (stem : String) (n : UInt32) (m : Int64) (db db' : Database) : Prop where
  records : db'.recordsUnder n m = db.recordsUnder n m
  rows : ∀ index,
    db'.rowsUnder (tableName stem n index) m = db.rowsUnder (tableName stem n index) m

theorem filter_liveRecords (db : Database) (n : UInt32) (m : Int64) :
    (db.liveRecords n).filter (·.id == m) = (db.recordsUnder n m).filter (·.state != .deleted) := by
  simp only [liveRecords, recordsUnder, List.filter_filter]
  refine List.filter_congr fun r _ => ?_
  cases r.typeId == typeWord n <;> cases r.id == m <;> cases r.state != .deleted <;> rfl

/-- The rows of a number in a table that is filled with records are those of its records. -/
theorem rowsUnder_of_filled {s : Schema} {ix : IndexDefinition} {t : Table} {table : String}
    {records : List RecordRow} (ht : db.table? table = some t) (hs : Shaped s ix t)
    (hf : Filled s ix t records) (m : Int64) :
    (db.rowsUnder table m).Perm ((records.filter (·.id == m)).map (entry s ix)) := by
  obtain ⟨ordered, hperm, hrows⟩ := hf.exists_ordered
  have hsame : (t.rows.filter fun row => (t.source idColumn).cell row == .integer m).map (·.cells) =
      (ordered.filter (·.id == m)).map (entry s ix) := by
    generalize t.rows = rows at hrows
    clear hperm
    induction hrows with
    | nil => rfl
    | @cons row record rows ordered hrow _ ih =>
      have hid : ((t.source idColumn).cell row == .integer m) = (record.id == m) := by
        rw [(hs.entry_cells hrow.1).1, Bool.eq_iff_iff, beq_iff_eq, beq_iff_eq, Cell.integer.injEq]
      by_cases hm : record.id = m <;> simp [hid, hm, ih, hrow.1]
  rw [Database.rowsUnder, ht]
  simp only [hsame]
  exact (hperm.filter _).map _

theorem perm_eq_of_length {α : Type} {xs ys : List α} (h : xs.Perm ys) (hl : ys.length ≤ 1) :
    xs = ys := by
  match ys, hl with
  | [], _ => exact h.eq_nil
  | [y], _ => exact List.perm_singleton.1 h

theorem RecordsSound.length_filter_id (h : RecordsSound accepted db.records) (n : UInt32)
    (m : Int64) : ((db.liveRecords n).filter (·.id == m)).length ≤ 1 := by
  rw [← List.countP_eq_length_filter]
  have hcount := List.nodup_iff_count_le_one.1 (h.nodup_ids (n := n)) m
  rwa [List.count, List.countP_map] at hcount

/-- The table of an index of a published schema has the row of a record under its number. -/
theorem Coherent.rowsUnder_eq (h : Coherent stem accepted db) {S : Schema}
    (hp : Published db T n S) {ix : IndexDefinition} (hix : ix ∈ S.indexes) (m : Int64) :
    db.rowsUnder (tableName stem n ix.name) m =
      ((db.liveRecords n).filter (·.id == m)).map (entry S ix) := by
  have hholds := h.holds T n S hp
  rcases hholds.apart with hapart | hnil
  · -- the table is only known up to the order of its rows, but there is at most one under the number
    obtain ⟨t, ht, hshaped, hfilled⟩ := hholds.tables.shaped hapart hix
    refine perm_eq_of_length (rowsUnder_of_filled ht hshaped hfilled m) ?_
    rw [List.length_map]
    exact h.records.length_filter_id n m
  · obtain ⟨t, ht, -, hfilled⟩ := hholds.tables ix hix
    rw [hnil] at hfilled ⊢
    have hrows : t.rows = [] := List.map_eq_nil_iff.1 hfilled.eq_nil
    simp [Database.rowsUnder, ht, hrows]

/-- Rows are kept where the records and schemas are. -/
theorem recordKept_of_records (h : Coherent stem accepted db) (h' : Coherent stem accepted db')
    (hschemas : db'.schemas = db.schemas) (hgrow : TypesGrow db db') {m : Int64}
    (hrecords : db'.recordsUnder n m = db.recordsUnder n m) : RecordKept stem n m db db' := by
  have hlive : (db'.liveRecords n).filter (·.id == m) = (db.liveRecords n).filter (·.id == m) := by
    rw [filter_liveRecords, filter_liveRecords, hrecords]
  have htext (T : String) : db'.schemaText? T = db.schemaText? T := by
    rw [schemaText?, schemaText?, hschemas]
  have hafter {T : String} {S : Schema} (hp : Published db T n S) : Published db' T n S :=
    ⟨(htext T).trans hp.text, hgrow.number T n hp.number⟩
  -- a schema that is published for a type afterwards was so before
  have hbefore {T : String} {S : Schema} (hp : Published db' T n S) : Published db T n S := by
    have hp' := (htext T).symm.trans hp.text
    obtain ⟨-, k, hk⟩ := h.schemas.each _ (mem_of_schemaText? hp')
    have hk' := (hgrow.number T k hk).symm.trans hp.number
    exact ⟨hp', hk.trans hk'⟩
  refine ⟨hrecords, fun index => ?_⟩
  -- the table of the index is that of an index of the schema, or there is none before and after
  by_cases hindex : ∃ T S ix, Published db T n S ∧ ix ∈ S.indexes ∧
      tableName stem n index = tableName stem n ix.name
  · obtain ⟨T, S, ix, hp, hix, hname⟩ := hindex
    rw [hname, h.rowsUnder_eq hp hix, h'.rowsUnder_eq (hafter hp) hix, hlive]
  · have hnone : db.table? (tableName stem n index) = none := by
      cases ht : db.table? (tableName stem n index) with
      | none => rfl
      | some t => exact absurd (h.exists_index ht) hindex
    have hnone' : db'.table? (tableName stem n index) = none := by
      cases ht : db'.table? (tableName stem n index) with
      | none => rfl
      | some t =>
        obtain ⟨T, S, ix, hp, hix, hname⟩ := h'.exists_index ht
        exact absurd ⟨T, S, ix, hbefore hp, hix, hname⟩ hindex
    rw [Database.rowsUnder, Database.rowsUnder, hnone, hnone']

/-- A number of a type and a number of a record belong to one key. -/
theorem TypesSound.key_eq (ht : TypesSound db) {key key' : Key} {m : Int64}
    (hn : db.typeId? key.typeName = .ok (some n)) (hm : keyWord key = .ok m)
    (hn' : db.typeId? key'.typeName = .ok (some n)) (hm' : keyWord key' = .ok m) : key = key' := by
  have htype : key.typeName = key'.typeName := ht.eq_of_number hn hn'
  have hid : key.id = key'.id := by
    obtain ⟨-, -, hid⟩ := storedId?_eq_some (keyWord_eq_ok hm)
    obtain ⟨-, -, hid'⟩ := storedId?_eq_some (keyWord_eq_ok hm')
    exact hid.trans hid'.symm
  cases key
  cases key'
  obtain rfl := htype
  obtain rfl := hid
  rfl

theorem Rewrites.recordsUnder {m m' : Int64} {n' : UInt32} {f : RecordRow → RecordRow}
    (hf : Rewrites n' m' f) (hne : ¬ (n = n' ∧ m = m')) (db : Database) :
    Database.recordsUnder { db with records := db.records.map f } n m = db.recordsUnder n m := by
  refine filter_map_of_fixed (fun r => by rw [hf.typeId, hf.id]) (fun r hr => hf.other r ?_) _
  obtain ⟨htype, hid⟩ : r.typeId = typeWord n ∧ r.id = m := by simpa using hr
  rintro ⟨htype', hid'⟩
  exact hne ⟨typeWord_injective (htype.symm.trans htype'), hid.symm.trans hid'⟩

theorem ChangesOne.recordsUnder {n' : UInt32} {key : Key} {allowed : RecordState → Bool}
    {change : RecordRow → RecordRow} {b : Bool} (h : ChangesOne n' key allowed change b db db')
    (ht : ∀ row, (change row).typeId = row.typeId) (hi : ∀ row, (change row).id = row.id)
    {m : Int64} (hne : ¬ (n = n' ∧ keyWord key = .ok m)) :
    db'.recordsUnder n m = db.recordsUnder n m := by
  obtain ⟨m', hkey, ⟨-, rfl, -⟩ | ⟨-, db₁, hchange, honly⟩⟩ := h
  · rfl
  · obtain ⟨-, rfl⟩ := changeRecord?_eq_some hchange
    have hw := rewrites_ite n' m' allowed change ht hi
    have hother : ¬ (n = n' ∧ m = m') := by
      rintro ⟨rfl, rfl⟩
      exact hne ⟨rfl, hkey⟩
    rw [← hw.recordsUnder hother db]
    exact congrArg (List.filter _) honly.records

/-! ### Operations on one record -/

/-- Whether an operation is about one record. -/
def Operation.OnOneRecord : Operation → Prop
  | .create _ _ | .update _ _ | .delete _ | .quarantine _ | .release _ => True
  | _ => False

/-- The record of a key is as it was, and so are all schemas. -/
structure OtherKept (key : Key) (db db' : Database) : Prop where
  schemas : db'.schemas = db.schemas
  records : ∀ n m, db'.typeId? key.typeName = .ok (some n) → keyWord key = .ok m →
    db'.recordsUnder n m = db.recordsUnder n m

theorem Unchanged.otherKept (h : Unchanged db db') (key : Key) : OtherKept key db db' :=
  ⟨h.schemas, fun _ _ _ _ => congrArg (List.filter _) h.records⟩

variable {key : Key} {s : Store} {w : Workspace}

theorem ChangesOne.otherKept {key' : Key} {n' : UInt32} {allowed : RecordState → Bool}
    {change : RecordRow → RecordRow} {b : Bool} (h : ChangesOne n' key' allowed change b db db')
    (ht : ∀ row, (change row).typeId = row.typeId) (hi : ∀ row, (change row).id = row.id)
    (htypes : TypesSound db) (hn' : db.typeId? key'.typeName = .ok (some n')) (hne : key' ≠ key) :
    OtherKept key db db' := by
  refine ⟨h.fixedKept.schemas, fun n m hn hm => h.recordsUnder ht hi ?_⟩
  rw [typeId?_congr h.fixedKept.types] at hn
  rintro ⟨rfl, hm'⟩
  exact hne (htypes.key_eq hn' hm' hn hm)

/-- An operation on the record of a text leaves those of other keys alone. -/
theorem otherKept_resolved (s : Store) (text : String) (t : Key → UInt32 → Transaction Bool)
    (hne : (s.codec.decode text w.session.keys).1.toOption ≠ some key)
    (ht : ∀ key' n' b db', key' ≠ key → w.database.typeId? key'.typeName = .ok (some n') →
      t key' n' w.database = .ok (b, db') → OtherKept key w.database db') :
    let x : Action Bool := do
      match ← s.resolve text with
      | none => return false
      | some (key, n) => transact (t key n)
    OtherKept key w.database (x w).2.database := by
  intro x
  rcases resolved_cases s text t w with hsame | ⟨key', n', b, hread, hn', hrun⟩
  · rw [show (x w).2.database = w.database from hsame]
    exact (composes_unchanged.refl _).otherKept key
  · refine ht key' n' b _ ?_ hn' hrun
    rintro rfl
    exact hne (by rw [hread]; rfl)

theorem otherKept_create {v : Json} (h : Coherent stem accepted (s.create T v w).2.database)
    (hne : (s.create T v w).1 ≠ .ok key) : OtherKept key w.database (s.create T v w).2.database := by
  rcases hresult : s.create T v w with ⟨r, w'⟩
  rw [hresult] at h hne
  cases r with
  | error e =>
    have hunchanged := guards_create s T v w (.inl ⟨e, by rw [hresult]⟩)
    rw [hresult] at hunchanged
    exact hunchanged.otherKept key
  | ok k =>
    obtain ⟨r, rfl⟩ := exists_record_of_create hresult
    obtain ⟨-, n', d, id, d₁, d₂, htype, hnext, hadd, rfl, rfl⟩ := create_eq_ok_iff.1 hresult
    obtain ⟨m', hkey, -, honly⟩ := addRecord_onlyTables hadd
    have hbefore : d₁.records = w.database.records ∧ d₁.schemas = w.database.schemas := by
      obtain ⟨-, -, -, -, rfl⟩ := nextId_eq_ok hnext
      rcases typeId_eq_ok htype with ⟨-, rfl⟩ | ⟨-, -, -, -, -, rfl⟩ <;> exact ⟨rfl, rfl⟩
    have hn' : d₂.typeId? T = .ok (some n') := by
      rw [typeId?_congr honly.types]
      exact (typeId?_of_nextId hnext T).trans (typeId?_of_typeId htype)
    refine ⟨honly.schemas.trans hbefore.2, fun n m hn hm => ?_⟩
    -- under the numbers of the key the new record is not found, since it has another key
    have hnew : ¬ (typeWord n' = typeWord n ∧ m' = m) := by
      rintro ⟨hsame, rfl⟩
      obtain rfl := typeWord_injective hsame
      exact hne (congrArg Except.ok (h.types.key_eq hn' hkey hn hm))
    rw [Database.recordsUnder, Database.recordsUnder, honly.records, List.filter_append, hbefore.1]
    simpa using hnew

theorem otherKept_perform {o : Operation} (hone : o.OnOneRecord) (htypes : TypesSound w.database)
    (hafter : Coherent stem accepted (s.perform o w).2.database)
    (hkey : o.key? s w.session ≠ some key) (hnew : (s.perform o w).1 ≠ .ok (.key key)) :
    OtherKept key w.database (s.perform o w).2.database := by
  have hmap {α : Type} {x : Action α} (g : α → Answer)
      (hx : OtherKept key w.database (x w).2.database) :
      OtherKept key w.database ((g <$> x) w).2.database := by
    rw [map_apply]
    exact hx
  cases o with
  | create T v =>
    have hafter' : Coherent stem accepted ((Answer.key <$> s.create T v) w).2.database := hafter
    have hnew' : ((Answer.key <$> s.create T v) w).1 ≠ .ok (.key key) := hnew
    rw [map_apply] at hafter' hnew'
    exact hmap Answer.key (otherKept_create hafter' fun hk => hnew' (by rw [hk]; rfl))
  | update text v =>
    refine hmap Answer.changed ?_
    cases hr : v.record? with
    | none =>
      rw [show s.update text v w = _ from Action.bind_of_error (lift_checkObject_of_none hr w)]
      exact (composes_unchanged.refl _).otherKept key
    | some r =>
      rw [show s.update text v w = _ from Action.bind_of_ok (lift_checkObject hr w)]
      exact otherKept_resolved s text _ hkey fun _ _ _ _ hne hn hstep =>
        (replaceRecord_changesOne hstep).otherKept (fun _ => rfl) (fun _ => rfl) htypes hn hne
  | delete text =>
    exact hmap Answer.changed (otherKept_resolved s text _ hkey fun _ _ _ _ hne hn hstep =>
      (deleteRecord_changesOne hstep).otherKept (fun _ => rfl) (fun _ => rfl) htypes hn hne)
  | quarantine text =>
    exact hmap Answer.changed (otherKept_resolved s text _ hkey fun _ _ _ _ hne hn hstep =>
      (moveRecord_changesOne hstep).otherKept (fun _ => rfl) (fun _ => rfl) htypes hn hne)
  | release text =>
    exact hmap Answer.changed (otherKept_resolved s text _ hkey fun _ _ _ _ hne hn hstep =>
      (moveRecord_changesOne hstep).otherKept (fun _ => rfl) (fun _ => rfl) htypes hn hne)
  | _ => exact hone.elim

end

/-! ### All operations -/

/-- What an operation of a store leaves alone. -/
structure Isolated (s : Store) (o : Operation) (w : Workspace) : Prop where
  /-- Everything that belongs to another type than the one that is worked on. -/
  types : ∀ T, o.type? s w.session ≠ some T →
    TypeKept s.settings.stem T w.database (s.perform o w).2.database
  /-- Everything that belongs to another record than the one that is changed or created. -/
  records : o.OnOneRecord → ∀ key n m,
    (s.perform o w).2.database.typeId? key.typeName = .ok (some n) → keyWord key = .ok m →
    o.key? s w.session ≠ some key → (s.perform o w).1 ≠ .ok (.key key) →
    RecordKept s.settings.stem n m w.database (s.perform o w).2.database

/-- In every database that stores of one stem reach, what such a store does for one type leaves all
other types alone, and what it does for one record leaves all other records alone. -/
theorem operation_isolated {stem : String} {db : Database} (h : Reached stem Formed db) {s : Store}
    (hs : s.settings.stem = stem) {o : Operation} (ho : o.Admits Formed) (session : Session) :
    Isolated s o ⟨db, session⟩ := by
  obtain rfl := hs
  have hformed : ∀ r, Formed r → (Json.object r).WellFormed := fun _ hr => hr
  have hc := coherent_of_reached hformed h
  have hafter := coherent_perform (w := ⟨db, session⟩) hformed rfl ho hc
  refine ⟨fun T hT => typeKept_perform hformed rfl ho hc hT,
    fun hone key n m hn hm hkey hnew => ?_⟩
  have hother := otherKept_perform hone hc.types hafter hkey hnew
  exact recordKept_of_records hc hafter hother.schemas
    (typesGrow_perform s o ⟨db, session⟩) (hother.records n m hn hm)

/-- What is deleted is never answered by a key. -/
theorem perform_delete_ne_key (s : Store) (text : String) (w : Workspace) (key : Key) :
    (s.perform (.delete text) w).1 ≠ .ok (.key key) := by
  rw [show s.perform (.delete text) w = _ from map_apply Answer.changed (s.delete text) w]
  cases (s.delete text w).1 <;> nofun

/-- Two stores publish one schema for two types whose names differ in case, and add records. -/
def letterRun : List (Except Error Answer) × Deployment :=
  (Deployment.opened memberStore false 2).run
    [(0, .createSchema "t" flagSchema), (1, .createSchema "T" flagSchema),
      (0, .create "t" (.object [])), (0, .create "t" (.object [])),
      (1, .create "T" (.object []))]

theorem reached_letterRun : Reached "" Formed letterRun.2.database := by
  refine reached_run (d := .opened memberStore false 2) .empty ?_
  simp [Operation.Admits, Json.record?, Formed, Json.WellFormed, Json.MembersWellFormed]

theorem letterRun_fixed : letterRun.2.database.typeId? "t" = .ok (some 1) ∧
    (letterRun.2.database.recordsUnder 1 2).length = 1 := by
  decide +kernel

theorem operation_isolated_delete :
    TypeKept "" "T" letterRun.2.database
        (memberStore.perform (.delete "t:1") ⟨letterRun.2.database, .fresh⟩).2.database ∧
      RecordKept "" 1 2 letterRun.2.database
        (memberStore.perform (.delete "t:1") ⟨letterRun.2.database, .fresh⟩).2.database := by
  have hread : (Operation.delete "t:1").key? memberStore .fresh = some ⟨"t", 1⟩ := by decide +kernel
  -- nothing but this has to be known of the database
  have hdelete : ∀ db, Reached "" Formed db → db.typeId? "t" = .ok (some 1) →
      TypeKept "" "T" db (memberStore.perform (.delete "t:1") ⟨db, .fresh⟩).2.database ∧
        RecordKept "" 1 2 db (memberStore.perform (.delete "t:1") ⟨db, .fresh⟩).2.database := by
    intro db hreached hnumber
    have hisolated : Isolated memberStore (.delete "t:1") ⟨db, .fresh⟩ :=
      operation_isolated (o := .delete "t:1") hreached rfl trivial .fresh
    have hgrow := typesGrow_perform memberStore (.delete "t:1") ⟨db, .fresh⟩
    refine ⟨hisolated.types "T" ?_, hisolated.records trivial ⟨"t", 2⟩ 1 2
      (hgrow.number "t" 1 hnumber) rfl ?_ (perform_delete_ne_key _ _ _ _)⟩
    · show ((Operation.delete "t:1").key? memberStore .fresh).map (·.typeName) ≠ some "T"
      rw [hread]
      decide
    · rw [hread]
      decide
  exact hdelete letterRun.2.database reached_letterRun letterRun_fixed.1

end RecordStore
