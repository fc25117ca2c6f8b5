import Mathlib
import RecordStore.Proofs.Store.Backfill
import RecordStore.Proofs.Store.Uniqueness

/-!
Stored records that enter empty index tables.  Records that fit their schema and share no key go in one
after the other, whatever their order, and none of the statements is refused.
-/
namespace RecordStore
open Database Transaction Index Sql

attribute [local irreducible] tableName indexName

/-! ### Records that go together -/

/-- Records of one type that its index tables can hold together: each fits the schema, and no two have
one number or share a key that has to be unique. -/
structure Fits (S : Schema) (rows : List RecordRow) : Prop where
  sound : ∀ row ∈ rows, RowSound Readable row ∧ row.state ≠ .deleted
  valid : ∀ row ∈ rows, S.recordFault? row.record = none ∧ ∀ ix ∈ S.indexes, Bound S ix row.record
  ids : (rows.map (·.id)).Nodup
  keys : ∀ ix ∈ S.indexes, ix.unique = true →
    rows.Pairwise fun x y => sharesKey S ix x.record y.record = false
  length : rows.length < 2 ^ 63

section
variable {S : Schema} {row : RecordRow} {rows rows' : List RecordRow}

theorem Fits.perm (h : Fits S rows) (hp : rows.Perm rows') : Fits S rows' where
  sound row hrow := h.sound row (hp.mem_iff.2 hrow)
  valid row hrow := h.valid row (hp.mem_iff.2 hrow)
  ids := (hp.map _).nodup_iff.1 h.ids
  keys ix hix hunique := by
    refine (hp.pairwise_iff fun {x y} hxy => ?_).1 (h.keys ix hix hunique)
    rwa [sharesKey_comm]
  length := hp.length_eq ▸ h.length

theorem Fits.sublist (h : Fits S rows) (hs : rows'.Sublist rows) : Fits S rows' where
  sound row hrow := h.sound row (hs.subset hrow)
  valid row hrow := h.valid row (hs.subset hrow)
  ids := h.ids.sublist (hs.map _)
  keys ix hix hunique := (h.keys ix hix hunique).sublist hs
  length := lt_of_le_of_lt hs.length_le h.length

theorem Fits.id_ne (h : Fits S (row :: rows)) : ∀ x ∈ rows, x.id ≠ row.id := by
  intro x hx hid
  obtain ⟨hnew, -⟩ := List.nodup_cons.1 h.ids
  exact hnew (List.mem_map.2 ⟨x, hx, hid⟩)

/-- No index refuses a record that goes together with those that are there. -/
theorem Fits.blocked_eq_false (h : Fits S (row :: rows)) {ix : IndexDefinition}
    (hix : ix ∈ S.indexes) : blocked S ix row.id row.record rows = false := by
  rw [blocked_eq_false_iff]
  intro hunique x hx _
  exact (List.pairwise_cons.1 (h.keys ix hix hunique)).1 x hx

/-- The records of a coherent database go together. -/
theorem Coherent.fits {stem : String} {db : Database} {T : String} {n : UInt32}
    (h : Coherent stem Readable db) (hcounted : Counted db) (hp : Published db T n S) :
    Fits S (db.liveRecords n) where
  sound row hrow := by
    obtain ⟨hmem, -, hlive⟩ := mem_liveRecords.1 hrow
    exact ⟨h.records.each row hmem, hlive⟩
  valid := (h.holds T n S hp).valid
  ids := h.records.nodup_ids
  keys _ hix hunique := h.pairwise_keys hp hix hunique
  length := hcounted.length_lt h hp.number

end

/-! ### Tables that hold them -/

/-- The tables of the indexes of a type can be reached, keep unique what they have to, and hold the
rows of some records. -/
structure IndexedType.Holds (t : IndexedType) (s : StoreSettings) (rows : List RecordRow)
    (db : Database) : Prop where
  keyed : db.Keyed
  rows : IndexesHold s.stem t.typeId t.schema rows db
  uniques : ∀ ix ∈ t.schema.indexes,
    db.uniquesOf (tableName s.stem t.typeId ix.name) = uniquesFor ix
  readable : ∀ ix ∈ t.schema.indexes,
    readNames (tableName s.stem t.typeId ix.name :: (columnSpecs t.schema ix).map (·.name)) = .ok ()

namespace IndexedType
variable {t : IndexedType} {s : StoreSettings} {row : RecordRow} {rows rows' : List RecordRow}
  {db db' : Database}

theorem Holds.ready (h : t.Holds s rows db) (hapart : t.schema.Apart)
    (hbound : ∀ x ∈ rows, ∀ ix ∈ t.schema.indexes, Bound t.schema ix x.record) :
    ∀ ix ∈ t.schema.indexes, t.Ready s rows ix db := by
  intro ix hix
  obtain ⟨u, hu, hshaped, hfilled⟩ := h.rows.shaped hapart hix
  obtain ⟨hmem, hname⟩ := mem_of_table? hu
  have hkeys := h.keyed.keys u hmem
  rw [uniquesOf_congr db hname, h.uniques ix hix] at hkeys
  exact ⟨h.readable ix hix, h.uniques ix hix,
    ⟨u, hu, hshaped, hfilled, hkeys, h.keyed.numbered u hmem⟩, fun x hx => hbound x hx ix hix⟩

theorem Holds.of_rowsWritten (h : t.Holds s rows db)
    (hw : RowsWritten s.stem t.typeId t.schema rows' db db') : t.Holds s rows' db' where
  keyed := hw.keyed
  rows := hw.holds
  uniques ix hix := by
    rw [uniquesOf, indexesOf_congr_objects hw.rowsOnly.indexObjects]
    exact h.uniques ix hix
  readable := h.readable

/-- A record that goes together with those that are there gets its rows, as one that is live. -/
theorem Holds.insertRows (h : t.Holds s rows db) (hapart : t.schema.Apart)
    (hfits : Fits t.schema (row :: rows)) {id : UInt64} (hid : storedId? id = some row.id) :
    ∃ db', t.insertRows s id row.record db = .ok ((), db') ∧
      t.Holds s ({ row with state := .live } :: rows) db' := by
  have hbounds : ∀ x ∈ rows, ∀ ix ∈ t.schema.indexes, Bound t.schema ix x.record :=
    fun x hx => (hfits.valid x (List.mem_cons_of_mem _ hx)).2
  have hnone : t.schema.indexes.find? (blocked t.schema · row.id row.record rows) = none := by
    refine List.find?_eq_none.2 fun ix hix => ?_
    rw [hfits.blocked_eq_false hix]
    exact Bool.false_ne_true
  let live : RecordRow := { row with state := .live }
  have hends : Ends (t.insertRows s id row.record) db ()
      ((t.schema.indexes.find? (blocked t.schema · live.id row.record rows)).map fun ix =>
        .uniquenessConflict t.typeName ix.name) :=
    insertRows_ends hapart (h.ready hapart hbounds) hid rfl (fun _ => rfl)
      (hfits.valid row List.mem_cons_self).2 hfits.id_ne
      (lt_of_le_of_lt (Nat.le_succ _) hfits.length)
  rw [hnone] at hends
  obtain ⟨db', hinsert⟩ := hends
  obtain ⟨-, -, hwritten⟩ := insertRows_holds live h.keyed h.rows hinsert hid rfl fun _ => rfl
  exact ⟨db', hinsert, h.of_rowsWritten hwritten⟩

/-- A record that goes together with those that are there is entered. -/
theorem Holds.backfill (h : t.Holds s rows db) (hapart : t.schema.Apart)
    (hfits : Fits t.schema (row :: rows)) :
    ∃ db', t.backfill s row db = .ok ((), db') ∧ t.Holds s (row :: rows) db' := by
  obtain ⟨hsound, hlive⟩ := hfits.sound row List.mem_cons_self
  have hid : storedId? (UInt64.ofNat row.id.toInt.toNat) = some row.id :=
    storedId?_ofNat hsound.id
  obtain ⟨db₁, hinsert, hinserted⟩ := h.insertRows hapart hfits hid
  -- only a quarantined record needs a second statement for each index
  have hflag : ∃ db', (if row.state = .quarantined then
      t.flagRows s (UInt64.ofNat row.id.toInt.toNat) true else pure ()) db₁ = .ok ((), db') := by
    split
    · refine flagRows_ok hapart (hinserted.ready hapart fun x hx => ?_) hid true
      rcases List.mem_cons.1 hx with rfl | hx
      · exact (hfits.valid row List.mem_cons_self).2
      · exact (hfits.valid x (List.mem_cons_of_mem _ hx)).2
    · exact ⟨db₁, rfl⟩
  obtain ⟨db', hflag⟩ := hflag
  have hrun : t.backfill s row db = .ok ((), db') := by
    have h₁ : Transaction.lift (recordId row.id) db =
        .ok (UInt64.ofNat row.id.toInt.toNat, db) :=
      lift_eq_ok.2 ⟨recordId_of_storedId? hid, rfl⟩
    have h₂ : Transaction.lift (storedRecord row.text) db = .ok (row.record, db) :=
      lift_eq_ok.2 ⟨storedRecord_of_rowSound hsound, rfl⟩
    have h₃ : Transaction.lift (checkRecord t.typeName t.schema row.record) db = .ok ((), db) :=
      lift_eq_ok.2 ⟨checkRecord_eq_ok.2 (hfits.valid row List.mem_cons_self).1, rfl⟩
    exact (bind_of_ok h₁).trans ((bind_of_ok h₂).trans ((bind_of_ok h₃).trans
      ((bind_of_ok hinsert).trans hflag)))
  obtain ⟨-, -, hall⟩ := backfill_holds (fun r hr => hr.1) h.keyed h.rows hsound hlive hfits.id_ne
    hrun
  exact ⟨db', hrun, h.of_rowsWritten hall⟩

/-- Records that go together are entered one after the other. -/
theorem Holds.forM_backfill (hapart : t.schema.Apart) {rows : List RecordRow} :
    ∀ {done : List RecordRow} {db : Database}, t.Holds s done db →
      Fits t.schema (done ++ rows) → ∃ db', rows.forM (t.backfill s) db = .ok ((), db') := by
  induction rows with
  | nil => exact fun {_ db} _ _ => ⟨db, rfl⟩
  | cons row rows ih =>
    intro done db h hfits
    have hmoved : Fits t.schema (row :: done ++ rows) := hfits.perm List.perm_middle
    obtain ⟨db₁, hrow, hheld⟩ := h.backfill hapart (hmoved.sublist (List.sublist_append_left _ _))
    obtain ⟨db', hrest⟩ := ih hheld hmoved
    exact ⟨db', forM_cons_eq_ok.2 ⟨db₁, hrow, hrest⟩⟩

end IndexedType

end RecordStore
