import Mathlib
import RecordStore.Proofs.Store.Coherent

/-!
The transactions on the records of one type keep the database coherent.  Each changes the records and
then, if a schema is published, the tables of its indexes; `Coherent.of_rows` says once why that is
enough, and each transaction only has to name the records that its tables hold afterwards.
-/
namespace RecordStore
open Database Transaction Sql Index

attribute [local irreducible] tableName indexName

theorem Database.Keyed.withRecords {db : Database} (hk : db.Keyed) (records : List RecordRow) :
    Keyed { db with records := records } :=
  ⟨hk.names, hk.keys, hk.numbered⟩

section
variable {stem : String} {accepted : Record → Prop} {db db' : Database} {T : String} {n : UInt32}

/-- Records and rows of one type change, and what holds of its schema holds again. -/
theorem Coherent.of_rowsOnly (h : Coherent stem accepted db) {records : List RecordRow}
    (hr : RecordsSound accepted records)
    (hother : ∀ m, m ≠ n → liveRecords { db with records := records } m = db.liveRecords m)
    (honly : RowsOnly { db with records := records } db') (hk : db'.Keyed)
    (htable : ∀ m name, m ≠ n →
      db'.table? (tableName stem m name) = db.table? (tableName stem m name))
    (hholds : ∀ T s, Published db T n s → TypeHolds stem n s db') : Coherent stem accepted db' := by
  obtain ⟨htypes, hschemas, hrecords, hobjects, hdefinitions⟩ := honly
  have hpublished (T : String) (m : UInt32) (s : Schema) :
      Published db' T m s ↔ Published db T m s := Published.congr hschemas htypes
  have hnumber (T : String) : db'.typeId? T = db.typeId? T := by
    rw [typeId?, typeId?, typeRow?, typeRow?, htypes]
  refine ⟨?_, ?_, ?_, hk, ?_, fun T m s hp => ?_⟩
  · exact ⟨htypes ▸ h.types.names, htypes ▸ h.types.numbers, htypes ▸ h.types.usable⟩
  · refine ⟨hschemas ▸ h.schemas.names, fun row hrow => ?_⟩
    rw [hnumber]
    exact h.schemas.each row (hschemas ▸ hrow)
  · rw [hrecords]
    exact hr
  · refine (h.owned.of_definitions hdefinitions hobjects).mono ?_
    rintro m name ⟨T, s, hp, hix⟩
    exact ⟨T, s, (hpublished T m s).2 hp, hix⟩
  · rw [hpublished] at hp
    by_cases hm : m = n
    · obtain rfl := hm
      exact hholds T s hp
    · refine (h.holds T m s hp).congr ?_ (fun ix _ => htable m ix.name hm) fun ix _ => ?_
      · rw [liveRecords_congr hrecords, hother m hm]
      · exact indexesOf_congr_objects hobjects _

/-- What the steps on the tables of one schema have to leave. -/
structure RowsFollow (stem : String) (n : UInt32) (s : Schema) (db db' : Database) : Prop where
  written : ∃ records, records.Perm (db.liveRecords n) ∧ RowsWritten stem n s records db db'
  valid : ∀ row ∈ db.liveRecords n, s.recordFault? row.record = none ∧
    ∀ ix ∈ s.indexes, Bound s ix row.record
  apart : s.Apart ∨ db.liveRecords n = []

/-- What the steps leave is what holds of a schema whose tables and index objects are there. -/
theorem RowsFollow.typeHolds {s : Schema} (h : RowsFollow stem n s db db')
    (hreadable : ∀ ix ∈ s.indexes,
      readNames (tableName stem n ix.name :: (columnSpecs s ix).map (·.name)) = .ok ())
    (hobjects : s.Apart → ∀ ix ∈ s.indexes,
      db.indexesOf (tableName stem n ix.name) = [indexObject stem n ix]) :
    TypeHolds stem n s db' := by
  obtain ⟨⟨records, hperm, hwritten⟩, hvalid, hapart⟩ := h
  have hlive := liveRecords_congr hwritten.rowsOnly.records n
  refine ⟨hreadable, fun hs ix hix => ?_, ?_, ?_, ?_⟩
  · rw [indexesOf_congr_objects hwritten.rowsOnly.indexObjects]
    exact hobjects hs ix hix
  · rw [hlive]
    exact hwritten.holds.perm hperm
  · rw [hlive]
    exact hvalid
  · rw [hlive]
    exact hapart

theorem Coherent.of_rows (h : Coherent stem accepted db) (hn : db.typeId? T = .ok (some n))
    {schema : Option Schema} (hf : FindsSchema db T schema) {records : List RecordRow}
    (hr : RecordsSound accepted records)
    (hother : ∀ m, m ≠ n → liveRecords { db with records := records } m = db.liveRecords m)
    {rows : Schema → Transaction Unit}
    (hfollows : Follows schema rows { db with records := records } db')
    (hrows : ∀ s, schema = some s → TypeHolds stem n s db →
      rows s { db with records := records } = .ok ((), db') →
      RowsFollow stem n s { db with records := records } db') :
    Coherent stem accepted db' := by
  rcases h.schemas.published_of_finds hn hf with ⟨rfl, hnone⟩ | ⟨s, rfl, hp⟩
  · -- no schema: the tables are as before
    rcases hfollows with ⟨-, rfl⟩ | ⟨s, hs, -⟩
    · refine h.of_rowsOnly hr hother (composes_rowsOnly.refl _) (h.keyed.withRecords records)
        (fun _ _ _ => rfl) fun T' s' hp' => ?_
      obtain rfl := h.types.eq_of_number hp'.number hn
      exact absurd hp' (hnone s')
    · cases hs
  · rcases hfollows with ⟨hs, -⟩ | ⟨s', hs, hstep⟩
    · cases hs
    obtain rfl := Option.some.inj hs
    have hholds := h.holds T n s hp
    have hrows' := hrows s rfl hholds hstep
    obtain ⟨new, -, hwritten⟩ := hrows'.written
    refine h.of_rowsOnly hr hother hwritten.rowsOnly hwritten.keyed (fun m name hm => ?_)
      fun T' s' hp' => ?_
    · exact hwritten.other _ fun jx _ => sameName_tableName_of_type_ne hm.symm jx.name name
    · obtain ⟨rfl, rfl⟩ := hp'.unique_of_number h.types hp
      exact hrows'.typeHolds hholds.readable hholds.objects

/-! ### Records that change -/

theorem keyWord_eq_ok {key : Key} {m : Int64} (h : keyWord key = .ok m) :
    storedId? key.id = some m := by
  unfold keyWord at h
  split at h
  · next k hk => rw [hk, Except.ok.inj h]
  · cases h

theorem changeRecord?_eq_some {w m : Int64} {allowed : RecordState → Bool}
    {change : RecordRow → RecordRow} (h : db.changeRecord? w m allowed change = some db') :
    (∃ row ∈ db.records, row.typeId = w ∧ row.id = m ∧ allowed row.state = true) ∧
      db' = { db with records := db.records.map fun r =>
        if r.typeId == w && r.id == m && allowed r.state then change r else r } := by
  unfold changeRecord? at h
  simp only at h
  split at h
  · next hany =>
    obtain ⟨row, hrow, hhit⟩ := List.any_eq_true.1 hany
    simp only [Bool.and_eq_true, beq_iff_eq] at hhit
    exact ⟨⟨row, hrow, hhit.1.1, hhit.1.2, hhit.2⟩, (Option.some.inj h).symm⟩
  · cases h

theorem mem_liveRecords {row : RecordRow} :
    row ∈ db.liveRecords n ↔ row ∈ db.records ∧ row.typeId = typeWord n ∧ row.state ≠ .deleted := by
  simp [liveRecords]

/-- Record numbers of one type are told apart. -/
theorem RecordsSound.eq_of_id (h : RecordsSound accepted db.records) {row row' : RecordRow}
    (hr : row ∈ db.records) (hr' : row' ∈ db.records) (ht : row.typeId = row'.typeId)
    (hi : row.id = row'.id) : row = row' :=
  List.inj_on_of_nodup_map h.keys hr hr' (by simp [ht, hi])

theorem RecordsSound.nodup_ids (h : RecordsSound accepted db.records) :
    ((db.liveRecords n).map (·.id)).Nodup := by
  have hsub : (db.liveRecords n).Sublist db.records := List.filter_sublist
  have hkeys := h.keys.sublist (hsub.map _)
  rw [List.nodup_map_iff_inj_on (hkeys.of_map _)]
  intro row hrow row' hrow' hid
  rw [mem_liveRecords] at hrow hrow'
  exact h.eq_of_id hrow.1 hrow'.1 (hrow.2.1.trans hrow'.2.1.symm) hid

/-- A record under a number that is not in use yet joins the others. -/
theorem RecordsSound.append (h : RecordsSound accepted db.records) {new : RecordRow}
    (hnew : RowSound accepted new)
    (hfree : ∀ row ∈ db.records, ¬ (row.typeId = new.typeId ∧ row.id = new.id)) :
    RecordsSound accepted (db.records ++ [new]) where
  keys := by
    rw [List.map_append, List.nodup_append]
    refine ⟨h.keys, List.nodup_singleton _, fun k hk k' hk' => ?_⟩
    obtain ⟨row, hrow, rfl⟩ := List.mem_map.1 hk
    obtain rfl := List.mem_singleton.1 hk'
    exact fun he => hfree row hrow (Prod.mk.inj he)
  each := by
    intro row hrow
    rcases List.mem_append.1 hrow with hrow | hrow
    · exact h.each row hrow
    · obtain rfl := List.mem_singleton.1 hrow
      exact hnew

theorem liveRecords_append (db : Database) {r : RecordRow} (htype : r.typeId = typeWord n)
    (hstate : r.state ≠ .deleted) (k : UInt32) :
    liveRecords { db with records := db.records ++ [r] } k =
      db.liveRecords k ++ if k = n then [r] else [] := by
  simp only [liveRecords, List.filter_append]
  congr 1
  by_cases hk : k = n
  · subst hk
    simp [htype, hstate]
  · have hne : (r.typeId == typeWord k) = false :=
      beq_eq_false_iff_ne.2 fun he => hk (typeWord_injective (he.symm.trans htype))
    simp [hk, hne]

/-- A record that is marked as deleted is no live record any more, and the others stay. -/
theorem liveRecords_delete (db : Database) (n : UInt32) (m : Int64) :
    liveRecords { db with
      records := db.records.map fun row =>
        if row.typeId == typeWord n && row.id == m && row.state != .deleted then
          { row with state := .deleted } else row } n = (db.liveRecords n).filter (·.id != m) := by
  simp only [liveRecords, List.filter_map, List.filter_filter]
  have hcond : db.records.filter ((fun row => row.typeId == typeWord n && row.state != .deleted) ∘
      fun row : RecordRow =>
        if row.typeId == typeWord n && row.id == m && row.state != .deleted then
          { row with state := .deleted } else row) =
      db.records.filter fun row =>
        row.id != m && (row.typeId == typeWord n && row.state != .deleted) := by
    refine List.filter_congr fun row _ => ?_
    simp only [Function.comp_apply]
    by_cases ht : row.typeId = typeWord n
    · by_cases hi : row.id = m
      · by_cases hd : row.state = .deleted <;> simp [ht, hi, hd]
      · simp [ht, hi]
    · simp [ht]
  rw [hcond]
  conv_rhs => rw [← List.map_id (List.filter _ db.records)]
  refine List.map_congr_left fun row hrow => ?_
  have hne := (List.mem_filter.1 hrow).2
  rw [Bool.and_eq_true, bne_iff_ne] at hne
  simp [hne.1]

/-- Indexes keep apart as soon as there is a live record. -/
theorem TypeHolds.apart_of_mem {s : Schema} (h : TypeHolds stem n s db) {row : RecordRow}
    (hrow : row ∈ db.liveRecords n) : s.Apart := by
  refine h.apart.resolve_right fun hnil => ?_
  rw [hnil] at hrow
  cases hrow

/-- A change of records that keeps their numbers, applied where it is due. -/
structure Rewrites (n : UInt32) (m : Int64) (f : RecordRow → RecordRow) : Prop where
  typeId : ∀ row, (f row).typeId = row.typeId
  id : ∀ row, (f row).id = row.id
  other : ∀ row, ¬ (row.typeId = typeWord n ∧ row.id = m) → f row = row

theorem rewrites_ite (n : UInt32) (m : Int64) (allowed : RecordState → Bool)
    (change : RecordRow → RecordRow) (ht : ∀ row, (change row).typeId = row.typeId)
    (hi : ∀ row, (change row).id = row.id) :
    Rewrites n m fun r =>
      if r.typeId == typeWord n && r.id == m && allowed r.state then change r else r where
  typeId row := by
    split
    · exact ht row
    · rfl
  id row := by
    split
    · exact hi row
    · rfl
  other row hne := by
    rw [if_neg]
    simp only [Bool.and_eq_true, beq_iff_eq]
    exact fun hhit => hne hhit.1

namespace Rewrites
variable {m : Int64} {f : RecordRow → RecordRow}

theorem recordsSound (hf : Rewrites n m f) (h : RecordsSound accepted db.records)
    (heach : ∀ row ∈ db.records, RowSound accepted (f row)) :
    RecordsSound accepted (db.records.map f) where
  keys := by
    rw [List.map_map]
    have hkeys : ((fun row : RecordRow => (row.typeId, row.id)) ∘ f) =
        fun row => (row.typeId, row.id) := by
      funext row
      simp only [Function.comp_apply, hf.typeId, hf.id]
    rw [hkeys]
    exact h.keys
  each := by
    intro row hrow
    obtain ⟨old, hold, rfl⟩ := List.mem_map.1 hrow
    exact heach old hold

theorem liveRecords_other (hf : Rewrites n m f) {k : UInt32} (hk : k ≠ n) :
    liveRecords { db with records := db.records.map f } k = db.liveRecords k := by
  have hsame (row : RecordRow) (hrow : row.typeId = typeWord k) : f row = row :=
    hf.other row fun h => hk (typeWord_injective (hrow.symm.trans h.1))
  refine filter_map_of_fixed (fun row => ?_) (fun row hrow => hsame row ?_) _
  · by_cases hrow : row.typeId = typeWord k
    · rw [hsame row hrow]
    · have hne : (row.typeId == typeWord k) = false := beq_eq_false_iff_ne.2 hrow
      rw [hf.typeId, hne, Bool.false_and, Bool.false_and]
  · rw [Bool.and_eq_true, beq_iff_eq] at hrow
    exact hrow.1

/-- The live records when none is deleted by the change. -/
theorem liveRecords_map (hf : Rewrites n m f) (db : Database) (change : RecordRow → RecordRow)
    (hdead : ∀ row ∈ db.records, row.typeId = typeWord n → row.state = .deleted → f row = row)
    (hlive : ∀ row ∈ db.liveRecords n, row.id = m → f row = change row)
    (hstate : ∀ row ∈ db.liveRecords n, row.id = m → (change row).state ≠ .deleted) :
    liveRecords { db with records := db.records.map f } n =
      (db.liveRecords n).map fun row => if row.id == m then change row else row := by
  have hcond : db.records.filter ((fun r => r.typeId == typeWord n && r.state != .deleted) ∘ f) =
      db.liveRecords n := by
    refine List.filter_congr fun row hrow => ?_
    by_cases ht : row.typeId = typeWord n
    · by_cases hs : row.state = .deleted
      · rw [Function.comp_apply, hdead row hrow ht hs]
      · have hmem := mem_liveRecords.2 ⟨hrow, ht, hs⟩
        by_cases hi : row.id = m
        · have hkept := hstate row hmem hi
          rw [← hlive row hmem hi] at hkept
          have hbefore : (row.state != .deleted) = true := bne_iff_ne.2 hs
          have hafter : ((f row).state != .deleted) = true := bne_iff_ne.2 hkept
          rw [Function.comp_apply, hf.typeId, hbefore, hafter]
        · rw [Function.comp_apply, hf.other row fun h => hi h.2]
    · have hne : (row.typeId == typeWord n) = false := beq_eq_false_iff_ne.2 ht
      rw [Function.comp_apply, hf.typeId, hne, Bool.false_and, Bool.false_and]
  simp only [liveRecords, List.filter_map]
  rw [hcond]
  refine List.map_congr_left fun row hrow => ?_
  by_cases hi : row.id = m
  · simp [hi, hlive row hrow hi]
  · simp [hi, hf.other row fun h => hi h.2]

end Rewrites

/-! ### The transactions -/

/-- The record that a row holds when it was written from a well-formed one. -/
theorem sameFields_of_text {row : RecordRow} {r : Record} (hr : (Json.object r).WellFormed)
    (h : row.text = (Json.object r).text) : SameFields row.record r := by
  rw [row.record_of_text hr h]
  exact sameFields_reread r

theorem valid_of_text {s : Schema} {row : RecordRow} {r : Record} (hr : (Json.object r).WellFormed)
    (h : row.text = (Json.object r).text) (hfault : s.recordFault? r = none)
    (hbound : ∀ ix ∈ s.indexes, Bound s ix r) :
    s.recordFault? row.record = none ∧ ∀ ix ∈ s.indexes, Bound s ix row.record := by
  refine ⟨?_, fun ix hix => ((sameFields_of_text hr h).bound s ix).2 (hbound ix hix)⟩
  rw [row.record_of_text hr h, s.recordFault?_reread]
  exact hfault

variable (haccepted : ∀ r, accepted r → (Json.object r).WellFormed)
include haccepted

theorem Coherent.addRecord (h : Coherent stem accepted db) {s : StoreSettings} (hs : s.stem = stem)
    {key : Key} {r : Record} {u : Unit} (hr : accepted r)
    (hn : db.typeId? key.typeName = .ok (some n))
    (hstep : RecordStore.addRecord s n key r db = .ok (u, db')) : Coherent stem accepted db' := by
  obtain rfl := hs
  obtain ⟨schema, m, hf, hvalid, hkey, hfree, hfollows⟩ := addRecord_eq_ok hstep
  have hid := keyWord_eq_ok hkey
  have hnew := liveRecords_append db (n := n)
    (r := ⟨typeWord n, m, .live, (Json.object r).text⟩) rfl nofun
  refine h.of_rows hn hf (h.records.append ⟨⟨r, hr, rfl⟩, (storedId?_eq_some hid).1, .inl rfl⟩
    fun row hrow hsame => ?_) (fun k hk => ?_) hfollows fun S hS hholds hrows => ?_
  · rw [List.any_eq_false] at hfree
    exact hfree row hrow (by simp [hsame.1, hsame.2])
  · rw [hnew, if_neg hk, List.append_nil]
  · have hwell := haccepted r hr
    have hnow := hnew n
    rw [if_pos rfl] at hnow
    obtain ⟨hapart, hbound, hwritten⟩ := IndexedType.insertRows_holds
      ⟨typeWord n, m, .live, (Json.object r).text⟩ (h.keyed.withRecords _) hholds.tables
      hrows hid rfl (sameFields_of_text hwell rfl)
    refine ⟨⟨_, ?_, hwritten⟩, ?_, .inl hapart⟩
    · rw [hnow]
      exact (List.perm_append_singleton _ _).symm
    · intro row hrow
      rw [hnow] at hrow
      rcases List.mem_append.1 hrow with hrow | hrow
      · exact hholds.valid row hrow
      · obtain rfl := List.mem_singleton.1 hrow
        exact valid_of_text hwell rfl (hvalid S hS) hbound

theorem Coherent.replaceRecord (h : Coherent stem accepted db) {s : StoreSettings}
    (hs : s.stem = stem) {key : Key} {r : Record} {b : Bool} (hr : accepted r)
    (hn : db.typeId? key.typeName = .ok (some n))
    (hstep : RecordStore.replaceRecord s n key r db = .ok (b, db')) :
    Coherent stem accepted db' := by
  obtain rfl := hs
  obtain ⟨schema, m, hf, hvalid, hkey, ⟨-, rfl, -⟩ | ⟨-, db₁, hchange, hfollows⟩⟩ :=
    replaceRecord_eq_ok hstep
  · exact h
  have hid := keyWord_eq_ok hkey
  obtain ⟨⟨hit, hmem, htype, -, hallowed⟩, rfl⟩ := changeRecord?_eq_some hchange
  have hw := rewrites_ite n m (· != .deleted)
    (fun row => { row with text := (Json.object r).text }) (fun _ => rfl) fun _ => rfl
  have hwell := haccepted r hr
  have hlive := hw.liveRecords_map db (fun row => { row with text := (Json.object r).text })
    (fun row _ _ hdead => by simp [hdead])
    (fun row hrow hi => by
      obtain ⟨-, ht, hs⟩ := mem_liveRecords.1 hrow
      simp [ht, hi, hs])
    fun row hrow _ => (mem_liveRecords.1 hrow).2.2
  refine h.of_rows hn hf (hw.recordsSound h.records fun row hrow => ?_)
    (fun k hk => hw.liveRecords_other hk) hfollows fun S hS hholds hrows => ?_
  · have hsound := h.records.each row hrow
    split
    · exact ⟨⟨r, hr, rfl⟩, hsound.id, hsound.state⟩
    · exact hsound
  · -- there is a live record, so the tables are apart
    have hapart := hholds.apart_of_mem
      (mem_liveRecords.2 ⟨hmem, htype, bne_iff_ne.1 hallowed⟩)
    obtain ⟨hbound, hwritten⟩ := IndexedType.updateRows_holds (Json.object r).text
      (h.keyed.withRecords _) hapart hholds.tables hrows hid
      fun row => sameFields_of_text hwell rfl
    refine ⟨⟨_, ?_, hwritten⟩, ?_, .inl hapart⟩
    · rw [hlive]
    · intro row hrow
      rw [hlive] at hrow
      obtain ⟨old, hold, rfl⟩ := List.mem_map.1 hrow
      split
      · exact valid_of_text hwell rfl (hvalid S hS) hbound
      · exact hholds.valid old hold

omit haccepted

theorem Coherent.deleteRecord (h : Coherent stem accepted db) {s : StoreSettings}
    (hs : s.stem = stem) {key : Key} {b : Bool} (hn : db.typeId? key.typeName = .ok (some n))
    (hstep : RecordStore.deleteRecord s n key db = .ok (b, db')) : Coherent stem accepted db' := by
  obtain rfl := hs
  obtain ⟨schema, m, hf, hkey, ⟨-, rfl, -⟩ | ⟨-, db₁, hchange, hfollows⟩⟩ := deleteRecord_eq_ok hstep
  · exact h
  have hid := keyWord_eq_ok hkey
  obtain ⟨⟨hit, hmem, htype, -, hallowed⟩, rfl⟩ := changeRecord?_eq_some hchange
  have hw := rewrites_ite n m (· != .deleted)
    (fun row => { row with state := .deleted }) (fun _ => rfl) fun _ => rfl
  have hlive := liveRecords_delete db n m
  refine h.of_rows hn hf (hw.recordsSound h.records fun row hrow => ?_)
    (fun k hk => hw.liveRecords_other hk) hfollows fun S hS hholds hrows => ?_
  · have hsound := h.records.each row hrow
    split
    · exact ⟨hsound.text, hsound.id, .inr (.inr rfl)⟩
    · exact hsound
  · have hapart := hholds.apart_of_mem
      (mem_liveRecords.2 ⟨hmem, htype, bne_iff_ne.1 hallowed⟩)
    have hwritten := IndexedType.deleteRows_holds (h.keyed.withRecords _) hapart hholds.tables
      hrows hid
    refine ⟨⟨_, ?_, hwritten⟩, ?_, .inl hapart⟩
    · rw [hlive]
    · intro row hrow
      rw [hlive] at hrow
      exact hholds.valid row (List.mem_of_mem_filter hrow)

theorem Coherent.moveRecord (h : Coherent stem accepted db) {s : StoreSettings}
    (hs : s.stem = stem) {key : Key} {quarantined : Bool} {b : Bool}
    (hn : db.typeId? key.typeName = .ok (some n))
    (hstep : RecordStore.moveRecord s n key quarantined db = .ok (b, db')) :
    Coherent stem accepted db' := by
  obtain rfl := hs
  obtain ⟨schema, m, hf, hkey, ⟨-, rfl, -⟩ | ⟨-, db₁, hchange, hfollows⟩⟩ := moveRecord_eq_ok hstep
  · exact h
  have hid := keyWord_eq_ok hkey
  obtain ⟨⟨hit, hmem, htype, hitid, hallowed⟩, rfl⟩ := changeRecord?_eq_some hchange
  have hhit : hit ∈ db.liveRecords n := by
    refine mem_liveRecords.2 ⟨hmem, htype, ?_⟩
    rw [eq_of_beq hallowed]
    cases quarantined <;> decide
  have hw := rewrites_ite n m (· == movedFrom quarantined)
    (fun row => { row with state := movedTo quarantined }) (fun _ => rfl) fun _ => rfl
  have hlive := hw.liveRecords_map db (fun row => { row with state := movedTo quarantined })
    (fun row _ _ hdead => by
      rw [if_neg]
      cases quarantined <;> simp [hdead, movedFrom])
    (fun row hrow hi => by
      obtain ⟨hr, ht, -⟩ := mem_liveRecords.1 hrow
      -- the record of that number is the one that was found
      obtain rfl := h.records.eq_of_id hr hmem (ht.trans htype.symm) (hi.trans hitid.symm)
      simp [ht, hi, hallowed])
    fun row _ _ => by cases quarantined <;> simp [movedTo]
  refine h.of_rows hn hf (hw.recordsSound h.records fun row hrow => ?_)
    (fun k hk => hw.liveRecords_other hk) hfollows fun S hS hholds hrows => ?_
  · have hsound := h.records.each row hrow
    split
    · refine ⟨hsound.text, hsound.id, ?_⟩
      cases quarantined <;> simp [movedTo]
    · exact hsound
  · have hapart := hholds.apart_of_mem hhit
    have hwritten := IndexedType.flagRows_holds (movedTo quarantined)
      (h.keyed.withRecords _) hapart hholds.tables hrows hid (by cases quarantined <;> rfl)
    refine ⟨⟨_, ?_, hwritten⟩, ?_, .inl hapart⟩
    · rw [hlive]
    · intro row hrow
      rw [hlive] at hrow
      obtain ⟨old, hold, rfl⟩ := List.mem_map.1 hrow
      have hsame : (if old.id == m then { old with state := movedTo quarantined } else old).record =
          old.record := by
        split <;> rfl
      rw [hsame]
      exact hholds.valid old hold

theorem Coherent.clearType (h : Coherent stem accepted db) {s : StoreSettings} (hs : s.stem = stem)
    {k : Nat} (hn : db.typeId? T = .ok (some n))
    (hstep : RecordStore.clearType s n T db = .ok (k, db')) : Coherent stem accepted db' := by
  obtain rfl := hs
  obtain ⟨schema, -, hf, hfollows⟩ := clearType_eq_ok hstep
  have hlive : liveRecords { db with
      records := db.records.filter (·.typeId != typeWord n) } n = [] := by
    simp only [liveRecords, List.filter_filter, List.filter_eq_nil_iff]
    intro row _
    cases ht : row.typeId == typeWord n <;> simp [bne, ht]
  refine h.of_rows hn hf ⟨?_, fun row hrow => ?_⟩ (fun m hm => ?_) hfollows
    fun S hS hholds hrows => ?_
  · exact h.records.keys.sublist (List.filter_sublist.map _)
  · exact h.records.each row (List.mem_of_mem_filter hrow)
  · simp only [liveRecords, List.filter_filter]
    refine List.filter_congr fun row _ => ?_
    by_cases ht : row.typeId = typeWord m
    · have hne : (row.typeId != typeWord n) = true :=
        bne_iff_ne.2 fun he => hm (typeWord_injective (ht.symm.trans he))
      rw [hne, Bool.and_true]
    · have hne : (row.typeId == typeWord m) = false := beq_eq_false_iff_ne.2 ht
      rw [hne, Bool.false_and, Bool.false_and]
  · have howned : Owned s.stem (IndexPublished db) { db with
        records := db.records.filter (·.typeId != typeWord n) } :=
      ⟨h.owned.tables, h.owned.objects⟩
    have hwritten := IndexedType.truncateAll_holds (h.keyed.withRecords _) howned hholds.tables hrows
    refine ⟨⟨[], ?_, hwritten⟩, ?_, .inr hlive⟩
    · rw [hlive]
    · rw [hlive]
      intro row hrow
      cases hrow

end

end RecordStore
