import Mathlib
import RecordStore.Proofs.Store.Layout
import RecordStore.Proofs.Store.RowLoop

/-!
The tables of all indexes of a type hold the rows of the same records.  Each loop over the indexes
takes tables that hold some records to tables that hold the changed ones.  Index names whose hashes
agree share a table, in which every record would need two rows of one number; so the rows of a record
can only be added when the hashes differ.
-/
namespace RecordStore
open Database Transaction Sql Index

/-- The table of each index of a type is there, has the columns of an index of that name hash, and
holds the rows of the given records. -/
def IndexesHold (stem : String) (n : UInt32) (s : Schema) (records : List RecordRow)
    (db : Database) : Prop :=
  ∀ ix ∈ s.indexes, ∃ t, db.table? (tableName stem n ix.name) = some t ∧
    (∃ jx ∈ s.indexes, nameHash jx.name = nameHash ix.name ∧ Shaped s jx t) ∧
    Filled s ix t records

theorem IndexesHold.shaped {stem : String} {n : UInt32} {s : Schema} {records : List RecordRow}
    {db : Database} (h : IndexesHold stem n s records db) (hs : s.Apart) {ix : IndexDefinition}
    (hix : ix ∈ s.indexes) : ∃ t, db.table? (tableName stem n ix.name) = some t ∧ Shaped s ix t ∧
      Filled s ix t records := by
  obtain ⟨t, ht, ⟨jx, hjx, hhash, hshaped⟩, hfilled⟩ := h ix hix
  obtain rfl := hs.eq_of_hash hjx hix hhash
  exact ⟨t, ht, hshaped, hfilled⟩

/-- What a loop over the indexes of a type leaves: its tables hold these records, and no other table
has changed. -/
structure RowsWritten (stem : String) (n : UInt32) (s : Schema) (records : List RecordRow)
    (db db' : Database) : Prop where
  holds : IndexesHold stem n s records db'
  rowsOnly : RowsOnly db db'
  keyed : db'.Keyed
  other : ∀ x, (∀ ix ∈ s.indexes, sameName (tableName stem n ix.name) x = false) →
    db'.table? x = db.table? x

section
variable {stem : String} {n : UInt32} {s : Schema} {records records' : List RecordRow}
  {db db' : Database}

theorem rowsWritten_of_steps {R : IndexDefinition → Table → Table → Prop} (hs : s.Apart)
    (hh : IndexesHold stem n s records db) (hk : db'.Keyed)
    (hsteps : RowSteps s.indexes (fun ix => tableName stem n ix.name) R db db')
    (hR : ∀ ix ∈ s.indexes, ∀ t t', Shaped s ix t → Filled s ix t records → R ix t t' →
      Filled s ix t' records') : RowsWritten stem n s records' db db' where
  holds := by
    intro ix hix
    obtain ⟨t, ht, hshaped, hfilled⟩ := hh.shaped hs hix
    obtain ⟨u, t', hu, ht', hstep, hdef⟩ := hsteps.same ix hix
    obtain rfl : t = u := Option.some.inj (ht.symm.trans hu)
    exact ⟨t', ht', ⟨ix, hix, rfl, hshaped.of_definition_eq hdef⟩,
      hR ix hix t t' hshaped hfilled hstep⟩
  rowsOnly := hsteps.rowsOnly
  keyed := hk
  other := hsteps.other

end

namespace IndexedType
variable {t : IndexedType} {s : StoreSettings} {id : UInt64} {r : Record}
  {records records' : List RecordRow} {db db' : Database} {m : Int64}

/-- A loop whose turns keep the tables in step with the records, once for all loops. -/
theorem forM_turns {α : Type} (make : Index.Target → Except Error α)
    (run : Database → α → Except DatabaseFault Database) (acts : α → Table → Table → Prop)
    (hrun : ∀ ix q db db', make (t.target s ix) = .ok q → run db q = .ok db' →
      RowStep (tableName s.stem t.typeId ix.name) (acts q) db db')
    (hkeyed : ∀ q db db', run db q = .ok db' → db.Keyed → db'.Keyed)
    (hacts : ∀ ix q u u', make (t.target s ix) = .ok q → Shaped t.schema ix u →
      Filled t.schema ix u records → acts q u u' → Filled t.schema ix u' records')
    (hk : db.Keyed) (hs : t.schema.Apart) (hh : IndexesHold s.stem t.typeId t.schema records db)
    (h : t.schema.indexes.forM (t.turn s make run) db = .ok ((), db')) :
    (∀ ix ∈ t.schema.indexes, ∃ q, make (t.target s ix) = .ok q) ∧
      RowsWritten s.stem t.typeId t.schema records' db db' := by
  have hkept : Ensures (fun db db' => db.Keyed → db'.Keyed)
      (t.schema.indexes.forM (t.turn s make run)) := by
    refine ensures_forM ⟨fun _ h => h, fun h h' hk => h' (h hk)⟩ fun ix _ db u db' h => ?_
    obtain ⟨q, -, hq⟩ := turn_eq_ok h
    exact hkeyed q db db' hq
  have hsteps := forM_rowSteps (fun ix => tableName s.stem t.typeId ix.name)
    (fun ix u u' => ∃ q, make (t.target s ix) = .ok q ∧ acts q u u') (t.turn s make run)
    (fun ix _ db db' h => by
      obtain ⟨q, hq, hstep⟩ := turn_eq_ok h
      obtain ⟨u, u', hu, hact, hd, rfl⟩ := hrun ix q db db' hq hstep
      exact ⟨u, u', hu, ⟨q, hq, hact⟩, hd, rfl⟩)
    (fun ix _ db db' h => by
      obtain ⟨q, -, hstep⟩ := turn_eq_ok h
      exact hkeyed q db db' hstep)
    (hs.names s.stem t.typeId) hk h
  refine ⟨fun ix hix => ?_, rowsWritten_of_steps hs hh (hkept db () db' h hk) hsteps ?_⟩
  · obtain ⟨u, u', -, -, ⟨q, hq, -⟩, -⟩ := hsteps.same ix hix
    exact ⟨q, hq⟩
  · rintro ix - u u' hshaped hfilled ⟨q, hq, hact⟩
    exact hacts ix q u u' hq hshaped hfilled hact

/-! ### Adding the rows of a record -/

/-- One turn of the loop that adds rows. -/
abbrev insertTurn (t : IndexedType) (s : StoreSettings) (id : UInt64) (r : Record) :
    IndexDefinition → Transaction Unit :=
  t.turn s (Index.insertRow · id r) fun db q => db.insert q

theorem target_table (t : IndexedType) (s : StoreSettings) (ix : IndexDefinition) :
    (t.target s ix).names.table = tableName s.stem t.typeId ix.name :=
  rfl

theorem rowStep_insertRow (ix : IndexDefinition) (q : Insert) (db db' : Database)
    (hq : Index.insertRow (t.target s ix) id r = .ok q) (h : db.insert q = .ok db') :
    RowStep (tableName s.stem t.typeId ix.name) (Inserts q) db db' := by
  obtain ⟨n, -, -, htable, -⟩ := insertRow_eq_ok hq
  have hstep := rowStep_insert h
  rw [htable, target_table] at hstep
  exact hstep

theorem rowStep_updateRow (ix : IndexDefinition) (q : Update) (db db' : Database)
    (hq : Index.updateRow (t.target s ix) id r = .ok q) (h : db.update q = .ok db') :
    RowStep (tableName s.stem t.typeId ix.name) (Updates q) db db' := by
  obtain ⟨n, -, -, rfl⟩ := updateRow_eq_ok hq
  have hstep := rowStep_update h
  rw [target_table] at hstep
  exact hstep

theorem rowStep_flagRow {quarantined : Bool} (ix : IndexDefinition) (q : Update)
    (db db' : Database) (hq : Index.flagRow (t.target s ix) id quarantined = .ok q)
    (h : db.update q = .ok db') :
    RowStep (tableName s.stem t.typeId ix.name) (Updates q) db db' := by
  obtain ⟨n, -, rfl⟩ := flagRow_eq_ok hq
  have hstep := rowStep_update h
  rw [target_table] at hstep
  exact hstep

theorem rowStep_deleteRow (ix : IndexDefinition) (q : Delete) (db db' : Database)
    (hq : Index.deleteRow (t.target s ix) id = .ok q) (h : db.delete q = .ok db') :
    RowStep (tableName s.stem t.typeId ix.name) (Deletes q) db db' := by
  obtain ⟨n, -, rfl⟩ := deleteRow_eq_ok hq
  have hstep := rowStep_delete h
  rw [target_table] at hstep
  exact hstep

/-- Whether the table of an index has a row of a record number. -/
def Entered (t : IndexedType) (s : StoreSettings) (m : Int64) (db : Database)
    (ix : IndexDefinition) : Prop :=
  ∃ u, db.table? (tableName s.stem t.typeId ix.name) = some u ∧ HasId u m

/-- Whether the table of an index is that of some index of the schema. -/
def ShapedBySome (t : IndexedType) (s : StoreSettings) (db : Database) (ix : IndexDefinition) :
    Prop :=
  ∃ u jx, db.table? (tableName s.stem t.typeId ix.name) = some u ∧ Shaped t.schema jx u

theorem insertTurn_eq_ok (hid : storedId? id = some m) {ix : IndexDefinition}
    (hs : t.ShapedBySome s db ix) (h : t.insertTurn s id r ix db = .ok ((), db')) :
    ¬ t.Entered s m db ix ∧ t.Entered s m db' ix ∧
      (∀ jx, t.ShapedBySome s db jx → t.ShapedBySome s db' jx) ∧
      ∀ jx, t.Entered s m db jx → t.Entered s m db' jx := by
  obtain ⟨q, hq, hrun⟩ := turn_eq_ok h
  have hstep := rowStep_insertRow ix q db db' hq hrun
  obtain ⟨u, u', hu, hu', ⟨uniques, hinsert⟩, hdef⟩ := hstep.table?_same
  obtain ⟨v, kx, hv, hshaped⟩ := hs
  obtain rfl : u = v := Option.some.inj (hu.symm.trans hv)
  obtain ⟨hbefore, hafter⟩ := hasId_insert hshaped hq hid hinsert
  refine ⟨?_, ⟨u', hu', hafter⟩, fun jx hjx => ?_, fun jx hjx => ?_⟩
  · rintro ⟨w, hw, hn⟩
    obtain rfl : u = w := Option.some.inj (hu.symm.trans hw)
    exact hbefore hn
  · obtain ⟨w, lx, hw, hwshaped⟩ := hjx
    by_cases hsame : sameName (tableName s.stem t.typeId ix.name)
        (tableName s.stem t.typeId jx.name) = true
    · rw [table?_congr db' hsame] at hu'
      exact ⟨u', kx, hu', hshaped.of_definition_eq hdef⟩
    · exact ⟨w, lx, by rw [hstep.table?_other (by simpa using hsame)]; exact hw, hwshaped⟩
  · obtain ⟨w, hw, hn⟩ := hjx
    by_cases hsame : sameName (tableName s.stem t.typeId ix.name)
        (tableName s.stem t.typeId jx.name) = true
    · rw [table?_congr db' hsame] at hu'
      exact ⟨u', hu', hafter⟩
    · exact ⟨w, by rw [hstep.table?_other (by simpa using hsame)]; exact hw, hn⟩

/-- A loop that comes to a table with a row of the number fails there. -/
theorem not_entered_of_forM (hid : storedId? id = some m) {xs : List IndexDefinition} :
    ∀ {db db' : Database}, (∀ ix ∈ xs, t.ShapedBySome s db ix) →
      xs.forM (t.insertTurn s id r) db = .ok ((), db') → ∀ ix ∈ xs, ¬ t.Entered s m db ix := by
  induction xs with
  | nil => simp
  | cons ix xs ih =>
    intro db db' hs h jx hjx hentered
    obtain ⟨db₁, h₁, h₂⟩ := forM_cons_eq_ok.1 h
    obtain ⟨hnot, -, hshaped, hkept⟩ := insertTurn_eq_ok hid (hs ix (by simp)) h₁
    rcases List.mem_cons.1 hjx with rfl | hjx
    · exact hnot hentered
    · exact ih (fun kx hkx => hshaped kx (hs kx (by simp [hkx]))) h₂ jx hjx (hkept jx hentered)

/-- Rows of one record go into tables of different names only. -/
theorem pairwise_hash_of_forM (hid : storedId? id = some m) {xs : List IndexDefinition} :
    ∀ {db db' : Database}, (∀ ix ∈ xs, t.ShapedBySome s db ix) →
      xs.forM (t.insertTurn s id r) db = .ok ((), db') →
      xs.Pairwise fun a b => nameHash a.name ≠ nameHash b.name := by
  induction xs with
  | nil => intro _ _ _ _; exact .nil
  | cons ix xs ih =>
    intro db db' hs h
    obtain ⟨db₁, h₁, h₂⟩ := forM_cons_eq_ok.1 h
    obtain ⟨-, ⟨u, hu, hn⟩, hshaped, -⟩ := insertTurn_eq_ok hid (hs ix (by simp)) h₁
    have hrest : ∀ jx ∈ xs, t.ShapedBySome s db₁ jx := fun jx hj => hshaped jx (hs jx (by simp [hj]))
    refine .cons (fun jx hjx hhash => ?_) (ih hrest h₂)
    refine not_entered_of_forM hid hrest h₂ jx hjx ⟨u, ?_, hn⟩
    rw [← tableName_congr s.stem t.typeId hhash]
    exact hu

theorem insertRows_holds (row : RecordRow) (hk : db.Keyed)
    (hh : IndexesHold s.stem t.typeId t.schema records db)
    (h : t.insertRows s id r db = .ok ((), db'))
    (hid : storedId? id = some row.id) (hstate : row.state = .live)
    (hrecord : SameFields row.record r) :
    t.schema.Apart ∧ (∀ ix ∈ t.schema.indexes, Bound t.schema ix r) ∧
      RowsWritten s.stem t.typeId t.schema (row :: records) db db' := by
  have hs : t.schema.Apart := by
    refine pairwise_hash_of_forM hid (fun ix hix => ?_) h
    obtain ⟨u, hu, ⟨jx, -, -, hshaped⟩, -⟩ := hh ix hix
    exact ⟨u, jx, hu, hshaped⟩
  have hacts (ix : IndexDefinition) (q : Insert) (u u' : Table)
      (hq : Index.insertRow (t.target s ix) id r = .ok q) (hshaped : Shaped t.schema ix u)
      (hfilled : Filled t.schema ix u records) (hact : Inserts q u u') :
      Filled t.schema ix u' (row :: records) := by
    obtain ⟨uniques, hinsert⟩ := hact
    have hfilled' : Filled (t.target s ix).schema (t.target s ix).index u records := hfilled
    exact hfilled'.insert hshaped hq hinsert hid hstate hrecord
  obtain ⟨hmade, hwritten⟩ := forM_turns (Index.insertRow · id r) (fun db q => db.insert q) Inserts
    rowStep_insertRow (fun q db db' h hk => hk.insert h) hacts hk hs hh h
  refine ⟨hs, fun ix hix => ?_, hwritten⟩
  obtain ⟨q, hq⟩ := hmade ix hix
  obtain ⟨-, -, hbound, -⟩ := insertRow_eq_ok hq
  exact hbound

/-! ### Changing and removing them -/

/-- Indexes without columns other than the record number do not exist, so none is passed over. -/
theorem filter_valueColumns (schema : Schema) :
    schema.indexes.filter (! ·.valueColumns.isEmpty) = schema.indexes := by
  rw [List.filter_eq_self]
  intro ix hix
  simpa using (Schema.indexSound hix).valueColumns_ne

theorem updateRows_holds (text : String) (hk : db.Keyed) (hs : t.schema.Apart)
    (hh : IndexesHold s.stem t.typeId t.schema records db)
    (h : t.updateRows s id r db = .ok ((), db')) (hid : storedId? id = some m)
    (hrecord : ∀ row : RecordRow, SameFields { row with text := text }.record r) :
    (∀ ix ∈ t.schema.indexes, Bound t.schema ix r) ∧
      RowsWritten s.stem t.typeId t.schema
        (records.map fun row => if row.id == m then { row with text := text } else row) db db' := by
  have hacts (ix : IndexDefinition) (q : Update) (u u' : Table)
      (hq : Index.updateRow (t.target s ix) id r = .ok q) (hshaped : Shaped t.schema ix u)
      (hfilled : Filled t.schema ix u records) (hact : Updates q u u') :
      Filled t.schema ix u'
        (records.map fun row => if row.id == m then { row with text := text } else row) := by
    obtain ⟨uniques, hupdate⟩ := hact
    have hfilled' : Filled (t.target s ix).schema (t.target s ix).index u records := hfilled
    exact hfilled'.update hshaped hq hid hupdate hrecord
  unfold updateRows at h
  rw [filter_valueColumns] at h
  obtain ⟨hmade, hwritten⟩ := forM_turns (Index.updateRow · id r) (fun db q => db.update q) Updates
    rowStep_updateRow (fun q db db' h hk => hk.update h) hacts hk hs hh h
  refine ⟨fun ix hix => ?_, hwritten⟩
  obtain ⟨q, hq⟩ := hmade ix hix
  obtain ⟨-, -, hbound, -⟩ := updateRow_eq_ok hq
  exact hbound

theorem flagRows_holds (state : RecordState) (hk : db.Keyed) (hs : t.schema.Apart)
    (hh : IndexesHold s.stem t.typeId t.schema records db) {quarantined : Bool}
    (h : t.flagRows s id quarantined db = .ok ((), db')) (hid : storedId? id = some m)
    (hstate : (state == .quarantined) = quarantined) :
    RowsWritten s.stem t.typeId t.schema
      (records.map fun row => if row.id == m then { row with state := state } else row) db db' := by
  have hacts (ix : IndexDefinition) (q : Update) (u u' : Table)
      (hq : Index.flagRow (t.target s ix) id quarantined = .ok q) (hshaped : Shaped t.schema ix u)
      (hfilled : Filled t.schema ix u records) (hact : Updates q u u') :
      Filled t.schema ix u'
        (records.map fun row => if row.id == m then { row with state := state } else row) := by
    obtain ⟨uniques, hupdate⟩ := hact
    have hfilled' : Filled (t.target s ix).schema (t.target s ix).index u records := hfilled
    exact hfilled'.flag hshaped hq hid hupdate hstate
  exact (forM_turns (Index.flagRow · id quarantined) (fun db q => db.update q) Updates
    rowStep_flagRow (fun q db db' h hk => hk.update h) hacts hk hs hh h).2

theorem deleteRows_holds (hk : db.Keyed) (hs : t.schema.Apart)
    (hh : IndexesHold s.stem t.typeId t.schema records db)
    (h : t.deleteRows s id db = .ok ((), db')) (hid : storedId? id = some m) :
    RowsWritten s.stem t.typeId t.schema (records.filter (·.id != m)) db db' := by
  have hacts (ix : IndexDefinition) (q : Delete) (u u' : Table)
      (hq : Index.deleteRow (t.target s ix) id = .ok q) (hshaped : Shaped t.schema ix u)
      (hfilled : Filled t.schema ix u records) (hact : Deletes q u u') :
      Filled t.schema ix u' (records.filter (·.id != m)) := by
    obtain rfl := hact
    have hfilled' : Filled (t.target s ix).schema (t.target s ix).index u records := hfilled
    exact hfilled'.delete hshaped hq hid
  exact (forM_turns (Index.deleteRow · id) (fun db q => db.delete q) Deletes
    rowStep_deleteRow (fun q db db' h hk => hk.delete h) hacts hk hs hh h).2

/-! ### Emptying the tables -/

/-- The statement writes the name of the table as it is.  Under the names that there are it reaches
the table that is meant, if any. -/
theorem truncate_table? {stem : String} {n : UInt32} {name : String}
    {owner : UInt32 → String → Prop} {db db' : Database} (ho : Owned stem owner db)
    (h : db.truncate (tableName stem n name) = .ok db') :
    RowStep (tableName stem n name) (fun t t' => t' = { t with rows := [] }) db db' := by
  obtain ⟨read, t, hread, ht, rfl⟩ := truncate_eq_ok h
  obtain ⟨hmem, hsame⟩ := mem_of_table? ht
  obtain ⟨m, other, -, hname⟩ := ho.tables t hmem
  rw [hname, sameName_comm] at hsame
  obtain ⟨rfl, hhash⟩ := sameName_readBare?_tableName hread hsame
  refine ⟨t, { t with rows := [] }, ?_, rfl, rfl, rfl⟩
  rw [tableName_congr stem n hhash, ← table?_congr db hsame]
  exact ht

/-- The tables of some indexes lose their rows, and the others keep them. -/
theorem forM_truncate {xs : List IndexDefinition} {owner : UInt32 → String → Prop} :
    ∀ {db db' : Database}, db.Keyed → Owned s.stem owner db →
      xs.forM (fun ix => apply (·.truncate (tableName s.stem t.typeId ix.name))) db =
        .ok ((), db') →
      RowsOnly db db' ∧ db'.Keyed ∧ ∀ x, db'.table? x = (db.table? x).map fun u =>
        if xs.any (fun ix => sameName (tableName s.stem t.typeId ix.name) x) then
          { u with rows := [] } else u := by
  induction xs with
  | nil =>
    intro db db' hk _ h
    obtain rfl := forM_nil_eq_ok.1 h
    exact ⟨composes_rowsOnly.refl _, hk, fun x => by simp⟩
  | cons ix xs ih =>
    intro db db' hk ho h
    obtain ⟨db₁, h₁, h₂⟩ := forM_cons_eq_ok.1 h
    have htruncate := apply_eq_ok.1 h₁
    have hstep := truncate_table? ho htruncate
    have honly := hstep.rowsOnly hk
    obtain ⟨hrest, hkeyed, htables⟩ := ih (hk.truncate htruncate)
      (ho.of_definitions honly.definitions honly.indexObjects) h₂
    refine ⟨composes_rowsOnly.trans honly hrest, hkeyed, fun x => ?_⟩
    rw [htables x]
    by_cases hsame : sameName (tableName s.stem t.typeId ix.name) x = true
    · obtain ⟨v, v', hv, hv', rfl, -⟩ := hstep.table?_same
      rw [table?_congr db hsame] at hv
      rw [table?_congr db₁ hsame] at hv'
      rw [hv, hv']
      simp [hsame]
    · have hne := Bool.eq_false_iff.2 hsame
      rw [hstep.table?_other hne]
      simp [hne]

/-- Any tables can be emptied, also those that several indexes share. -/
theorem truncateAll_holds {owner : UInt32 → String → Prop} (hk : db.Keyed)
    (ho : Owned s.stem owner db) (hh : IndexesHold s.stem t.typeId t.schema records db)
    (h : t.truncateAll s db = .ok ((), db')) :
    RowsWritten s.stem t.typeId t.schema [] db db' := by
  obtain ⟨honly, hkeyed, htables⟩ := forM_truncate hk ho h
  refine ⟨fun ix hix => ?_, honly, hkeyed, fun x hx => ?_⟩
  · obtain ⟨u, hu, ⟨jx, hjx, hhash, hshaped⟩, -⟩ := hh ix hix
    have hany : t.schema.indexes.any (fun jx => sameName (tableName s.stem t.typeId jx.name)
        (tableName s.stem t.typeId ix.name)) = true :=
      List.any_eq_true.2 ⟨ix, hix, sameName_self _⟩
    refine ⟨{ u with rows := [] }, ?_, ⟨jx, hjx, hhash, hshaped.of_definition_eq rfl⟩, .nil⟩
    rw [htables, hu, hany]
    rfl
  · have hany : t.schema.indexes.any (fun jx => sameName (tableName s.stem t.typeId jx.name) x) =
        false := by
      rw [List.any_eq_false]
      intro ix hix
      simpa using hx ix hix
    rw [htables, hany]
    simp

end IndexedType

end RecordStore
