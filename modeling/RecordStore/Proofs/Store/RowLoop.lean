import Mathlib
import RecordStore.Proofs.Index.Rows
import RecordStore.Proofs.Store.Steps

/-!
The loops that write the rows of a record to the tables of all indexes of its type.  One turn replaces
the rows of one table; a loop whose turns work on tables of different names does to each table what
its own turn does, and nothing to any other.
-/
namespace RecordStore
open Database Transaction Sql

/-- Only rows of index tables differ. -/
structure RowsOnly (db db' : Database) : Prop where
  types : db'.types = db.types
  schemas : db'.schemas = db.schemas
  records : db'.records = db.records
  indexObjects : db'.indexObjects = db.indexObjects
  definitions : db'.tables.map (·.definition) = db.tables.map (·.definition)

theorem composes_rowsOnly : Composes RowsOnly where
  refl _ := ⟨rfl, rfl, rfl, rfl, rfl⟩
  trans h h' := ⟨h'.types.trans h.types, h'.schemas.trans h.schemas, h'.records.trans h.records,
    h'.indexObjects.trans h.indexObjects, h'.definitions.trans h.definitions⟩

/-- The rows of the table of a name are replaced by related ones. -/
def RowStep (name : String) (R : Table → Table → Prop) (db db' : Database) : Prop :=
  ∃ t t', db.table? name = some t ∧ R t t' ∧ t'.definition = t.definition ∧ db' = db.setTable t'

namespace RowStep
variable {name : String} {R : Table → Table → Prop} {db db' : Database}

/-- The table that is set has a name of its own, so it takes the place of one definition only. -/
theorem rowsOnly (hk : db.Keyed) (h : RowStep name R db db') : RowsOnly db db' := by
  obtain ⟨t, t', ht, -, hd, rfl⟩ := h
  refine ⟨rfl, rfl, rfl, rfl, ?_⟩
  rw [setTable_tables, List.map_map]
  refine List.map_congr_left fun u hu => ?_
  obtain ⟨hmem, -⟩ := mem_of_table? ht
  simp only [Function.comp_apply, replaced]
  split
  · next hsame =>
    rw [hd] at hsame ⊢
    have h₁ := hk.table?_of_mem hu hsame
    rw [hk.table?_of_mem hmem (sameName_self _)] at h₁
    rw [Option.some.inj h₁]
  · rfl

theorem table?_same (h : RowStep name R db db') :
    ∃ t t', db.table? name = some t ∧ db'.table? name = some t' ∧ R t t' ∧
      t'.definition = t.definition := by
  obtain ⟨t, t', ht, hR, hd, rfl⟩ := h
  refine ⟨t, t', ht, table?_setTable_same ?_ (by rw [ht]; rfl), hR, hd⟩
  rw [hd]
  exact (mem_of_table? ht).2

theorem table?_other (h : RowStep name R db db') {other : String}
    (hne : sameName name other = false) : db'.table? other = db.table? other := by
  obtain ⟨t, t', ht, -, hd, rfl⟩ := h
  refine table?_setTable_other ?_
  rw [hd, sameName_congr (mem_of_table? ht).2]
  exact hne

end RowStep

/-- What a loop does whose turns replace the rows of tables of different names. -/
structure RowSteps (xs : List IndexDefinition) (name : IndexDefinition → String)
    (R : IndexDefinition → Table → Table → Prop) (db db' : Database) : Prop where
  rowsOnly : RowsOnly db db'
  same : ∀ ix ∈ xs, ∃ t t', db.table? (name ix) = some t ∧ db'.table? (name ix) = some t' ∧
    R ix t t' ∧ t'.definition = t.definition
  other : ∀ x, (∀ ix ∈ xs, sameName (name ix) x = false) → db'.table? x = db.table? x

theorem forM_rowSteps (name : IndexDefinition → String)
    (R : IndexDefinition → Table → Table → Prop) (f : IndexDefinition → Transaction Unit)
    {xs : List IndexDefinition}
    (hf : ∀ ix ∈ xs, ∀ db db', f ix db = .ok ((), db') → RowStep (name ix) (R ix) db db')
    (hkeyed : ∀ ix ∈ xs, ∀ db db', f ix db = .ok ((), db') → db.Keyed → db'.Keyed)
    (hd : xs.Pairwise fun a b => sameName (name a) (name b) = false) :
    ∀ {db db' : Database}, db.Keyed → xs.forM f db = .ok ((), db') →
      RowSteps xs name R db db' := by
  induction xs with
  | nil =>
    intro db db' _ h
    obtain rfl := forM_nil_eq_ok.1 h
    exact ⟨composes_rowsOnly.refl _, by simp, fun _ _ => rfl⟩
  | cons ix xs ih =>
    intro db db' hk h
    obtain ⟨db₁, h₁, h₂⟩ := forM_cons_eq_ok.1 h
    obtain ⟨hix, hxs⟩ := List.pairwise_cons.1 hd
    have hstep := hf ix (by simp) db db₁ h₁
    have hrest := ih (fun jx hj => hf jx (by simp [hj])) (fun jx hj => hkeyed jx (by simp [hj])) hxs
      (hkeyed ix (by simp) db db₁ h₁ hk) h₂
    refine ⟨composes_rowsOnly.trans (hstep.rowsOnly hk) hrest.rowsOnly, fun jx hj => ?_,
      fun x hx => ?_⟩
    · rcases List.mem_cons.1 hj with rfl | hj
      · obtain ⟨t, t', ht, ht', hR, hdef⟩ := hstep.table?_same
        refine ⟨t, t', ht, ?_, hR, hdef⟩
        rw [hrest.other _ fun kx hkx => by rw [sameName_comm]; exact hix kx hkx]
        exact ht'
      · obtain ⟨t, t', ht, ht', hR, hdef⟩ := hrest.same jx hj
        rw [hstep.table?_other (hix jx hj)] at ht
        exact ⟨t, t', ht, ht', hR, hdef⟩
    · rw [hrest.other x fun jx hj => hx jx (by simp [hj]), hstep.table?_other (hx ix (by simp))]

/-! ### Turns of the loops -/

/-- What a statement does to the table that it works on. -/
def Inserts (q : Insert) (t t' : Table) : Prop := ∃ uniques, t.insert uniques q = .ok t'

def Updates (q : Update) (t t' : Table) : Prop := ∃ uniques, t.update uniques q = .ok t'

def Deletes (q : Delete) (t t' : Table) : Prop := t' = t.delete q

theorem rowStep_insert {q : Insert} {db db' : Database} (h : db.insert q = .ok db') :
    RowStep q.table (Inserts q) db db' := by
  obtain ⟨t, t', ht, ht', rfl⟩ := Database.insert_eq_ok h
  exact ⟨t, t', ht, ⟨_, ht'⟩, Table.insert_definition ht', rfl⟩

theorem rowStep_update {q : Update} {db db' : Database} (h : db.update q = .ok db') :
    RowStep q.table (Updates q) db db' := by
  obtain ⟨t, t', ht, ht', rfl⟩ := Database.update_eq_ok h
  exact ⟨t, t', ht, ⟨_, ht'⟩, Table.update_definition ht', rfl⟩

theorem rowStep_delete {q : Delete} {db db' : Database} (h : db.delete q = .ok db') :
    RowStep q.table (Deletes q) db db' := by
  obtain ⟨t, ht, rfl⟩ := Database.delete_eq_ok h
  exact ⟨t, _, ht, rfl, rfl, rfl⟩

/-- One turn of a loop: a statement is made for an index and run. -/
def IndexedType.turn {α : Type} (t : IndexedType) (s : StoreSettings)
    (make : Index.Target → Except Error α) (run : Database → α → Except DatabaseFault Database)
    (ix : IndexDefinition) : Transaction Unit := do
  let row ← lift (make (t.target s ix))
  write (t.target s ix) (run · row)

theorem IndexedType.turn_eq_ok {α : Type} {t : IndexedType} {s : StoreSettings}
    {make : Index.Target → Except Error α} {run : Database → α → Except DatabaseFault Database}
    {ix : IndexDefinition} {db db' : Database} {u : Unit}
    (h : t.turn s make run ix db = .ok (u, db')) :
    ∃ q, make (t.target s ix) = .ok q ∧ run db q = .ok db' := by
  obtain ⟨q, db₁, h₁, h₂⟩ := Transaction.bind_eq_ok.1 h
  obtain ⟨hq, rfl⟩ := lift_eq_ok.1 h₁
  exact ⟨q, hq, write_eq_ok.1 h₂⟩

/-! ### Hashes of index names -/

/-- Whether the indexes of a schema have tables of their own. -/
def Schema.Apart (s : Schema) : Prop :=
  s.indexes.Pairwise fun a b => Index.nameHash a.name ≠ Index.nameHash b.name

theorem Schema.Apart.eq_of_hash {s : Schema} (hs : s.Apart) {ix jx : IndexDefinition}
    (hi : ix ∈ s.indexes) (hj : jx ∈ s.indexes)
    (h : Index.nameHash ix.name = Index.nameHash jx.name) : ix = jx := by
  by_contra hne
  have : Std.Symm fun a b : IndexDefinition =>
      Index.nameHash a.name ≠ Index.nameHash b.name := ⟨fun _ _ h => h.symm⟩
  exact List.Pairwise.forall hs hi hj hne h

theorem Schema.Apart.names {s : Schema} (hs : s.Apart) (stem : String) (n : UInt32) :
    s.indexes.Pairwise fun a b => sameName (Index.tableName stem n a.name)
      (Index.tableName stem n b.name) = false :=
  hs.imp fun h => Index.sameName_tableName_of_hash_ne h stem n n

end RecordStore
