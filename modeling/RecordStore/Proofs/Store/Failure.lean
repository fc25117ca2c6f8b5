import Mathlib
import RecordStore.Proofs.Index.Columns
import RecordStore.Proofs.Store.Action

/-!
What publishing a schema can fail with.  Apart from ordinary errors there are two: stored text that
cannot be read back, which takes a record that is there, and a column that stands in a table twice,
which takes an index whose attributes differ in the case of letters only.
-/
namespace RecordStore
open Sql Database Transaction Index

/-- An error other than that stored text cannot be read or that a column is there twice. -/
def Error.Ordinary : Error → Prop
  | .serialization _ | .database (.repeatedColumn _) => False
  | _ => True

/-- A fault of the database other than that a column is there twice. -/
def DatabaseFault.Ordinary (f : DatabaseFault) : Prop :=
  (Error.database f).Ordinary

/-! ### Statements that the database refuses -/

namespace Database

theorem ordinary_readNames (names : List String) :
    FailsOnly DatabaseFault.Ordinary (readNames names) := by
  unfold readNames
  split
  · exact failsOnly_error trivial
  · exact failsOnly_ok ()

theorem ordinary_reach (db : Database) (table : String) (columns : List String) :
    FailsOnly DatabaseFault.Ordinary (db.reach table columns) := by
  refine failsOnly_bind (ordinary_readNames _) fun _ _ => ?_
  split
  · exact failsOnly_error trivial
  · exact failsOnly_ok _

namespace Table

theorem ordinary_askedNumber (t : Table) (given : List (String × Value)) :
    FailsOnly DatabaseFault.Ordinary (t.askedNumber given) := by
  unfold askedNumber
  split
  · exact failsOnly_ok none
  · split
    · exact failsOnly_ok none
    · exact failsOnly_ok _
    · exact failsOnly_error trivial

theorem ordinary_insert (t : Table) (uniques : List (List String)) (q : Insert) :
    FailsOnly DatabaseFault.Ordinary (t.insert uniques q) := by
  unfold insert
  split
  · exact failsOnly_error trivial
  · refine failsOnly_bind (t.ordinary_askedNumber _) fun number _ => ?_
    simp only [addRow]
    split
    · exact failsOnly_error trivial
    · split
      · exact failsOnly_error trivial
      · exact failsOnly_ok _

theorem ordinary_change (t : Table) (assignments : List (String × Value)) (r : Row) :
    FailsOnly DatabaseFault.Ordinary (t.change assignments r) := by
  unfold change
  split
  · refine failsOnly_bind (t.ordinary_askedNumber _) fun number _ => ?_
    cases number with
    | none => exact failsOnly_error trivial
    | some n =>
      dsimp only [pure_bind]
      split
      · exact failsOnly_error trivial
      · exact failsOnly_ok _
  · dsimp only
    split
    · exact failsOnly_error trivial
    · exact failsOnly_ok _

theorem ordinary_update (t : Table) (uniques : List (List String)) (q : Update) :
    FailsOnly DatabaseFault.Ordinary (t.update uniques q) := by
  unfold update
  split
  · exact failsOnly_error trivial
  · split
    · exact failsOnly_error trivial
    · refine failsOnly_bind (failsOnly_mapM fun r _ => ?_) fun rows _ => ?_
      · split
        · exact t.ordinary_change _ r
        · exact failsOnly_ok r
      · split
        · exact failsOnly_ok _
        · exact failsOnly_error trivial

end Table

theorem ordinary_insert (db : Database) (q : Insert) :
    FailsOnly DatabaseFault.Ordinary (db.insert q) :=
  failsOnly_bind (db.ordinary_reach _ _) fun t _ =>
    failsOnly_bind (t.ordinary_insert _ q) fun _ _ => failsOnly_ok _

theorem ordinary_update (db : Database) (q : Update) :
    FailsOnly DatabaseFault.Ordinary (db.update q) :=
  failsOnly_bind (db.ordinary_reach _ _) fun t _ =>
    failsOnly_bind (t.ordinary_update _ q) fun _ _ => failsOnly_ok _

theorem ordinary_createIndex (db : Database) (q : CreateIndex) :
    FailsOnly DatabaseFault.Ordinary (db.createIndex q) := by
  unfold Database.createIndex
  split
  · exact failsOnly_error trivial
  refine failsOnly_bind (ordinary_readNames _) fun _ _ => ?_
  split
  · exact failsOnly_error trivial
  split
  · exact failsOnly_error trivial
  split
  · exact failsOnly_error trivial
  split
  · exact failsOnly_error trivial
  split
  · exact failsOnly_error trivial
  · exact failsOnly_ok _

theorem ordinary_usableTypeId (T : String) (n : Int64) :
    FailsOnly Error.Ordinary (usableTypeId T n) := by
  unfold usableTypeId
  split
  · exact failsOnly_ok _
  · exact failsOnly_error trivial

theorem ordinary_typeId? (db : Database) (T : String) : FailsOnly Error.Ordinary (db.typeId? T) := by
  unfold typeId?
  split
  · exact failsOnly_ok none
  · exact failsOnly_map (ordinary_usableTypeId T _)

theorem ordinary_typeId (db : Database) (T : String) (create : Bool) :
    FailsOnly Error.Ordinary (db.typeId T create) := by
  refine failsOnly_bind (db.ordinary_typeId? T) fun found _ => ?_
  split
  · exact failsOnly_ok _
  split
  · refine failsOnly_bind ?_ fun p _ => failsOnly_ok _
    unfold register
    split
    · exact failsOnly_error trivial
    · exact failsOnly_bind (ordinary_usableTypeId T _) fun id _ => failsOnly_ok _
  · exact failsOnly_ok _

/-- A table with columns that are the same to the database is refused for that, if for anything. -/
theorem failsOnly_createTable (db : Database) (q : CreateTable) :
    FailsOnly (fun f => f.Ordinary ∨ ((∃ n, f = .repeatedColumn n) ∧
      ¬ (q.columns.map (·.name)).Pairwise fun a b => sameName a b = false)) (db.createTable q) := by
  intro f hf
  -- every other fault is an ordinary one
  by_cases hrepeated : ∃ n, f = .repeatedColumn n
  · obtain ⟨n, rfl⟩ := hrepeated
    exact .inr ⟨⟨n, rfl⟩, ((db.createTable_repeatedColumn_iff q).1 ⟨n, hf⟩).2.2.2⟩
  · left
    cases f with
    | repeatedColumn n => exact absurd ⟨n, rfl⟩ hrepeated
    | _ => trivial

end Database

/-! ### Rows -/

namespace Index
variable {t : Target} {id : UInt64} {r : Record}

theorem NumberError.ordinary {e : Error} (h : NumberError id e) : e.Ordinary := by
  cases h
  trivial

theorem FieldError.ordinary {e : Error} (h : FieldError t r e) : e.Ordinary := by
  cases h <;> trivial

theorem ordinary_insertRow (hix : t.index ∈ t.schema.indexes) (id : UInt64) (r : Record) :
    FailsOnly Error.Ordinary (insertRow t id r) :=
  (failsOnly_insertRow hix id r).imp fun _ he => he.elim NumberError.ordinary FieldError.ordinary

theorem ordinary_writeError (t : Target) {f : DatabaseFault} (hf : f.Ordinary) :
    (writeError t f).Ordinary := by
  unfold writeError
  split
  · trivial
  · exact hf

end Index

/-! ### Publishing -/

/-- A stored record is refused, or its text cannot be read. -/
theorem failsOnly_storedRecord (text : String) :
    FailsOnly (fun e => e.Ordinary ∨ e = .serialization .malformed ∧ Json.parse? text = none)
      (storedRecord text) := by
  unfold storedRecord
  split
  · next hunread => exact failsOnly_error (.inr ⟨rfl, hunread⟩)
  · split
    · exact failsOnly_error (.inl trivial)
    · exact failsOnly_ok _

theorem ordinary_addSchema (T text : String) :
    Transaction.FailsOnly Error.Ordinary (apply (·.addSchema T text)) := by
  refine failsOnly_apply fun db => ?_
  unfold addSchema
  split
  · exact failsOnly_error trivial
  · exact failsOnly_ok _

namespace IndexedType
variable (t : IndexedType) (s : StoreSettings)

theorem ordinary_insertRows (id : UInt64) (r : Record) :
    Transaction.FailsOnly Error.Ordinary (t.insertRows s id r) :=
  failsOnly_forM fun _ hix =>
    Transaction.failsOnly_bind (failsOnly_lift (ordinary_insertRow hix id r)) fun q =>
      failsOnly_write fun db => (db.ordinary_insert q).imp fun _ => ordinary_writeError _

theorem ordinary_flagRows (id : UInt64) (quarantined : Bool) :
    Transaction.FailsOnly Error.Ordinary (t.flagRows s id quarantined) :=
  failsOnly_forM fun _ _ =>
    Transaction.failsOnly_bind (failsOnly_lift ((failsOnly_flagRow _ id quarantined).imp
      fun _ => NumberError.ordinary)) fun q =>
      failsOnly_write fun db => (db.ordinary_update q).imp fun _ => ordinary_writeError _

/-- An index is refused for an ordinary reason, or for columns of its table that are the same. -/
theorem failsOnly_createIndex (name : String) :
    Transaction.FailsOnly (fun e => e.Ordinary ∨ (∃ n, e = .database (.repeatedColumn n)) ∧
      ∃ ix ∈ t.schema.indexes, ¬ AttributesApart ix) (t.createIndex s name) := by
  have hrequire : RecordStore.FailsOnly Error.Ordinary (t.schema.requireIndex t.typeName name) := by
    unfold Schema.requireIndex
    split
    · exact failsOnly_ok _
    · exact failsOnly_error trivial
  refine failsOnly_lift_bind (hrequire.imp fun _ => .inl) fun ix hix => ?_
  have hmem : ix ∈ t.schema.indexes := by
    unfold Schema.requireIndex at hix
    split at hix
    · next jx hjx => exact Except.ok.inj hix ▸ List.mem_of_find?_eq_some hjx
    · cases hix
  refine Transaction.failsOnly_bind (failsOnly_attempt _) fun _ => ?_
  -- the table and the index object can be written down
  refine failsOnly_lift_bind (createTable_of_mem hmem _ ▸ failsOnly_ok _) fun table htable => ?_
  refine Transaction.failsOnly_bind (failsOnly_apply fun db => ?_) fun _ => ?_
  · refine (db.failsOnly_createTable table).imp fun f hf => hf.imp_right ?_
    rintro ⟨⟨n, rfl⟩, hcolumns⟩
    rw [Index.createTable_eq_ok htable, columns_apart_iff] at hcolumns
    exact ⟨⟨n, rfl⟩, ix, hmem, hcolumns⟩
  refine failsOnly_lift_bind (createIndex_of_mem hmem _ ▸ failsOnly_ok _) fun q _ => ?_
  exact failsOnly_apply fun db => (db.ordinary_createIndex q).imp fun _ => .inl

/-- A record is entered unless there is an ordinary reason against it or its text cannot be read. -/
theorem failsOnly_backfill (row : RecordRow) :
    Transaction.FailsOnly
      (fun e => e.Ordinary ∨ e = .serialization .malformed ∧ Json.parse? row.text = none)
      (t.backfill s row) := by
  have hnumber : RecordStore.FailsOnly Error.Ordinary (recordId row.id) := by
    unfold recordId storedNumber
    split
    · exact failsOnly_ok _
    · exact failsOnly_error trivial
  have hcheck (r : Record) :
      RecordStore.FailsOnly Error.Ordinary (checkRecord t.typeName t.schema r) := by
    unfold checkRecord
    split
    · exact failsOnly_ok ()
    · exact failsOnly_error trivial
  refine Transaction.failsOnly_bind (failsOnly_lift (hnumber.imp fun _ => .inl)) fun id => ?_
  refine Transaction.failsOnly_bind (failsOnly_lift (failsOnly_storedRecord row.text)) fun r => ?_
  refine Transaction.failsOnly_bind (failsOnly_lift ((hcheck r).imp fun _ => .inl)) fun _ => ?_
  refine Transaction.failsOnly_bind ((t.ordinary_insertRows s id r).imp fun _ => .inl) fun _ => ?_
  split
  · exact (t.ordinary_flagRows s id true).imp fun _ => .inl
  · exact failsOnly_pure ()

/-- A schema is published unless there is an ordinary reason against it, a stored record cannot be
read, or two columns of a table are the same. -/
theorem failsOnly_publish :
    Transaction.FailsOnly (fun e => e.Ordinary ∨ e = .serialization .malformed ∨
      (∃ n, e = .database (.repeatedColumn n)) ∧ ∃ ix ∈ t.schema.indexes, ¬ AttributesApart ix)
      (t.publish s) := by
  refine Transaction.failsOnly_bind ((ordinary_addSchema _ _).imp fun _ => .inl) fun _ => ?_
  refine Transaction.failsOnly_bind (failsOnly_forM fun ix _ =>
    (t.failsOnly_createIndex s ix.name).imp fun _ h => h.imp_right .inr) fun _ => ?_
  refine Transaction.failsOnly_bind (fun db => failsOnly_ok (db, db)) fun db => ?_
  exact failsOnly_forM fun row _ =>
    (t.failsOnly_backfill s row).imp fun _ h => h.imp_right fun h => .inl h.1

end IndexedType

end RecordStore
