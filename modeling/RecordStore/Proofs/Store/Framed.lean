import Mathlib
import RecordStore.Proofs.Store.Transaction

/-!
Steps on the tables of indexes.  Such a step neither looks at the fixed tables nor changes them, so it
does the same whatever stands there: types may be registered, records added and schemas stored before
it or after it.
-/
namespace RecordStore
open Database Transaction

/-- The index tables of one database over the fixed tables of another. -/
def Database.over (db fixed : Database) : Database :=
  { fixed with tables := db.tables, indexObjects := db.indexObjects }

/-- A step that neither sees the fixed tables nor changes them. -/
def Framed {α : Type} (t : Transaction α) : Prop :=
  ∀ db fixed, t (db.over fixed) = (t db).map fun p => (p.1, p.2.over fixed)

/-- A change of the database that neither sees the fixed tables nor changes them. -/
def FramedChange (f : Database → Except DatabaseFault Database) : Prop :=
  ∀ db fixed, f (db.over fixed) = (f db).map (·.over fixed)

namespace Database
variable (db fixed : Database)

theorem table?_over (name : String) : (db.over fixed).table? name = db.table? name := rfl

theorem uniquesOf_over (name : String) : (db.over fixed).uniquesOf name = db.uniquesOf name := rfl

theorem reach_over (name : String) (columns : List String) :
    (db.over fixed).reach name columns = db.reach name columns := rfl

end Database

section
variable {α β : Type}

/-! ### Sequences of steps -/

theorem framed_pure (a : α) : Framed (pure a : Transaction α) := fun _ _ => rfl

theorem framed_lift (r : Except Error α) : Framed (lift r) := by
  intro db fixed
  cases r with
  | error e => rfl
  | ok a => rfl

theorem framed_bind {x : Transaction α} {f : α → Transaction β} (hx : Framed x)
    (hf : ∀ a, Framed (f a)) : Framed (x >>= f) := by
  intro db fixed
  have hfirst := hx db fixed
  cases h : x db with
  | error e =>
    rw [h] at hfirst
    rw [Transaction.bind_of_error h, Transaction.bind_of_error hfirst]
    rfl
  | ok p =>
    rw [h] at hfirst
    rw [Transaction.bind_of_ok h, Transaction.bind_of_ok hfirst]
    exact hf p.1 p.2 fixed

theorem framed_forM {f : α → Transaction Unit} {xs : List α} (hf : ∀ x ∈ xs, Framed (f x)) :
    Framed (xs.forM f) := by
  induction xs with
  | nil => exact framed_pure ()
  | cons x xs ih =>
    have hrest := ih fun y hy => hf y (List.mem_cons_of_mem _ hy)
    exact framed_bind (hf x List.mem_cons_self) fun _ => hrest

theorem framed_apply {f : Database → Except DatabaseFault Database} (hf : FramedChange f) :
    Framed (apply f) := by
  intro db fixed
  unfold apply
  rw [hf db fixed]
  cases f db with
  | error e => rfl
  | ok db' => rfl

theorem framed_attempt {f : Database → Except DatabaseFault Database} (hf : FramedChange f) :
    Framed (attempt f) := by
  intro db fixed
  unfold attempt
  rw [hf db fixed]
  cases f db with
  | error e => rfl
  | ok db' => rfl

theorem framed_write (t : Index.Target) {f : Database → Except DatabaseFault Database}
    (hf : FramedChange f) : Framed (write t f) := by
  intro db fixed
  unfold write
  rw [hf db fixed]
  cases f db with
  | error e => rfl
  | ok db' => rfl

end

/-! ### Statements -/

theorem framed_createTable (s : Sql.CreateTable) : FramedChange (·.createTable s) := by
  intro db fixed
  simp only [Database.createTable]
  cases readNames (s.table :: s.columns.map (·.name)) with
  | error e => rfl
  | ok u =>
    simp only [bind, Except.bind]
    by_cases hreserved : reserved s.table = true
    · rw [if_pos hreserved, if_pos hreserved]
      rfl
    · rw [if_neg hreserved, if_neg hreserved]
      by_cases hpresent : (db.table? s.table).isSome = true
      · have hpresent' : ((db.over fixed).table? s.table).isSome = true := hpresent
        rw [if_pos hpresent, if_pos hpresent']
        rfl
      · have hpresent' : ¬ ((db.over fixed).table? s.table).isSome = true := hpresent
        rw [if_neg hpresent, if_neg hpresent']
        cases repeatedName? (s.columns.map (·.name)) <;> rfl

theorem framed_createIndex (s : Sql.CreateIndex) : FramedChange (·.createIndex s) := by
  intro db fixed
  simp only [Database.createIndex]
  cases readBare? s.index with
  | none => rfl
  | some name =>
    simp only
    cases readNames (s.table :: s.columns.map (·.column)) with
    | error e => rfl
    | ok u =>
      simp only [bind, Except.bind]
      by_cases hempty : s.columns.isEmpty = true
      · rw [if_pos hempty, if_pos hempty]
        rfl
      rw [if_neg hempty, if_neg hempty]
      by_cases hreserved : reserved name = true
      · rw [if_pos hreserved, if_pos hreserved]
        rfl
      rw [if_neg hreserved, if_neg hreserved, table?_over]
      cases db.table? s.table with
      | none => rfl
      | some t =>
        simp only
        by_cases htaken : (db.indexObjects.any fun o => sameName o.name name) = true
        · have htaken' : ((db.over fixed).indexObjects.any fun o => sameName o.name name) = true :=
            htaken
          rw [if_pos htaken, if_pos htaken']
          rfl
        · have htaken' : ¬ ((db.over fixed).indexObjects.any fun o => sameName o.name name) = true :=
            htaken
          rw [if_neg htaken, if_neg htaken']
          split_ifs <;> rfl

theorem framed_dropIndex (name : String) : FramedChange (·.dropIndex name) := by
  intro db fixed
  simp only [Database.dropIndex]
  cases readBare? name with
  | none => rfl
  | some read => rfl

theorem framed_insert (s : Sql.Insert) : FramedChange (·.insert s) := by
  intro db fixed
  simp only [Database.insert, reach_over, uniquesOf_over]
  cases db.reach s.table s.columns with
  | error e => rfl
  | ok u =>
    show (u.insert (db.uniquesOf s.table) s >>= _) =
      Except.map _ (u.insert (db.uniquesOf s.table) s >>= _)
    cases u.insert (db.uniquesOf s.table) s <;> rfl

theorem framed_update (s : Sql.Update) : FramedChange (·.update s) := by
  intro db fixed
  simp only [Database.update, reach_over, uniquesOf_over]
  cases db.reach s.table (s.assignments.map (·.1) ++ [s.condition.column]) with
  | error e => rfl
  | ok u =>
    show (u.update (db.uniquesOf s.table) s >>= _) =
      Except.map _ (u.update (db.uniquesOf s.table) s >>= _)
    cases u.update (db.uniquesOf s.table) s <;> rfl

/-! ### Steps on the indexes of a type -/

namespace IndexedType
variable (t : IndexedType) (s : StoreSettings)

theorem framed_createIndex (name : String) : Framed (t.createIndex s name) :=
  framed_bind (framed_lift _) fun _ => framed_bind (framed_attempt (framed_dropIndex _)) fun _ =>
    framed_bind (framed_lift _) fun _ =>
      framed_bind (framed_apply (RecordStore.framed_createTable _)) fun _ =>
        framed_bind (framed_lift _) fun _ => framed_apply (RecordStore.framed_createIndex _)

theorem framed_insertRows (id : UInt64) (r : Record) : Framed (t.insertRows s id r) :=
  framed_forM fun _ _ =>
    framed_bind (framed_lift _) fun row => framed_write _ (RecordStore.framed_insert row)

theorem framed_flagRows (id : UInt64) (quarantined : Bool) :
    Framed (t.flagRows s id quarantined) :=
  framed_forM fun _ _ =>
    framed_bind (framed_lift _) fun row => framed_write _ (RecordStore.framed_update row)

theorem framed_backfill (row : RecordRow) : Framed (t.backfill s row) := by
  refine framed_bind (framed_lift _) fun id => framed_bind (framed_lift _) fun r => ?_
  refine framed_bind (framed_lift _) fun _ => framed_bind (framed_insertRows t s id r) fun _ => ?_
  split
  · exact framed_flagRows t s id true
  · exact framed_pure ()

end IndexedType

/-! ### What a framed step does over other fixed tables -/

section
variable {t : Transaction Unit}

theorem Framed.over_eq_ok (h : Framed t) (db fixed : Database) {db' : Database} :
    t (db.over fixed) = .ok ((), db') ↔ ∃ db₁, t db = .ok ((), db₁) ∧ db' = db₁.over fixed := by
  rw [h db fixed]
  cases t db with
  | error e => simp [Except.map]
  | ok p =>
    obtain ⟨⟨⟩, db₁⟩ := p
    simp [Except.map, eq_comm]

end

end RecordStore
