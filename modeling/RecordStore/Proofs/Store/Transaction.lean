import Mathlib
import RecordStore.Store.Indexes
import RecordStore.Proofs.Database.Statements

/-!
Reasoning about the steps of a transaction that succeeds.  A step that is made of others succeeds when
all of them do, one on the database that the one before has left.
-/
namespace RecordStore.Transaction

variable {α β γ : Type}

theorem bind_of_ok {x : Transaction α} {f : α → Transaction β} {db db' : Database} {a : α}
    (h : x db = .ok (a, db')) : (x >>= f) db = f a db' := by
  show (x db >>= fun p => f p.1 p.2) = _
  rw [h]
  rfl

theorem bind_of_error {x : Transaction α} {f : α → Transaction β} {db : Database} {e : Error}
    (h : x db = .error e) : (x >>= f) db = .error e := by
  show (x db >>= fun p => f p.1 p.2) = _
  rw [h]
  rfl

theorem bind_eq_ok {x : Transaction α} {f : α → Transaction β} {db db' : Database} {b : β} :
    (x >>= f) db = .ok (b, db') ↔ ∃ a db₁, x db = .ok (a, db₁) ∧ f a db₁ = .ok (b, db') := by
  show (x db >>= fun p => f p.1 p.2) = .ok (b, db') ↔ _
  rw [RecordStore.bind_eq_ok]
  exact ⟨fun ⟨p, h, h'⟩ => ⟨p.1, p.2, h, h'⟩, fun ⟨a, db₁, h, h'⟩ => ⟨(a, db₁), h, h'⟩⟩

theorem bind_eq_error {x : Transaction α} {f : α → Transaction β} {db : Database} {e : Error} :
    (x >>= f) db = .error e ↔
      x db = .error e ∨ ∃ a db₁, x db = .ok (a, db₁) ∧ f a db₁ = .error e := by
  show (x db >>= fun p => f p.1 p.2) = .error e ↔ _
  rw [RecordStore.bind_eq_error]
  exact or_congr_right ⟨fun ⟨p, h, h'⟩ => ⟨p.1, p.2, h, h'⟩, fun ⟨a, db₁, h, h'⟩ => ⟨(a, db₁), h, h'⟩⟩

theorem pure_eq_ok {a b : α} {db db' : Database} :
    (pure a : Transaction α) db = .ok (b, db') ↔ b = a ∧ db' = db := by
  constructor
  · intro h
    obtain ⟨rfl, rfl⟩ := Prod.mk.inj (Except.ok.inj h)
    exact ⟨rfl, rfl⟩
  · rintro ⟨rfl, rfl⟩
    rfl

theorem lift_eq_ok {r : Except Error α} {db db' : Database} {a : α} :
    lift r db = .ok (a, db') ↔ r = .ok a ∧ db' = db := by
  rw [lift, map_eq_ok]
  constructor
  · rintro ⟨b, hb, h⟩
    obtain ⟨rfl, rfl⟩ := Prod.mk.inj h
    exact ⟨hb, rfl⟩
  · rintro ⟨h, rfl⟩
    exact ⟨a, h, rfl⟩

theorem apply_eq_ok {f : Database → Except DatabaseFault Database} {db db' : Database} {u : Unit} :
    apply f db = .ok (u, db') ↔ f db = .ok db' := by
  unfold apply
  cases h : f db with
  | error e => exact ⟨fun h => (by cases h), fun h => (by cases h)⟩
  | ok db₁ =>
    exact ⟨fun h => (by obtain ⟨-, rfl⟩ := Prod.mk.inj (Except.ok.inj h); rfl),
      fun h => (by obtain rfl := Except.ok.inj h; rfl)⟩

theorem write_eq_ok {t : Index.Target} {f : Database → Except DatabaseFault Database}
    {db db' : Database} {u : Unit} : write t f db = .ok (u, db') ↔ f db = .ok db' := by
  unfold write
  cases h : f db with
  | error e => exact ⟨fun h => (by cases h), fun h => (by cases h)⟩
  | ok db₁ =>
    exact ⟨fun h => (by obtain ⟨-, rfl⟩ := Prod.mk.inj (Except.ok.inj h); rfl),
      fun h => (by obtain rfl := Except.ok.inj h; rfl)⟩

/-- A change that may be left out has been made or has found a fault. -/
theorem attempt_eq_ok {f : Database → Except DatabaseFault Database} {db db' : Database} {u : Unit}
    (h : attempt f db = .ok (u, db')) : f db = .ok db' ∨ db' = db ∧ ∃ e, f db = .error e := by
  unfold attempt at h
  cases hf : f db with
  | error e =>
    rw [hf] at h
    obtain ⟨-, rfl⟩ := Prod.mk.inj (Except.ok.inj h)
    exact .inr ⟨rfl, e, rfl⟩
  | ok db₁ =>
    rw [hf] at h
    obtain ⟨-, rfl⟩ := Prod.mk.inj (Except.ok.inj h)
    exact .inl rfl

theorem forM_nil_eq_ok {f : α → Transaction Unit} {db db' : Database} {u : Unit} :
    ([] : List α).forM f db = .ok (u, db') ↔ db' = db := by
  show (pure () : Transaction Unit) db = .ok (u, db') ↔ _
  rw [pure_eq_ok]
  exact ⟨fun h => h.2, fun h => ⟨rfl, h⟩⟩

theorem forM_cons_eq_ok {f : α → Transaction Unit} {x : α} {xs : List α} {db db' : Database}
    {u : Unit} : (x :: xs).forM f db = .ok (u, db') ↔
      ∃ db₁, f x db = .ok ((), db₁) ∧ xs.forM f db₁ = .ok ((), db') := by
  show (f x >>= fun _ => xs.forM f) db = .ok (u, db') ↔ _
  rw [bind_eq_ok]
  exact ⟨fun ⟨_, db₁, h, h'⟩ => ⟨db₁, h, h'⟩, fun ⟨db₁, h, h'⟩ => ⟨(), db₁, h, h'⟩⟩

/-! ### Relations that steps keep -/

/-- A step that succeeds relates the database before to the one after. -/
def Ensures (R : Database → Database → Prop) (t : Transaction α) : Prop :=
  ∀ db a db', t db = .ok (a, db') → R db db'

/-- What every step of a sequence keeps, the sequence keeps. -/
structure Composes (R : Database → Database → Prop) : Prop where
  refl : ∀ db, R db db
  trans : ∀ {db₁ db₂ db₃}, R db₁ db₂ → R db₂ db₃ → R db₁ db₃

section
variable {R : Database → Database → Prop}

theorem ensures_bind (hc : Composes R) {x : Transaction α} {f : α → Transaction β}
    (hx : Ensures R x) (hf : ∀ a, Ensures R (f a)) : Ensures R (x >>= f) := by
  intro db b db' h
  obtain ⟨a, db₁, h₁, h₂⟩ := bind_eq_ok.1 h
  exact hc.trans (hx db a db₁ h₁) (hf a db₁ b db' h₂)

theorem ensures_pure (hc : Composes R) (a : α) : Ensures R (pure a : Transaction α) := by
  intro db b db' h
  obtain ⟨-, rfl⟩ := pure_eq_ok.1 h
  exact hc.refl db'

theorem ensures_lift (hc : Composes R) (r : Except Error α) : Ensures R (lift r) := by
  intro db b db' h
  obtain ⟨-, rfl⟩ := lift_eq_ok.1 h
  exact hc.refl db'

theorem ensures_apply {f : Database → Except DatabaseFault Database}
    (hf : ∀ db db', f db = .ok db' → R db db') : Ensures R (apply f) :=
  fun db _ db' h => hf db db' (apply_eq_ok.1 h)

theorem ensures_write {t : Index.Target} {f : Database → Except DatabaseFault Database}
    (hf : ∀ db db', f db = .ok db' → R db db') : Ensures R (write t f) :=
  fun db _ db' h => hf db db' (write_eq_ok.1 h)

theorem ensures_attempt (hc : Composes R) {f : Database → Except DatabaseFault Database}
    (hf : ∀ db db', f db = .ok db' → R db db') : Ensures R (attempt f) := by
  intro db u db' h
  rcases attempt_eq_ok h with h | ⟨rfl, -⟩
  · exact hf db db' h
  · exact hc.refl db'

theorem ensures_forM (hc : Composes R) {f : α → Transaction Unit}
    {xs : List α} (hf : ∀ x ∈ xs, Ensures R (f x)) : Ensures R (xs.forM f) := by
  intro db u db' h
  induction xs generalizing db with
  | nil =>
    obtain rfl := forM_nil_eq_ok.1 h
    exact hc.refl db'
  | cons x xs ih =>
    obtain ⟨db₁, h₁, h₂⟩ := forM_cons_eq_ok.1 h
    exact hc.trans (hf x (by simp) db () db₁ h₁)
      (ih (fun y hy => hf y (by simp [hy])) db₁ h₂)

end

/-! ### Errors that steps end with -/

/-- A step that fails with errors of some kind only, on any database. -/
def FailsOnly (P : Error → Prop) (t : Transaction α) : Prop :=
  ∀ db, RecordStore.FailsOnly P (t db)

section
variable {P Q : Error → Prop}

theorem FailsOnly.imp {t : Transaction α} (h : FailsOnly P t) (hPQ : ∀ e, P e → Q e) :
    FailsOnly Q t :=
  fun db => (h db).imp hPQ

theorem failsOnly_bind {x : Transaction α} {f : α → Transaction β} (hx : FailsOnly P x)
    (hf : ∀ a, FailsOnly P (f a)) : FailsOnly P (x >>= f) :=
  fun db => RecordStore.failsOnly_bind (hx db) fun p _ => hf p.1 p.2

theorem failsOnly_pure (a : α) : FailsOnly P (pure a : Transaction α) :=
  fun db => failsOnly_ok (a, db)

theorem failsOnly_lift {r : Except Error α} (hr : RecordStore.FailsOnly P r) :
    FailsOnly P (lift r) :=
  fun _ => failsOnly_map hr

/-- What follows a part that does not depend on the database can rely on its result. -/
theorem failsOnly_lift_bind {r : Except Error α} {f : α → Transaction β}
    (hr : RecordStore.FailsOnly P r) (hf : ∀ a, r = .ok a → FailsOnly P (f a)) :
    FailsOnly P (lift r >>= f) := by
  intro db
  refine RecordStore.failsOnly_bind (failsOnly_lift hr db) fun p hp => ?_
  obtain ⟨a, ha, rfl⟩ := map_eq_ok.1 hp
  exact hf a ha db

theorem failsOnly_apply {f : Database → Except DatabaseFault Database}
    (hf : ∀ db, RecordStore.FailsOnly (fun e => P (.database e)) (f db)) : FailsOnly P (apply f) := by
  intro db
  have hfault := hf db
  unfold apply
  cases hrun : f db with
  | ok db' => exact failsOnly_ok _
  | error e => exact failsOnly_error (hfault e hrun)

theorem failsOnly_attempt (f : Database → Except DatabaseFault Database) :
    FailsOnly P (attempt f) := by
  intro db
  unfold attempt
  cases f db with
  | ok db' => exact failsOnly_ok _
  | error e => exact failsOnly_ok _

theorem failsOnly_write {t : Index.Target} {f : Database → Except DatabaseFault Database}
    (hf : ∀ db, RecordStore.FailsOnly (fun e => P (Index.writeError t e)) (f db)) :
    FailsOnly P (write t f) := by
  intro db
  have hfault := hf db
  unfold write
  cases hrun : f db with
  | ok db' => exact failsOnly_ok _
  | error e => exact failsOnly_error (hfault e hrun)

theorem failsOnly_forM {f : α → Transaction Unit} {xs : List α}
    (hf : ∀ x ∈ xs, FailsOnly P (f x)) : FailsOnly P (xs.forM f) := by
  induction xs with
  | nil => exact failsOnly_pure ()
  | cons x xs ih =>
    exact failsOnly_bind (hf x List.mem_cons_self) fun _ =>
      ih fun y hy => hf y (List.mem_cons_of_mem x hy)

end

end RecordStore.Transaction

namespace RecordStore
open Transaction

theorem storedSchema_eq_ok {typeName : String} {db db' : Database} {s : Option Schema}
    (h : storedSchema typeName db = .ok (s, db')) :
    db' = db ∧ (s = none ∧ db.schemaText? typeName = none ∨
      ∃ text S, s = some S ∧ db.schemaText? typeName = some text ∧ Schema.parse text = .ok S) := by
  unfold storedSchema at h
  split at h
  · next hn =>
    obtain ⟨rfl, rfl⟩ := Prod.mk.inj (Except.ok.inj h)
    exact ⟨rfl, .inl ⟨rfl, hn⟩⟩
  · next text ht =>
    split at h
    · next S hS =>
      obtain ⟨rfl, rfl⟩ := Prod.mk.inj (Except.ok.inj h)
      exact ⟨rfl, .inr ⟨text, S, rfl, ht, hS⟩⟩
    · cases h

namespace IndexedType
section
variable {R : Database → Database → Prop} (hc : Composes R)
include hc

/-! Whatever the statements on the rows of one table keep, the changes of the rows of a record
keep. -/

theorem ensures_insertRows (t : IndexedType) (s : StoreSettings) (id : UInt64) (r : Record)
    (hinsert : ∀ db q db', db.insert q = .ok db' → R db db') : Ensures R (t.insertRows s id r) :=
  ensures_forM hc fun _ _ =>
    ensures_bind hc (ensures_lift hc _) fun q =>
      ensures_write fun db db' h => hinsert db q db' h

theorem ensures_updateRows (t : IndexedType) (s : StoreSettings) (id : UInt64) (r : Record)
    (hupdate : ∀ db q db', db.update q = .ok db' → R db db') : Ensures R (t.updateRows s id r) :=
  ensures_forM hc fun _ _ =>
    ensures_bind hc (ensures_lift hc _) fun q =>
      ensures_write fun db db' h => hupdate db q db' h

theorem ensures_deleteRows (t : IndexedType) (s : StoreSettings) (id : UInt64)
    (hdelete : ∀ db q db', db.delete q = .ok db' → R db db') : Ensures R (t.deleteRows s id) :=
  ensures_forM hc fun _ _ =>
    ensures_bind hc (ensures_lift hc _) fun q =>
      ensures_write fun db db' h => hdelete db q db' h

theorem ensures_flagRows (t : IndexedType) (s : StoreSettings) (id : UInt64) (quarantined : Bool)
    (hupdate : ∀ db q db', db.update q = .ok db' → R db db') :
    Ensures R (t.flagRows s id quarantined) :=
  ensures_forM hc fun _ _ =>
    ensures_bind hc (ensures_lift hc _) fun q =>
      ensures_write fun db db' h => hupdate db q db' h

theorem ensures_truncateAll (t : IndexedType) (s : StoreSettings)
    (htruncate : ∀ db name db', db.truncate name = .ok db' → R db db') :
    Ensures R (t.truncateAll s) :=
  ensures_forM hc fun _ _ => ensures_apply fun db db' h => htruncate db _ db' h

/-- Entering a stored record adds its rows and perhaps flags them. -/
theorem ensures_backfill_of (t : IndexedType) (s : StoreSettings) (row : RecordRow)
    (hinsert : ∀ id r, Ensures R (t.insertRows s id r))
    (hflag : ∀ id, Ensures R (t.flagRows s id true)) : Ensures R (t.backfill s row) := by
  refine ensures_bind hc (ensures_lift hc _) fun id => ?_
  refine ensures_bind hc (ensures_lift hc _) fun r => ?_
  refine ensures_bind hc (ensures_lift hc _) fun _ => ?_
  refine ensures_bind hc (hinsert id r) fun _ => ?_
  split
  · exact hflag id
  · exact ensures_pure hc ()

theorem ensures_backfill (t : IndexedType) (s : StoreSettings) (row : RecordRow)
    (hinsert : ∀ db q db', db.insert q = .ok db' → R db db')
    (hupdate : ∀ db q db', db.update q = .ok db' → R db db') : Ensures R (t.backfill s row) :=
  ensures_backfill_of hc t s row (fun id r => ensures_insertRows hc t s id r hinsert)
    fun id => ensures_flagRows hc t s id true hupdate

theorem ensures_createIndex (t : IndexedType) (s : StoreSettings) (name : String)
    (htable : ∀ db q db', db.createTable q = .ok db' → R db db')
    (hindex : ∀ db q db', db.createIndex q = .ok db' → R db db')
    (hdrop : ∀ db q db', db.dropIndex q = .ok db' → R db db') :
    Ensures R (t.createIndex s name) := by
  refine ensures_bind hc (ensures_lift hc _) fun ix => ?_
  refine ensures_bind hc (ensures_attempt hc fun db db' h => hdrop db _ db' h) fun _ => ?_
  refine ensures_bind hc (ensures_lift hc _) fun q => ?_
  refine ensures_bind hc (ensures_apply fun db db' h => htable db q db' h) fun _ => ?_
  refine ensures_bind hc (ensures_lift hc _) fun q => ?_
  exact ensures_apply fun db db' h => hindex db q db' h

end

theorem ensures_dropIndexTable {R : Database → Database → Prop} (hc : Composes R)
    (s : StoreSettings) (n : UInt32) (name : String)
    (htable : ∀ db q db', db.dropTable q = .ok db' → R db db')
    (hindex : ∀ db q db', db.dropIndex q = .ok db' → R db db') :
    Ensures R (dropIndexTable s n name) :=
  ensures_bind hc (ensures_apply fun db db' h => htable db _ db' h) fun _ =>
    ensures_attempt hc fun db db' h => hindex db _ db' h

end IndexedType

end RecordStore
