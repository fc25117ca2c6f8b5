import Mathlib
import RecordStore.Store.Operation
import RecordStore.Proofs.Store.Transaction

/-!
Reasoning about what a store does when it is called.  An action runs whether it fails or not, so its
rules speak about the workspace that it leaves in either case.
-/
namespace RecordStore.Action
open Transaction

variable {α β : Type}

theorem bind_of_ok {x : Action α} {f : α → Action β} {w w' : Workspace} {a : α}
    (h : x w = (.ok a, w')) : (x >>= f) w = f a w' := by
  show (x w >>= fun p => ExceptT.bindCont f p.1 p.2 : Id _) = _
  rw [h]
  rfl

theorem bind_of_error {x : Action α} {f : α → Action β} {w w' : Workspace} {e : Error}
    (h : x w = (.error e, w')) : (x >>= f) w = (.error e, w') := by
  show (x w >>= fun p => ExceptT.bindCont f p.1 p.2 : Id _) = _
  rw [h]
  rfl

theorem map_apply (g : α → β) (x : Action α) (w : Workspace) :
    (g <$> x) w = ((x w).1.map g, (x w).2) := by
  cases h : x w with
  | mk r w' =>
    cases r with
    | ok a => exact bind_of_ok (f := fun a => pure (g a)) h
    | error e => exact bind_of_error (f := fun a => pure (g a)) h

theorem map_of_ok (g : α → β) {x : Action α} {w w' : Workspace} {a : α} (h : x w = (.ok a, w')) :
    (g <$> x) w = (.ok (g a), w') := by
  rw [map_apply, h]
  rfl

/-- A sequence either ends at its first part or goes on from there. -/
theorem bind_cases (x : Action α) (f : α → Action β) (w : Workspace) :
    (∃ a w', x w = (.ok a, w') ∧ (x >>= f) w = f a w') ∨
      ∃ e w', x w = (.error e, w') ∧ (x >>= f) w = (.error e, w') := by
  cases h : x w with
  | mk r w' =>
    cases r with
    | ok a => exact .inl ⟨a, w', rfl, bind_of_ok h⟩
    | error e => exact .inr ⟨e, w', rfl, bind_of_error h⟩

/-- The answer of a sequence depends on the first part by its answer and what it leaves. -/
theorem fst_bind (x : Action α) (f : α → Action β) (w : Workspace) :
    ((x >>= f) w).1 = (x w).1 >>= fun a => (f a (x w).2).1 := by
  rcases bind_cases x f w with ⟨a, w', h, h'⟩ | ⟨e, w', h, h'⟩
  · rw [h', h]
    rfl
  · rw [h', h]
    rfl

theorem bind_eq_ok {x : Action α} {f : α → Action β} {w w' : Workspace} {b : β}
    (h : (x >>= f) w = (.ok b, w')) : ∃ a w₁, x w = (.ok a, w₁) ∧ f a w₁ = (.ok b, w') := by
  rcases bind_cases x f w with ⟨a, w₁, hx, hf⟩ | ⟨e, w₁, -, hf⟩
  · exact ⟨a, w₁, hx, hf ▸ h⟩
  · rw [hf] at h
    cases (Prod.mk.inj h).1

theorem bind_eq_error {x : Action α} {f : α → Action β} {w w' : Workspace} {e : Error}
    (h : (x >>= f) w = (.error e, w')) : x w = (.error e, w') ∨
      ∃ a w₁, x w = (.ok a, w₁) ∧ f a w₁ = (.error e, w') := by
  rcases bind_cases x f w with ⟨a, w₁, hx, hf⟩ | ⟨e', w₁, hx, hf⟩
  · exact .inr ⟨a, w₁, hx, hf ▸ h⟩
  · obtain ⟨he, rfl⟩ := Prod.mk.inj (hf.symm.trans h)
    exact .inl (Except.error.inj he ▸ hx)

theorem transact_eq_ok {t : Transaction α} {w w' : Workspace} {a : α}
    (h : transact t w = (.ok a, w')) : t.run w.database = .ok (a, w'.database) := by
  cases hrun : t.run w.database with
  | error e =>
    rw [transact_of_error hrun] at h
    cases (Prod.mk.inj h).1
  | ok p =>
    obtain ⟨b, db⟩ := p
    rw [transact_of_ok hrun] at h
    obtain ⟨hb, rfl⟩ := Prod.mk.inj h
    rw [Except.ok.inj hb]

/-- An action that fails with errors of some kind only, in any workspace. -/
def FailsOnly (P : Error → Prop) (x : Action α) : Prop :=
  ∀ w, RecordStore.FailsOnly P (x w).1

theorem failsOnly_bind {P : Error → Prop} {x : Action α} {f : α → Action β} (hx : FailsOnly P x)
    (hf : ∀ a, FailsOnly P (f a)) : FailsOnly P (x >>= f) := by
  intro w
  rw [fst_bind]
  exact RecordStore.failsOnly_bind (hx w) fun a _ => hf a (x w).2

theorem failsOnly_pure {P : Error → Prop} (a : α) : FailsOnly P (pure a : Action α) :=
  fun _ => failsOnly_ok a

theorem failsOnly_transact {P : Error → Prop} {t : Transaction α} (ht : Transaction.FailsOnly P t) :
    FailsOnly P (transact t) := by
  intro w
  have hrun := ht w.database
  unfold transact
  split
  · exact failsOnly_ok _
  · next e he => exact failsOnly_error (hrun e he)

/-! ### Actions that give a result -/

theorem bind_eq_ok_iff {x : Action α} {f : α → Action β} {w w' : Workspace} {b : β} :
    (x >>= f) w = (.ok b, w') ↔ ∃ a w₁, x w = (.ok a, w₁) ∧ f a w₁ = (.ok b, w') := by
  constructor
  · exact bind_eq_ok
  · rintro ⟨a, w₁, hx, hf⟩
    exact (bind_of_ok hx).trans hf

/-- What an answer was made from. -/
theorem exists_of_map {g : α → β} {x : Action α} {w : Workspace} {b : β}
    (h : ((g <$> x) w).1 = .ok b) : ∃ a w', x w = (.ok a, w') ∧ b = g a := by
  rw [map_apply] at h
  obtain ⟨a, ha, rfl⟩ := map_eq_ok.1 h
  exact ⟨a, (x w).2, Prod.ext ha rfl, rfl⟩

theorem lift_eq_ok_iff {r : Except Error α} {w w' : Workspace} {a : α} :
    lift r w = (.ok a, w') ↔ r = .ok a ∧ w' = w := by
  rw [eq_comm (b := w)]
  exact Prod.mk.injEq r w (.ok a) w' ▸ Iff.rfl

theorem mapM_cons_eq_ok_iff {f : α → Action β} {x : α} {xs : List α} {w w' : Workspace}
    {ys : List β} : (x :: xs).mapM f w = (.ok ys, w') ↔
      ∃ y zs w₁, f x w = (.ok y, w₁) ∧ xs.mapM f w₁ = (.ok zs, w') ∧ ys = y :: zs := by
  rw [List.mapM_cons, bind_eq_ok_iff]
  constructor
  · rintro ⟨y, w₁, hy, h⟩
    obtain ⟨zs, w₂, hzs, h⟩ := bind_eq_ok_iff.1 h
    obtain ⟨hys, rfl⟩ := Prod.mk.inj h
    exact ⟨y, zs, w₁, hy, hzs, (Except.ok.inj hys).symm⟩
  · rintro ⟨y, zs, w₁, hy, hzs, rfl⟩
    exact ⟨y, w₁, hy, bind_eq_ok_iff.2 ⟨zs, w', hzs, rfl⟩⟩

theorem transact_eq_ok_iff {t : Transaction α} {w w' : Workspace} {a : α} :
    transact t w = (.ok a, w') ↔
      ∃ db, t.run w.database = .ok (a, db) ∧ w' = { w with database := db } := by
  constructor
  · intro h
    have hrun := transact_eq_ok h
    rw [transact_of_ok hrun] at h
    exact ⟨w'.database, hrun, (Prod.mk.inj h).2.symm⟩
  · rintro ⟨db, hrun, rfl⟩
    exact transact_of_ok hrun

/-! ### Checks -/

theorem lift_checkTypeName {T : String} (h : validTypeName T = true) (w : Workspace) :
    lift (checkTypeName T) w = (.ok (), w) := by
  rw [checkTypeName, if_pos h]
  rfl

theorem lift_checkTypeName_of_invalid {T : String} (h : validTypeName T = false) (w : Workspace) :
    lift (checkTypeName T) w = (.error (.invalidKey (.badTypeName T)), w) := by
  rw [checkTypeName, h]
  rfl

theorem lift_checkObject {v : Json} {r : Record} (h : v.record? = some r) (w : Workspace) :
    lift (checkObject v) w = (.ok r, w) := by
  rw [checkObject, h]
  rfl

theorem lift_checkObject_of_none {v : Json} (h : v.record? = none) (w : Workspace) :
    lift (checkObject v) w = (.error (.schemaMismatch .notObject), w) := by
  rw [checkObject, h]
  rfl

/-! ### Relations between the databases before and after -/

/-- However an action ends, the database it leaves is related to the one that it found. -/
def Relates (R : Database → Database → Prop) (x : Action α) : Prop :=
  ∀ w, R w.database (x w).2.database

section
variable {R : Database → Database → Prop}

theorem relates_of_database_eq (hr : ∀ db, R db db) {x : Action α}
    (h : ∀ w, (x w).2.database = w.database) : Relates R x := by
  intro w
  rw [h w]
  exact hr w.database

/-- The relation of a sequence follows from that of its first part alone, which may be the last, and
from those of both. -/
theorem relates_bind_of {R₁ R₂ : Database → Database → Prop} {x : Action α} {f : α → Action β}
    (hx : Relates R₁ x) (hf : ∀ a, Relates R₂ (f a)) (h₁ : ∀ {db₁ db₂}, R₁ db₁ db₂ → R db₁ db₂)
    (h₂ : ∀ {db₁ db₂ db₃}, R₁ db₁ db₂ → R₂ db₂ db₃ → R db₁ db₃) : Relates R (x >>= f) := by
  intro w
  have hw := hx w
  rcases bind_cases x f w with ⟨a, w', h, h'⟩ | ⟨e, w', h, h'⟩
  · rw [h] at hw
    rw [h']
    exact h₂ hw (hf a w')
  · rw [h] at hw
    rw [h']
    exact h₁ hw

theorem relates_bind (hc : Composes R) {x : Action α} {f : α → Action β} (hx : Relates R x)
    (hf : ∀ a, Relates R (f a)) : Relates R (x >>= f) :=
  relates_bind_of hx hf id hc.trans

theorem relates_map {g : α → β} {x : Action α} (hx : Relates R x) : Relates R (g <$> x) := by
  intro w
  rw [map_apply]
  exact hx w

theorem relates_pure (hr : ∀ db, R db db) (a : α) : Relates R (pure a : Action α) :=
  relates_of_database_eq hr fun _ => rfl

theorem relates_throw (hr : ∀ db, R db db) (e : Error) : Relates R (throw e : Action α) :=
  relates_of_database_eq hr fun _ => rfl

theorem relates_lift (hr : ∀ db, R db db) (r : Except Error α) : Relates R (lift r) :=
  relates_of_database_eq hr fun _ => rfl

theorem relates_read (hr : ∀ db, R db db) (f : Database → Except Error α) : Relates R (read f) :=
  relates_of_database_eq hr fun _ => rfl

theorem relates_onSession (hr : ∀ db, R db db) (f : Session → Session) : Relates R (onSession f) :=
  relates_of_database_eq hr fun _ => rfl

theorem relates_transact (hr : ∀ db, R db db) {t : Transaction α} (ht : Ensures R t) :
    Relates R (transact t) := by
  intro w
  cases h : t.run w.database with
  | error e =>
    rw [transact_of_error h]
    exact hr w.database
  | ok p =>
    obtain ⟨a, db⟩ := p
    rw [transact_of_ok h]
    exact ht w.database a db h

theorem relates_mapM (hc : Composes R) {f : α → Action β} (hf : ∀ a, Relates R (f a))
    (xs : List α) : Relates R (xs.mapM f) := by
  induction xs with
  | nil => exact relates_pure hc.refl []
  | cons x xs ih =>
    rw [List.mapM_cons]
    refine relates_bind hc (hf x) fun y => ?_
    exact relates_bind hc ih fun ys => relates_pure hc.refl (y :: ys)

theorem relates_keyOf (hr : ∀ db, R db db) (s : Store) (text : String) (refuse : Key.Fault → Error) :
    Relates R (s.keyOf text refuse) :=
  relates_of_database_eq hr fun _ => rfl

theorem relates_schema (hr : ∀ db, R db db) (typeName : String) :
    Relates R (Store.schema typeName) := by
  refine relates_of_database_eq hr fun w => ?_
  unfold Store.schema
  split
  · rfl
  · split <;> rfl

theorem relates_resolve (hc : Composes R) (s : Store) (text : String) :
    Relates R (s.resolve text) := by
  refine relates_bind hc (relates_keyOf hc.refl s text _) fun key => ?_
  exact relates_bind hc (relates_read hc.refl _) fun n => relates_pure hc.refl _

theorem relates_typeId? (hr : ∀ db, R db db) (typeName : String) :
    Relates R (Store.typeId? typeName) :=
  relates_read hr _

theorem relates_requireSchema (hc : Composes R) (typeName : String) :
    Relates R (Store.requireSchema typeName) := by
  refine relates_bind hc (relates_schema hc.refl typeName) fun found => ?_
  cases found with
  | none => exact relates_throw hc.refl _
  | some S => exact relates_pure hc.refl S

theorem relates_resolveTerm (hc : Composes R) (s : Store) (t : Term) :
    Relates R (s.resolveTerm t) := by
  have hid (v : FieldValue) : Relates R (s.resolveId v) := by
    cases v with
    | text x =>
      simp only [Store.resolveId]
      split
      · exact relates_bind hc (relates_keyOf hc.refl s x _) fun key => relates_pure hc.refl _
      · exact relates_pure hc.refl _
    | _ => exact relates_pure hc.refl _
  simp only [Store.resolveTerm]
  split
  · split
    · exact relates_bind hc (hid _) fun v => relates_pure hc.refl _
    · exact relates_bind hc (relates_mapM hc hid _) fun vs => relates_pure hc.refl _
  · exact relates_pure hc.refl t

/-- Queries and the coding of keys do not touch the database. -/
theorem relates_query (hc : Composes R) (s : Store)
    (typeName index : String) (q : Query) : Relates R (s.query typeName index q) :=
  relates_bind hc (relates_requireSchema hc typeName) fun _ =>
    relates_bind hc (relates_mapM hc (relates_resolveTerm hc s) q.terms) fun _ =>
      relates_read hc.refl _

theorem relates_retrieve (hc : Composes R) (s : Store)
    (text : String) : Relates R (s.retrieve text) := by
  refine relates_bind hc (relates_resolve hc s text) fun found => ?_
  cases found with
  | none => exact relates_pure hc.refl none
  | some p =>
    refine relates_bind hc (relates_lift hc.refl _) fun word => ?_
    refine relates_bind hc (relates_read hc.refl _) fun row => ?_
    cases row with
    | none => exact relates_pure hc.refl none
    | some row =>
      simp only
      split
      · exact relates_pure hc.refl _
      · exact relates_throw hc.refl _

theorem relates_decodeWord (hc : Composes R) (s : Store) (text : String) :
    Relates R (s.decodeWord text) :=
  relates_bind hc (relates_keyOf hc.refl s text _) fun _ =>
    relates_bind hc (relates_lift hc.refl _) fun _ => relates_pure hc.refl _

theorem relates_multiRetrieve (hc : Composes R) (s : Store)
    (texts : List String) : Relates R (s.multiRetrieve texts) :=
  relates_bind hc (relates_mapM hc (relates_decodeWord hc s) texts) fun _ =>
    relates_bind hc (relates_read hc.refl _) fun _ => relates_pure hc.refl _

end

/-! ### Actions that change nothing unless they succeed -/

/-- What an action relates when it fails, or succeeds with an answer that tells of no change. -/
def Guards (R : Database → Database → Prop) (idle : α → Prop) (x : Action α) : Prop :=
  ∀ w, ((∃ e, (x w).1 = .error e) ∨ ∃ a, (x w).1 = .ok a ∧ idle a) →
    R w.database (x w).2.database

section
variable {R : Database → Database → Prop} {idle : β → Prop}

theorem Relates.guards {x : Action β} (h : Relates R x) (idle : β → Prop) : Guards R idle x :=
  fun w _ => h w

/-- What comes before may do only what is related in any case. -/
theorem guards_bind (hc : Composes R) {x : Action α} {f : α → Action β} (hx : Relates R x)
    (hf : ∀ a, Guards R idle (f a)) : Guards R idle (x >>= f) := by
  intro w hw
  have hdb := hx w
  rcases bind_cases x f w with ⟨a, w', h, h'⟩ | ⟨e, w', h, h'⟩
  · rw [h] at hdb
    rw [h'] at hw ⊢
    exact hc.trans hdb (hf a w' hw)
  · rw [h] at hdb
    rw [h']
    exact hdb

/-- What comes after always succeeds and does not touch the database. -/
theorem guards_bind_of_total {prior : α → Prop} {x : Action α} {f : α → Action β}
    (hx : Guards R prior x)
    (hf : ∀ a w, ∃ b w', f a w = (.ok b, w') ∧ w'.database = w.database ∧ (idle b → prior a)) :
    Guards R idle (x >>= f) := by
  intro w hw
  rcases bind_cases x f w with ⟨a, w', h, h'⟩ | ⟨e, w', h, h'⟩
  · obtain ⟨b, w'', hb, hdb, hidle⟩ := hf a w'
    rw [h', hb] at hw ⊢
    have hprior := hx w
    rw [h] at hprior
    rw [hdb]
    refine hprior (.inr ⟨a, rfl, hidle ?_⟩)
    rcases hw with ⟨e, he⟩ | ⟨c, hc, hi⟩
    · cases he
    · rwa [Except.ok.inj hc]
  · have hprior := hx w
    rw [h] at hprior
    rw [h']
    exact hprior (.inl ⟨e, rfl⟩)

theorem guards_map {prior : α → Prop} {g : α → β} {x : Action α} (hx : Guards R prior x)
    (hg : ∀ a, idle (g a) → prior a) : Guards R idle (g <$> x) := by
  intro w hw
  rw [map_apply] at hw ⊢
  refine hx w ?_
  cases h : (x w).1 with
  | error e => exact .inl ⟨e, rfl⟩
  | ok a =>
    rw [h] at hw
    rcases hw with ⟨e, he⟩ | ⟨b, hb, hi⟩
    · cases he
    · exact .inr ⟨a, rfl, hg a ((Except.ok.inj hb).symm ▸ hi)⟩

/-- A transaction that fails changes nothing, so only its idle answers matter. -/
theorem guards_transact (hc : Composes R) {t : Transaction β}
    (ht : ∀ db b db', t db = .ok (b, db') → idle b → R db db') : Guards R idle (transact t) := by
  intro w hw
  cases h : t.run w.database with
  | error e =>
    rw [transact_of_error h]
    exact hc.refl w.database
  | ok p =>
    obtain ⟨a, db⟩ := p
    rw [transact_of_ok h] at hw ⊢
    rcases hw with ⟨e, he⟩ | ⟨b, hb, hi⟩
    · cases he
    · exact ht w.database a db h ((Except.ok.inj hb).symm ▸ hi)

end

/-! ### What holds before and after -/

/-- From a database that meets `pre` an action leaves one that meets `inv`, however it ends, and one
that meets `post` with the answer that it gives. -/
def Keeps (inv pre : Database → Prop) (x : Action α) (post : α → Database → Prop) : Prop :=
  ∀ w, pre w.database → inv (x w).2.database ∧ ∀ a, (x w).1 = .ok a → post a (x w).2.database

section
variable {inv pre : Database → Prop} {mid : α → Database → Prop} {post : β → Database → Prop}

theorem keeps_bind {x : Action α} {f : α → Action β} (hx : Keeps inv pre x mid)
    (hf : ∀ a, Keeps inv (mid a) (f a) post) : Keeps inv pre (x >>= f) post := by
  intro w hw
  obtain ⟨hinv, hmid⟩ := hx w hw
  rcases bind_cases x f w with ⟨a, w', h, h'⟩ | ⟨e, w', h, h'⟩
  · rw [h] at hmid
    rw [h']
    exact hf a w' (hmid a rfl)
  · rw [h] at hinv
    rw [h']
    exact ⟨hinv, fun _ ha => by cases ha⟩

theorem keeps_transact {t : Transaction α} (hpre : ∀ db, pre db → inv db)
    (ht : ∀ db a db', pre db → t db = .ok (a, db') → inv db' ∧ mid a db') :
    Keeps inv pre (transact t) mid := by
  intro w hw
  cases h : t.run w.database with
  | error e =>
    rw [transact_of_error h]
    exact ⟨hpre _ hw, fun _ ha => by cases ha⟩
  | ok p =>
    obtain ⟨a, db⟩ := p
    rw [transact_of_ok h]
    obtain ⟨hinv, hmid⟩ := ht w.database a db hw h
    exact ⟨hinv, fun b hb => Except.ok.inj hb ▸ hmid⟩

theorem keeps_pure (hpre : ∀ db, pre db → inv db) (a : α) (hpost : ∀ db, pre db → mid a db) :
    Keeps inv pre (pure a : Action α) mid :=
  fun _ hw => ⟨hpre _ hw, fun _ ha => Except.ok.inj ha ▸ hpost _ hw⟩

theorem keeps_throw (hpre : ∀ db, pre db → inv db) (e : Error) :
    Keeps inv pre (throw e : Action α) mid :=
  fun _ hw => ⟨hpre _ hw, fun _ ha => by cases ha⟩

theorem keeps_read (hpre : ∀ db, pre db → inv db) (f : Database → Except Error α) :
    Keeps inv pre (read f) fun a db => pre db ∧ f db = .ok a :=
  fun _ hw => ⟨hpre _ hw, fun _ ha => ⟨hw, ha⟩⟩

/-- An action that does not touch the database. -/
theorem keeps_of_database_eq {x : Action α} (hx : ∀ w, (x w).2.database = w.database)
    (hpre : ∀ db, pre db → inv db) : Keeps inv pre x fun _ db => pre db := by
  intro w hw
  rw [hx w]
  exact ⟨hpre _ hw, fun _ _ => hw⟩

end

theorem composes_eq : Composes fun db db' => db' = db where
  refl _ := rfl
  trans h h' := h'.trans h

end RecordStore.Action
