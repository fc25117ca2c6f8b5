import Mathlib
import RecordStore.Proofs.Store.Action
import RecordStore.Proofs.Store.FixedTables

/-!
An operation that fails, or that answers that there was nothing to change, leaves records, schemas,
index tables and index objects as they were.  Type numbers and record numbers are the exception: they
are used up even when the record or the schema is refused.
-/
namespace RecordStore
open Transaction RecordStore.Action Database

/-- All but the registry of types is the same. -/
structure Unchanged (db db' : Database) : Prop where
  schemas : db'.schemas = db.schemas
  records : db'.records = db.records
  tables : db'.tables = db.tables
  indexObjects : db'.indexObjects = db.indexObjects

theorem composes_unchanged : Composes Unchanged where
  refl _ := ⟨rfl, rfl, rfl, rfl⟩
  trans h h' := ⟨h'.schemas.trans h.schemas, h'.records.trans h.records,
    h'.tables.trans h.tables, h'.indexObjects.trans h.indexObjects⟩

/-- The registry of types is the same. -/
def TypesKept (db db' : Database) : Prop :=
  db'.types = db.types

theorem composes_typesKept : Composes TypesKept where
  refl _ := rfl
  trans h h' := h'.trans h

/-- The registry with a type registered, unless it was there. -/
def Registers (typeName : String) (types types' : List TypeRow) : Prop :=
  types' = types ∨
    typeName ∉ types.map (·.name) ∧ ∃ n, types' = types ++ [⟨typeName, n, 1⟩]

/-- The registry with the next record number of a type moved on by one, or as it was. -/
def Advances (typeName : String) (types types' : List TypeRow) : Prop :=
  types' = types ∨
    ∃ row ∈ types, row.name = typeName ∧ row.nextId < row.nextId + 1 ∧
      types' = types.map fun r => if r.name == typeName then { r with nextId := r.nextId + 1 } else r

/-- What an operation may do to the registry of types. -/
def RegistryChange : Operation → List TypeRow → List TypeRow → Prop
  | .createSchema typeName _ => Registers typeName
  | .create typeName _ => fun types types' =>
    ∃ registered, Registers typeName types registered ∧ Advances typeName registered types'
  | _ => fun types types' => types' = types

/-! ### Registration -/

theorem ensures_typeId_unchanged (name : String) (create : Bool) :
    Ensures Unchanged (fun db => db.typeId name create : Transaction (Option UInt32)) := by
  intro db n db' h
  rcases typeId_eq_ok h with ⟨-, rfl⟩ | ⟨-, -, id, -, -, rfl⟩
  · exact composes_unchanged.refl _
  · exact ⟨rfl, rfl, rfl, rfl⟩

theorem ensures_typeId_registers (name : String) (create : Bool) :
    Ensures (fun db db' => Registers name db.types db'.types)
      (fun db => db.typeId name create : Transaction (Option UInt32)) := by
  intro db n db' h
  rcases typeId_eq_ok h with ⟨-, rfl⟩ | ⟨hnone, -, id, -, -, rfl⟩
  · exact .inl rfl
  · exact .inr ⟨typeRow?_eq_none hnone, _, rfl⟩

theorem ensures_nextId_unchanged (name : String) :
    Ensures Unchanged (fun db => db.nextId name : Transaction UInt64) := by
  intro db n db' h
  obtain ⟨row, -, -, -, rfl⟩ := nextId_eq_ok h
  exact ⟨rfl, rfl, rfl, rfl⟩

theorem ensures_nextId_advances (name : String) :
    Ensures (fun db db' => Advances name db.types db'.types)
      (fun db => db.nextId name : Transaction UInt64) := by
  intro db n db' h
  obtain ⟨row, hrow, hmax, -, rfl⟩ := nextId_eq_ok h
  obtain ⟨hmem, hname⟩ := typeRow?_eq_some hrow
  exact .inr ⟨row, hmem, hname, lt_succ_of_ne_maxWord hmax, rfl⟩

/-! ### Transactions keep the registry -/

theorem typesKept_of_fixedKept {α : Type} {t : Transaction α} (h : Ensures FixedKept t) :
    Ensures TypesKept t :=
  fun db a db' ht => (h db a db' ht).types

theorem typesKept_publish (t : IndexedType) (s : StoreSettings) :
    Ensures TypesKept (t.publish s) :=
  fun _ _ _ h => (fixed_publish h).1

theorem typesKept_unpublish (s : StoreSettings) (n : UInt32) (typeName : String) :
    Ensures TypesKept (unpublish s n typeName) :=
  fun _ _ _ h => (fixed_unpublish h).1

/-! ### Operations -/

section
variable {R : Database → Database → Prop}

theorem relates_typeId (hr : ∀ db, R db db) {typeName : String} {create : Bool}
    (ht : Ensures R (fun db => db.typeId typeName create : Transaction (Option UInt32))) :
    Relates R (Store.typeId typeName create) := by
  intro w
  have hw := relates_transact hr ht w
  rw [Store.typeId]
  rcases bind_cases (transact fun db => db.typeId typeName create) _ w with
    ⟨n, w', h, h'⟩ | ⟨e, w', h, h'⟩
  · rw [h] at hw
    rw [h']
    cases n <;> exact hw
  · rw [h] at hw
    rw [h']
    exact hw

end

/-! ### Failures change nothing -/

theorem guards_create (s : Store) (typeName : String) (v : Json) :
    Guards Unchanged (fun _ => False) (s.create typeName v) := by
  have hc := composes_unchanged
  refine guards_bind hc (relates_lift hc.refl _) fun _ => ?_
  refine guards_bind hc (relates_lift hc.refl _) fun r => ?_
  refine guards_bind hc (relates_typeId hc.refl (ensures_typeId_unchanged typeName true)) fun n => ?_
  refine guards_bind hc (relates_transact hc.refl (ensures_nextId_unchanged typeName)) fun id => ?_
  have hadd : Guards Unchanged (fun _ => False)
      (transact (addRecord s.settings n ⟨typeName, id⟩ r)) :=
    guards_transact hc fun _ _ _ _ h => h.elim
  exact guards_bind_of_total hadd fun _ w => ⟨_, w, rfl, rfl, fun h => h⟩

theorem guards_createSchema (s : Store) (typeName : String) (given : Schema) :
    Guards Unchanged (fun _ => False) (s.createSchema typeName given) := by
  have hc := composes_unchanged
  refine guards_bind hc (relates_lift hc.refl _) fun _ => ?_
  refine guards_bind hc (relates_schema hc.refl typeName) fun found => ?_
  cases found with
  | some known =>
    simp only
    split
    · exact (relates_pure hc.refl ()).guards _
    · exact (relates_throw hc.refl _).guards _
  | none =>
    refine guards_bind hc
      (relates_typeId hc.refl (ensures_typeId_unchanged typeName true)) fun n => ?_
    have hpublish : Guards Unchanged (fun _ => False)
        (transact (IndexedType.publish ⟨n, typeName, given⟩ s.settings)) :=
      guards_transact hc fun _ _ _ _ h => h.elim
    exact guards_bind_of_total hpublish fun _ w => ⟨(), _, rfl, rfl, fun h => h⟩

theorem guards_dropSchema (s : Store) (typeName : String) :
    Guards Unchanged (· = false) (s.dropSchema typeName) := by
  have hc := composes_unchanged
  refine guards_bind hc (relates_typeId? hc.refl typeName) fun found => ?_
  cases found with
  | none => exact (relates_pure hc.refl false).guards _
  | some n =>
    have hdrop : Guards Unchanged (· = false) (transact (unpublish s.settings n typeName)) := by
      refine guards_transact hc fun db b db' h hb => ?_
      obtain ⟨schema, -, ⟨-, -, rfl⟩ | ⟨rfl, -⟩⟩ := unpublish_eq_ok h
      · exact hc.refl _
      · cases hb
    exact guards_bind_of_total hdrop fun b w => ⟨b, _, rfl, rfl, fun h => h⟩

/-- Operations on one record run a transaction once the key is resolved. -/
theorem guards_resolved (s : Store) (text : String) {t : Key → UInt32 → Transaction Bool}
    (ht : ∀ key n db db', t key n db = .ok (false, db') → db' = db) :
    Guards Unchanged (· = false) (do
      match ← s.resolve text with
      | none => return false
      | some (key, n) => transact (t key n)) := by
  have hc := composes_unchanged
  refine guards_bind hc (relates_resolve hc s text) fun found => ?_
  cases found with
  | none => exact (relates_pure hc.refl false).guards _
  | some p =>
    refine guards_transact hc fun db b db' h hb => ?_
    obtain rfl := hb
    obtain rfl := ht p.1 p.2 db db' h
    exact hc.refl _

theorem guards_update (s : Store) (text : String) (v : Json) :
    Guards Unchanged (· = false) (s.update text v) := by
  refine guards_bind composes_unchanged (relates_lift composes_unchanged.refl _) fun r => ?_
  refine guards_resolved s text fun key n db db' h => ?_
  obtain ⟨schema, m, -, -, -, ⟨-, rfl, -⟩ | ⟨h, -⟩⟩ := replaceRecord_eq_ok h
  · rfl
  · cases h

theorem guards_delete (s : Store) (text : String) :
    Guards Unchanged (· = false) (s.delete text) := by
  refine guards_resolved s text fun key n db db' h => ?_
  obtain ⟨schema, m, -, -, ⟨-, rfl, -⟩ | ⟨h, -⟩⟩ := deleteRecord_eq_ok h
  · rfl
  · cases h

theorem guards_setQuarantined (s : Store) (text : String) (quarantined : Bool) :
    Guards Unchanged (· = false) (s.setQuarantined text quarantined) := by
  refine guards_resolved s text fun key n db db' h => ?_
  obtain ⟨schema, m, -, -, ⟨-, rfl, -⟩ | ⟨h, -⟩⟩ := moveRecord_eq_ok h
  · rfl
  · cases h

theorem guards_clear (s : Store) (typeName : String) :
    Guards Unchanged (fun _ => False) (s.clear typeName) := by
  have hc := composes_unchanged
  refine guards_bind hc (relates_typeId? hc.refl typeName) fun found => ?_
  cases found with
  | none => exact (relates_pure hc.refl 0).guards _
  | some n => exact guards_transact hc fun _ _ _ _ h => h.elim

/-! ### The registry -/

theorem registers_createSchema (s : Store) (typeName : String) (given : Schema) :
    Relates (fun db db' => Registers typeName db.types db'.types)
      (s.createSchema typeName given) := by
  have hc := composes_typesKept
  have hr (db : Database) : Registers typeName db.types db.types := .inl rfl
  -- only the registration of the type may change the registry
  have hkept {α : Type} {x : Action α} (hx : Relates TypesKept x) :
      Relates (fun db db' => Registers typeName db.types db'.types) x :=
    fun w => .inl (hx w)
  refine relates_bind_of (relates_lift hc.refl _) (fun _ => ?_) (fun h => .inl h)
    (fun {db₁ db₂ db₃} h h' => (h : db₂.types = db₁.types) ▸ h')
  refine relates_bind_of (relates_schema hc.refl typeName) (fun found => ?_) (fun h => .inl h)
    (fun {db₁ db₂ db₃} h h' => (h : db₂.types = db₁.types) ▸ h')
  cases found with
  | some known =>
    simp only
    split
    · exact hkept (relates_pure hc.refl ())
    · exact hkept (relates_throw hc.refl _)
  | none =>
    refine relates_bind_of (relates_typeId hr (ensures_typeId_registers typeName true))
      (fun n => ?_) id
      (fun {db₁ db₂ db₃} h h' => (h' : db₃.types = db₂.types) ▸ h)
    exact relates_bind hc (relates_transact hc.refl (typesKept_publish _ s.settings)) fun _ =>
      relates_onSession hc.refl _

theorem advances_create (s : Store) (typeName : String) (v : Json) :
    Relates (fun db db' => RegistryChange (.create typeName v) db.types db'.types)
      (s.create typeName v) := by
  have hc := composes_typesKept
  have hr (db : Database) : Registers typeName db.types db.types := .inl rfl
  have ha (db : Database) : Advances typeName db.types db.types := .inl rfl
  refine relates_bind_of (relates_lift hc.refl _) (fun _ => ?_)
    (fun {db₁ db₂} h => ⟨db₁.types, .inl rfl, .inl h⟩)
    (fun {db₁ db₂ db₃} h h' => (h : db₂.types = db₁.types) ▸ h')
  refine relates_bind_of (relates_lift hc.refl _) (fun r => ?_)
    (fun {db₁ db₂} h => ⟨db₁.types, .inl rfl, .inl h⟩)
    (fun {db₁ db₂ db₃} h h' => (h : db₂.types = db₁.types) ▸ h')
  refine relates_bind_of (relates_typeId hr (ensures_typeId_registers typeName true))
    (fun n => ?_) (fun {db₁ db₂} h => ⟨db₂.types, h, .inl rfl⟩)
    (fun {db₁ db₂ db₃} h h' => ⟨db₂.types, h, h'⟩)
  refine relates_bind_of (relates_transact ha (ensures_nextId_advances typeName))
    (fun id => ?_) (fun h => h) (fun {db₁ db₂ db₃} h h' => (h' : db₃.types = db₂.types) ▸ h)
  have hadd := typesKept_of_fixedKept (fixedKept_addRecord s.settings n ⟨typeName, id⟩ r)
  exact relates_bind hc (relates_transact hc.refl hadd) fun _ => relates_pure hc.refl _

theorem typesKept_resolved (s : Store) (text : String) {t : Key → UInt32 → Transaction Bool}
    (ht : ∀ key n, Ensures TypesKept (t key n)) :
    Relates TypesKept (do
      match ← s.resolve text with
      | none => return false
      | some (key, n) => transact (t key n)) := by
  have hc := composes_typesKept
  refine relates_bind hc (relates_resolve hc s text) fun found => ?_
  cases found with
  | none => exact relates_pure hc.refl false
  | some p => exact relates_transact hc.refl (ht p.1 p.2)

theorem registryChange_perform (s : Store) (o : Operation) :
    Relates (fun db db' => RegistryChange o db.types db'.types) (s.perform o) := by
  have hc := composes_typesKept
  cases o with
  | createSchema typeName given =>
    refine relates_bind_of (registers_createSchema s typeName given)
      (fun _ => relates_pure hc.refl Answer.done) id
      (fun {db₁ db₂ db₃} h h' => (h' : db₃.types = db₂.types) ▸ h)
  | dropSchema typeName =>
    refine relates_map (relates_bind hc (relates_typeId? hc.refl typeName) fun found => ?_)
    cases found with
    | none => exact relates_pure hc.refl false
    | some n =>
      refine relates_bind hc (relates_transact hc.refl (typesKept_unpublish s.settings n typeName))
        fun b => ?_
      exact relates_bind hc (relates_onSession hc.refl _) fun _ => relates_pure hc.refl b
  | schema typeName => exact relates_map (relates_schema hc.refl typeName)
  | create typeName v => exact relates_map (advances_create s typeName v)
  | retrieve text => exact relates_map (relates_retrieve hc s text)
  | multiRetrieve texts => exact relates_map (relates_multiRetrieve hc s texts)
  | update text v =>
    refine relates_map (relates_bind hc (relates_lift hc.refl _) fun r => ?_)
    exact typesKept_resolved s text fun key n =>
      typesKept_of_fixedKept (fixedKept_replaceRecord s.settings n key r)
  | delete text =>
    exact relates_map (typesKept_resolved s text fun key n =>
      typesKept_of_fixedKept (fixedKept_deleteRecord s.settings n key))
  | quarantine text =>
    exact relates_map (typesKept_resolved s text fun key n =>
      typesKept_of_fixedKept (fixedKept_moveRecord s.settings n key true))
  | release text =>
    exact relates_map (typesKept_resolved s text fun key n =>
      typesKept_of_fixedKept (fixedKept_moveRecord s.settings n key false))
  | clear typeName =>
    refine relates_map (relates_bind hc (relates_typeId? hc.refl typeName) fun found => ?_)
    cases found with
    | none => exact relates_pure hc.refl 0
    | some n =>
      have hclear := typesKept_of_fixedKept (fixedKept_clearType s.settings n typeName)
      exact relates_transact hc.refl hclear
  | query typeName index q => exact relates_map (relates_query hc s typeName index q)
  | scan typeName direction token pageSize includeQuarantined =>
    exact relates_map (relates_read hc.refl _)
  | encodeKey key => exact relates_map (relates_of_database_eq hc.refl fun _ => rfl)
  | decodeKey text => exact relates_map (relates_keyOf hc.refl s text _)

theorem guards_perform (s : Store) (o : Operation) :
    Guards Unchanged (· = .changed false) (s.perform o) := by
  have hc := composes_unchanged
  have hchanged {x : Action Bool} (hx : Guards Unchanged (· = false) x) :
      Guards Unchanged (· = Answer.changed false) (Answer.changed <$> x) :=
    guards_map hx fun b h => by simpa using h
  cases o with
  | createSchema typeName given =>
    exact guards_bind_of_total (guards_createSchema s typeName given) fun _ w =>
      ⟨_, w, rfl, rfl, by simp⟩
  | dropSchema typeName => exact hchanged (guards_dropSchema s typeName)
  | schema typeName => exact (relates_map (relates_schema hc.refl typeName)).guards _
  | create typeName v => exact guards_map (guards_create s typeName v) (by simp)
  | retrieve text => exact (relates_map (relates_retrieve hc s text)).guards _
  | multiRetrieve texts => exact (relates_map (relates_multiRetrieve hc s texts)).guards _
  | update text v => exact hchanged (guards_update s text v)
  | delete text => exact hchanged (guards_delete s text)
  | quarantine text => exact hchanged (guards_setQuarantined s text true)
  | release text => exact hchanged (guards_setQuarantined s text false)
  | clear typeName => exact guards_map (guards_clear s typeName) (by simp)
  | query typeName index q => exact (relates_map (relates_query hc s typeName index q)).guards _
  | scan typeName direction token pageSize includeQuarantined =>
    exact (relates_map (relates_read hc.refl _)).guards _
  | encodeKey key => exact (relates_map (relates_of_database_eq hc.refl fun _ => rfl)).guards _
  | decodeKey text => exact (relates_map (relates_keyOf hc.refl s text _)).guards _

/-! ### Remembered schemas -/

theorem Session.lookup_remember_of_ne (s : Session) {typeName other : String} (schema : Schema)
    (h : other ≠ typeName) :
    (s.remember typeName schema).schemas.lookup other = s.schemas.lookup other := by
  have hfilter : (s.schemas.filter (·.1 != typeName)).lookup other = s.schemas.lookup other := by
    induction s.schemas with
    | nil => rfl
    | cons m ms ih =>
      by_cases hm : m.1 = typeName
      · have hne : (other == m.1) = false := by
          rw [hm]
          simpa using h
        rw [List.filter_cons_of_neg (by simpa using hm), ih, List.lookup_cons, hne]
      · rw [List.filter_cons_of_pos (by simpa using hm), List.lookup_cons, List.lookup_cons, ih]
  have hne : (other == typeName) = false := by simpa using h
  rw [remember, List.lookup_cons, hne]
  exact hfilter

/-- A schema is remembered when it is found in the database. -/
theorem session_schema (typeName : String) (w : Workspace) :
    (Store.schema typeName w).2.session = w.session ∨
      ∃ known, (Store.schema typeName w).1 = .ok (some known) ∧
        (Store.schema typeName w).2.session = w.session.remember typeName known := by
  unfold Store.schema
  split
  · exact .inl rfl
  · split
    · exact .inl rfl
    · exact .inl rfl
    · next known db h => exact .inr ⟨known, rfl, rfl⟩

theorem session_transact {α : Type} (t : Transaction α) (w : Workspace) :
    (transact t w).2.session = w.session := by
  unfold transact
  split <;> rfl

theorem session_typeId (typeName : String) (create : Bool) (w : Workspace) :
    (Store.typeId typeName create w).2.session = w.session := by
  have ht := session_transact (fun db => db.typeId typeName create) w
  rw [Store.typeId]
  rcases bind_cases (transact fun db => db.typeId typeName create) _ w with
    ⟨n, w', h, h'⟩ | ⟨e, w', h, h'⟩
  · rw [h] at ht
    rw [h']
    cases n <;> exact ht
  · rw [h] at ht
    rw [h']
    exact ht

/-- An action that forgets nothing and remembers nothing when it fails. -/
def SessionKeptOnError {α : Type} (x : Action α) : Prop :=
  ∀ w e w', x w = (.error e, w') → w'.session = w.session

theorem sessionKeptOnError_bind {α β : Type} {x : Action α} {f : α → Action β}
    (hx : ∀ w, (x w).2.session = w.session) (hf : ∀ a, SessionKeptOnError (f a)) :
    SessionKeptOnError (x >>= f) := by
  intro w e w' h
  have hw := hx w
  rcases bind_cases x f w with ⟨a, w₁, h₁, h₂⟩ | ⟨e₁, w₁, h₁, h₂⟩
  · rw [h₁] at hw
    rw [h₂] at h
    exact (hf a w₁ e w' h).trans hw
  · rw [h₁] at hw
    rw [h₂] at h
    rw [← (Prod.mk.inj h).2]
    exact hw

/-- When a schema was looked up, only the one that was found is remembered anew. -/
theorem lookup_of_schema_ne {typeName other : String} {given : Schema} {w w' : Workspace}
    {found : Except Error (Option Schema)} (h : Store.schema typeName w = (found, w'))
    (hne : found ≠ .ok (some given)) (hl : w'.session.schemas.lookup other = some given) :
    w.session.schemas.lookup other = some given := by
  have hsession := session_schema typeName w
  rw [h] at hsession
  rcases hsession with hsame | ⟨known, rfl, hremembered⟩
  · rwa [hsame] at hl
  · rw [hremembered] at hl
    by_cases ho : other = typeName
    · rw [ho, Session.lookup_remember] at hl
      exact absurd (congrArg Except.ok hl) hne
    · rwa [Session.lookup_remember_of_ne _ _ ho] at hl

/-- A schema that could not be published is not remembered for any type. -/
theorem lookup_of_createSchema_error {s : Store} {typeName : String} {given : Schema}
    {w w' : Workspace} {e : Error} (h : s.createSchema typeName given w = (.error e, w'))
    {other : String} (hl : w'.session.schemas.lookup other = some given) :
    w.session.schemas.lookup other = some given := by
  have hpublish : SessionKeptOnError (do
      let n ← Store.typeId typeName true
      transact (IndexedType.publish ⟨n, typeName, given⟩ s.settings)
      onSession (·.remember typeName given)) :=
    sessionKeptOnError_bind (session_typeId typeName true) fun n =>
      sessionKeptOnError_bind (session_transact _) fun _ w e w' h => by cases (Prod.mk.inj h).1
  unfold Store.createSchema at h
  rcases bind_cases (lift (checkTypeName typeName)) _ w with ⟨_, w₁, h₁, h₂⟩ | ⟨_, w₁, h₁, h₂⟩
  all_goals
    obtain rfl := (Prod.mk.inj h₁).2
    rw [h₂] at h
  · rcases bind_cases (Store.schema typeName) _ w with ⟨found, w₂, h₃, h₄⟩ | ⟨_, w₂, h₃, h₄⟩
    all_goals rw [h₄] at h
    · cases found with
      | some known =>
        simp only at h
        split at h
        · cases (Prod.mk.inj h).1
        · next hne =>
          -- what is remembered is the schema that stands in the way
          obtain rfl := (Prod.mk.inj h).2
          exact lookup_of_schema_ne h₃ (fun heq => hne (Option.some.inj (Except.ok.inj heq))) hl
      | none =>
        rw [hpublish w₂ e w' h] at hl
        exact lookup_of_schema_ne h₃ nofun hl
    · obtain rfl := (Prod.mk.inj h).2
      exact lookup_of_schema_ne h₃ nofun hl
  · obtain rfl := (Prod.mk.inj h).2
    exact hl

/-- What is left when an operation has run, whether it has failed or not. -/
structure Atomic (o : Operation) (w : Workspace) (r : Except Error Answer) (w' : Workspace) :
    Prop where
  /-- After an error, or an answer that nothing has changed, the contents are as before. -/
  contents : (∃ e, r = .error e) ∨ r = .ok (.changed false) → Unchanged w.database w'.database
  registry : RegistryChange o w.database.types w'.database.types
  /-- A schema that could not be published is not remembered. -/
  remembered : ∀ typeName given, o = .createSchema typeName given → (∃ e, r = .error e) →
    ∀ other, w'.session.schemas.lookup other = some given →
      w.session.schemas.lookup other = some given

/-- Every operation takes effect as a whole or not at all, from any contents whatever. -/
theorem perform_atomic (s : Store) (o : Operation) (w : Workspace) :
    Atomic o w (s.perform o w).1 (s.perform o w).2 where
  contents h := by
    refine guards_perform s o w ?_
    rcases h with h | h
    · exact .inl h
    · exact .inr ⟨_, h, rfl⟩
  registry := registryChange_perform s o w
  remembered := by
    rintro typeName given rfl ⟨e, he⟩ other hl
    have hperform : s.perform (.createSchema typeName given) w =
        ((s.createSchema typeName given >>= fun _ => pure Answer.done : Action Answer) w) := rfl
    rw [hperform] at he hl
    rcases bind_cases (s.createSchema typeName given) (fun _ => pure Answer.done) w with
      ⟨_, w', h, h'⟩ | ⟨e', w', h, h'⟩
    · rw [h'] at he
      cases he
    · rw [h'] at hl
      exact lookup_of_createSchema_error h hl

end RecordStore
