import Mathlib
import RecordStore.Proofs.Key.Cache
import RecordStore.Proofs.Schema.RoundTrip
import RecordStore.Proofs.Store.Atomicity

/-!
What a store remembers makes no difference while it is faithful: while the schemas that it remembers
are those that the database holds, and its keys are those that its codec derives.  Two stores with one
database then answer alike, and both stay faithful by what they do themselves.  Only a schema that
another store drops makes a memory unfaithful.
-/
namespace RecordStore
open Database Transaction RecordStore.Action

/-! ### Memories -/

/-- What the session of a store remembers is what the database and the codec say. -/
structure Faithful (s : Store) (w : Workspace) : Prop where
  schemas : ∀ typeName S, w.session.schemas.lookup typeName = some S →
    ∃ text, w.database.schemaText? typeName = some text ∧ Schema.parse text = .ok S
  keys : s.codec.Derives w.session.keys

/-- A store that has done nothing remembers nothing. -/
theorem faithful_fresh (s : Store) (db : Database) : Faithful s ⟨db, .fresh⟩ where
  schemas _ _ h := by cases h
  keys := KeyCodec.Derives.nil s.codec

/-- Two sessions on one database, each of which is faithful. -/
structure Agrees (s : Store) (w w' : Workspace) : Prop where
  database : w.database = w'.database
  left : Faithful s w
  right : Faithful s w'

/-- Schemas of types stay, except for types whose schemas may be dropped. -/
def SchemasStay (dropped : String → Prop) (db db' : Database) : Prop :=
  ∀ typeName text, ¬ dropped typeName → db.schemaText? typeName = some text →
    db'.schemaText? typeName = some text

/-- An action that does not depend on what a faithful session remembers.  It looks up the schemas of
some types only, and takes none away but those of others. -/
structure Blind (s : Store) (consulted dropped : String → Prop) {α : Type} (x : Action α) :
    Prop where
  answers : ∀ w w', Agrees s w w' → (x w).1 = (x w').1
  agrees : ∀ w w', Agrees s w w' → Agrees s (x w).2 (x w').2
  stay : ∀ w, SchemasStay dropped w.database (x w).2.database
  known : ∀ w typeName, ((x w).2.session.schemas.lookup typeName).isSome = true →
    (w.session.schemas.lookup typeName).isSome = true ∨ consulted typeName

theorem schemasStay_of_eq {dropped : String → Prop} {db db' : Database}
    (h : db'.schemas = db.schemas) : SchemasStay dropped db db' := by
  intro typeName text _ ht
  rw [schemaText?, h]
  exact ht

theorem Agrees.of_eq {s : Store} {w w' v v' : Workspace} (h : Agrees s w w')
    (hdatabase : v.database = v'.database) (hv : v.session = w.session)
    (hv' : v'.session = w'.session) (hstay : SchemasStay (fun _ => False) w.database v.database) :
    Agrees s v v' := by
  refine ⟨hdatabase, ⟨fun T S hl => ?_, hv ▸ h.left.keys⟩, ⟨fun T S hl => ?_, hv' ▸ h.right.keys⟩⟩
  · rw [hv] at hl
    obtain ⟨text, htext, hparse⟩ := h.left.schemas T S hl
    exact ⟨text, hstay T text id htext, hparse⟩
  · rw [hv'] at hl
    obtain ⟨text, htext, hparse⟩ := h.right.schemas T S hl
    rw [← h.database] at htext
    rw [← hdatabase]
    exact ⟨text, hstay T text id htext, hparse⟩

section
variable {s : Store} {consulted dropped : String → Prop} {α β : Type}

/-! ### Sequences of actions -/

theorem blind_bind {x : Action α} {f : α → Action β} (hx : Blind s consulted dropped x)
    (hf : ∀ a, Blind s consulted dropped (f a)) : Blind s consulted dropped (x >>= f) := by
  -- two sequences end at their first parts both, or go on with the same result
  have hboth (w w' : Workspace) (h : Agrees s w w') :
      (∃ a w₁ w₁', Agrees s w₁ w₁' ∧ (x >>= f) w = f a w₁ ∧ (x >>= f) w' = f a w₁') ∨
        ∃ e w₁ w₁', Agrees s w₁ w₁' ∧ (x >>= f) w = (.error e, w₁) ∧
          (x >>= f) w' = (.error e, w₁') := by
    have hanswers := hx.answers w w' h
    have hagrees := hx.agrees w w' h
    rcases bind_cases x f w with ⟨a, w₁, h₁, h₂⟩ | ⟨e, w₁, h₁, h₂⟩ <;>
      rcases bind_cases x f w' with ⟨a', w₁', h₁', h₂'⟩ | ⟨e', w₁', h₁', h₂'⟩ <;>
      rw [h₁, h₁'] at hanswers hagrees
    · obtain rfl := Except.ok.inj hanswers
      exact .inl ⟨a, w₁, w₁', hagrees, h₂, h₂'⟩
    · cases hanswers
    · cases hanswers
    · obtain rfl := Except.error.inj hanswers
      exact .inr ⟨e, w₁, w₁', hagrees, h₂, h₂'⟩
  refine ⟨fun w w' h => ?_, fun w w' h => ?_, fun w => ?_, fun w T hT => ?_⟩
  · rcases hboth w w' h with ⟨a, w₁, w₁', hagrees, h₁, h₁'⟩ | ⟨e, w₁, w₁', -, h₁, h₁'⟩
    · rw [h₁, h₁']
      exact (hf a).answers w₁ w₁' hagrees
    · rw [h₁, h₁']
  · rcases hboth w w' h with ⟨a, w₁, w₁', hagrees, h₁, h₁'⟩ | ⟨e, w₁, w₁', hagrees, h₁, h₁'⟩
    · rw [h₁, h₁']
      exact (hf a).agrees w₁ w₁' hagrees
    · rw [h₁, h₁']
      exact hagrees
  · have hstay := hx.stay w
    rcases bind_cases x f w with ⟨a, w₁, h₁, h₂⟩ | ⟨e, w₁, h₁, h₂⟩
    · rw [h₁] at hstay
      rw [h₂]
      exact fun T text hT ht => (hf a).stay w₁ T text hT (hstay T text hT ht)
    · rw [h₁] at hstay
      rw [h₂]
      exact hstay
  · have hknown := hx.known w T
    rcases bind_cases x f w with ⟨a, w₁, h₁, h₂⟩ | ⟨e, w₁, h₁, h₂⟩
    · rw [h₁] at hknown
      rw [h₂] at hT
      exact ((hf a).known w₁ T hT).elim hknown .inr
    · rw [h₁] at hknown
      rw [h₂] at hT
      exact hknown hT

theorem blind_map {g : α → β} {x : Action α} (hx : Blind s consulted dropped x) :
    Blind s consulted dropped (g <$> x) := by
  refine ⟨fun w w' h => ?_, fun w w' h => ?_, fun w => ?_, fun w T hT => ?_⟩
  · rw [map_apply, map_apply, hx.answers w w' h]
  · rw [map_apply, map_apply]
    exact hx.agrees w w' h
  · rw [map_apply]
    exact hx.stay w
  · rw [map_apply] at hT
    exact hx.known w T hT

/-- An action that reads the database, if anything, and changes nothing. -/
theorem blind_read (f : Database → Except Error α) : Blind s consulted dropped (read f) :=
  ⟨fun _ _ h => congrArg f h.database, fun _ _ h => h, fun _ => schemasStay_of_eq rfl,
    fun _ _ hT => .inl hT⟩

theorem blind_lift (r : Except Error α) : Blind s consulted dropped (lift r) :=
  blind_read fun _ => r

theorem blind_pure (a : α) : Blind s consulted dropped (pure a) :=
  blind_read fun _ => .ok a

theorem blind_throw (e : Error) : Blind s consulted dropped (throw e : Action α) :=
  blind_read fun _ => .error e

theorem blind_mapM {f : α → Action β} (hf : ∀ a, Blind s consulted dropped (f a)) (xs : List α) :
    Blind s consulted dropped (xs.mapM f) := by
  induction xs with
  | nil => exact blind_pure []
  | cons x xs ih =>
    rw [List.mapM_cons]
    exact blind_bind (hf x) fun y => blind_bind ih fun ys => blind_pure (y :: ys)

/-- A transaction knows nothing of sessions. -/
theorem blind_transact {t : Transaction α}
    (ht : Ensures (fun db db' => db'.schemas = db.schemas) t) :
    Blind s consulted dropped (transact t) := by
  have hschemas (w : Workspace) : (transact t w).2.database.schemas = w.database.schemas :=
    relates_transact (R := fun db db' => db'.schemas = db.schemas) (fun _ => rfl) ht w
  have hresult (w w' : Workspace) (h : w.database = w'.database) :
      (transact t w).1 = (transact t w').1 ∧
        (transact t w).2.database = (transact t w').2.database := by
    unfold transact
    rw [h]
    cases t.run w'.database with
    | error e => exact ⟨rfl, h⟩
    | ok p => exact ⟨rfl, rfl⟩
  refine ⟨fun w w' h => (hresult w w' h.database).1, fun w w' h => ?_,
    fun w => schemasStay_of_eq (hschemas w), fun w T hT => ?_⟩
  · exact h.of_eq (hresult w w' h.database).2 (session_transact t w) (session_transact t w')
      (schemasStay_of_eq (hschemas w))
  · rw [session_transact] at hT
    exact .inl hT

/-! ### Keys and types -/

theorem blind_keyOf (text : String) (refuse : Key.Fault → Error) :
    Blind s consulted dropped (s.keyOf text refuse) := by
  refine ⟨fun w w' h => ?_, fun w w' h => ?_, fun w => schemasStay_of_eq rfl, fun w T hT => .inl hT⟩
  · have hleft := (h.left.keys.decode text).1
    have hright := (h.right.keys.decode text).1
    exact congrArg (Except.mapError refuse) (hleft.trans hright.symm)
  · exact ⟨h.database, ⟨h.left.schemas, (h.left.keys.decode text).2⟩,
      ⟨h.right.schemas, (h.right.keys.decode text).2⟩⟩

theorem blind_encodeKey (key : Key) : Blind s consulted dropped (s.encodeKey key) := by
  refine ⟨fun w w' h => ?_, fun w w' h => ?_, fun w => schemasStay_of_eq rfl, fun w T hT => .inl hT⟩
  · have hleft := (h.left.keys.encode key).1
    have hright := (h.right.keys.encode key).1
    exact congrArg (Except.mapError Error.invalidKey) (hleft.trans hright.symm)
  · exact ⟨h.database, ⟨h.left.schemas, (h.left.keys.encode key).2⟩,
      ⟨h.right.schemas, (h.right.keys.encode key).2⟩⟩

theorem blind_typeId? (typeName : String) : Blind s consulted dropped (Store.typeId? typeName) :=
  blind_read _

theorem blind_typeId (typeName : String) (create : Bool) :
    Blind s consulted dropped (Store.typeId typeName create) := by
  refine blind_bind (blind_transact fun db n db' h => ?_) fun found => ?_
  · exact (ensures_typeId_unchanged typeName create db n db' h).schemas
  · cases found with
    | none => exact blind_throw _
    | some n => exact blind_pure n

theorem blind_resolve (text : String) : Blind s consulted dropped (s.resolve text) :=
  blind_bind (blind_keyOf text _) fun key =>
    blind_bind (blind_typeId? key.typeName) fun _ => blind_pure _

/-! ### Schemas -/

theorem Session.lookup_remember_of_eq (session : Session) {typeName other : String} {S S' : Schema}
    (h : (session.remember typeName S).schemas.lookup other = some S') :
    other = typeName ∧ S' = S ∨ session.schemas.lookup other = some S' := by
  by_cases hother : other = typeName
  · subst hother
    rw [Session.lookup_remember] at h
    exact .inl ⟨rfl, (Option.some.inj h).symm⟩
  · rw [Session.lookup_remember_of_ne session S hother] at h
    exact .inr h

theorem Session.lookup_forget_of_eq (session : Session) {typeName other : String} {S : Schema}
    (h : (session.forget typeName).schemas.lookup other = some S) :
    other ≠ typeName ∧ session.schemas.lookup other = some S := by
  have hother : other ≠ typeName := by
    rintro rfl
    rw [Session.lookup_forget] at h
    cases h
  -- forgetting is remembering without the new entry
  have hsame := Session.lookup_remember_of_ne session S hother
  rw [Session.remember, List.lookup_cons, beq_false_of_ne hother] at hsame
  exact ⟨hother, hsame ▸ h⟩

/-- The schema that a faithful session finds is that of the database, remembered or not. -/
theorem Faithful.schema_eq {w : Workspace} (h : Faithful s w) (typeName : String) :
    (Store.schema typeName w).1 = ((storedSchema typeName).run w.database).map (·.1) := by
  unfold Store.schema
  cases hl : w.session.schemas.lookup typeName with
  | some S =>
    obtain ⟨text, htext, hparse⟩ := h.schemas typeName S hl
    show Except.ok (some S) = (storedSchema typeName w.database).map _
    rw [storedSchema, htext]
    simp only [hparse]
    rfl
  | none =>
    simp only
    cases (storedSchema typeName).run w.database with
    | error e => rfl
    | ok p =>
      obtain ⟨found, db⟩ := p
      cases found <;> rfl

/-- A faithful session can take up a schema that the database holds. -/
theorem Faithful.remember {w : Workspace} (h : Faithful s w) {typeName text : String} {S : Schema}
    (htext : w.database.schemaText? typeName = some text) (hparse : Schema.parse text = .ok S) :
    Faithful s { w with session := w.session.remember typeName S } where
  schemas T S' hl := by
    rcases w.session.lookup_remember_of_eq hl with ⟨rfl, rfl⟩ | hl
    · exact ⟨text, htext, hparse⟩
    · exact h.schemas T S' hl
  keys := h.keys

/-- Looking up a schema leaves a faithful session faithful. -/
theorem Faithful.schema {w : Workspace} (h : Faithful s w) (typeName : String) :
    Faithful s (Store.schema typeName w).2 := by
  have hsession := session_schema typeName w
  have hdatabase : (Store.schema typeName w).2.database = w.database :=
    relates_schema (R := fun db db' => db' = db) (fun _ => rfl) typeName w
  have hschema := h.schema_eq typeName
  generalize Store.schema typeName w = result at hsession hdatabase hschema
  obtain ⟨r, db, session⟩ := result
  simp only at hsession hdatabase hschema
  subst hdatabase
  rcases hsession with rfl | ⟨S, rfl, rfl⟩
  · exact ⟨h.schemas, h.keys⟩
  · obtain ⟨⟨found, db⟩, hrun, hfound⟩ := map_eq_ok.1 hschema.symm
    obtain ⟨-, ⟨rfl, -⟩ | ⟨text, S', rfl, htext, hparse⟩⟩ := storedSchema_eq_ok hrun
    · cases hfound
    · obtain rfl := Option.some.inj hfound
      exact h.remember htext hparse

theorem blind_schema {typeName : String} (hconsulted : consulted typeName) :
    Blind s consulted dropped (Store.schema typeName) := by
  have hdatabase : Relates (fun db db' => db' = db) (Store.schema typeName) :=
    relates_schema (R := fun db db' => db' = db) (fun _ => rfl) typeName
  refine ⟨fun w w' h => ?_, fun w w' h => ?_, fun w => schemasStay_of_eq ?_, fun w T hT => ?_⟩
  · rw [h.left.schema_eq, h.right.schema_eq, h.database]
  · exact ⟨by rw [hdatabase w, hdatabase w', h.database], h.left.schema typeName,
      h.right.schema typeName⟩
  · rw [hdatabase w]
  · rcases session_schema typeName w with hsame | ⟨S, -, hnew⟩
    · rw [hsame] at hT
      exact .inl hT
    · obtain ⟨S', hS'⟩ := Option.isSome_iff_exists.1 hT
      rw [hnew] at hS'
      rcases w.session.lookup_remember_of_eq hS' with ⟨rfl, -⟩ | hold
      · exact .inr hconsulted
      · exact .inl (by rw [hold]; rfl)

theorem schemaText?_append_of_some {db db' : Database} {T text : String} {rows : List SchemaRow}
    (h : db'.schemas = db.schemas ++ rows) (ht : db.schemaText? T = some text) :
    db'.schemaText? T = some text := by
  obtain ⟨row, hrow, rfl⟩ := Option.map_eq_some_iff.1 ht
  rw [schemaText?, h, List.find?_append, hrow, Option.some_or, Option.map_some]

/-- A transaction after which the session is brought up to date.  Where it fails nothing changes, and
where it commits the new session must fit the new database. -/
theorem blind_transact_bind {t : Transaction α} {k : α → Action β} {g : α → β}
    {f : Session → Session} (hk : ∀ a w, k a w = (.ok (g a), ⟨w.database, f w.session⟩))
    (hfaithful : ∀ {db db' : Database} {a : α} {session : Session}, t.run db = .ok (a, db') →
      Faithful s ⟨db, session⟩ → Faithful s ⟨db', f session⟩)
    (hstay : ∀ {db db' : Database} {a : α}, t.run db = .ok (a, db') → SchemasStay dropped db db')
    (hknown : ∀ (session : Session) (T : String), ((f session).schemas.lookup T).isSome = true →
      (session.schemas.lookup T).isSome = true ∨ consulted T) :
    Blind s consulted dropped (transact t >>= k) := by
  have hresult (db : Database) :
      (∃ e, ∀ session, (transact t >>= k : Action β) ⟨db, session⟩ = (.error e, ⟨db, session⟩)) ∨
        ∃ a db', t.run db = .ok (a, db') ∧
          ∀ session, (transact t >>= k : Action β) ⟨db, session⟩ =
            (.ok (g a), ⟨db', f session⟩) := by
    cases h : t.run db with
    | error e => exact .inl ⟨e, fun session => bind_of_error (transact_of_error h)⟩
    | ok p =>
      obtain ⟨a, db'⟩ := p
      exact .inr ⟨a, db', rfl, fun session =>
        (Action.bind_of_ok (transact_of_ok h)).trans (hk a _)⟩
  refine ⟨?_, ?_, ?_, ?_⟩
  · rintro ⟨db, session⟩ ⟨-, session'⟩ ⟨rfl, -, -⟩
    rcases hresult db with ⟨e, h⟩ | ⟨a, db', -, h⟩
    · rw [h, h]
    · rw [h, h]
  · rintro ⟨db, session⟩ ⟨-, session'⟩ ⟨rfl, hleft, hright⟩
    rcases hresult db with ⟨e, h⟩ | ⟨a, db', hrun, h⟩
    · rw [h, h]
      exact ⟨rfl, hleft, hright⟩
    · rw [h, h]
      exact ⟨rfl, hfaithful hrun hleft, hfaithful hrun hright⟩
  · rintro ⟨db, session⟩
    rcases hresult db with ⟨e, h⟩ | ⟨a, db', hrun, h⟩
    · rw [h]
      exact schemasStay_of_eq rfl
    · rw [h]
      exact hstay hrun
  · rintro ⟨db, session⟩ T hT
    rcases hresult db with ⟨e, h⟩ | ⟨a, db', -, h⟩
    · rw [h] at hT
      exact .inl hT
    · rw [h] at hT
      exact hknown session T hT

/-- A schema is taken up only when it has been published. -/
theorem blind_publish {typeName : String} (hconsulted : consulted typeName) (n : UInt32)
    (S : Schema) : Blind s consulted dropped (do
      transact (IndexedType.publish ⟨n, typeName, S⟩ s.settings)
      onSession (·.remember typeName S)) := by
  refine blind_transact_bind (g := id) (f := (·.remember typeName S)) (fun _ _ => rfl) ?_ ?_
    fun session T hT => ?_
  · intro db db' _ session hrun h
    obtain ⟨-, hnone, hschemas⟩ := fixed_publish hrun
    have hgrown : Faithful s ⟨db', session⟩ := by
      refine ⟨fun T S' hl => ?_, h.keys⟩
      obtain ⟨text, htext, hparse⟩ := h.schemas T S' hl
      exact ⟨text, schemaText?_append_of_some hschemas htext, hparse⟩
    refine hgrown.remember ?_ (Schema.parse_text S)
    rw [schemaText?, Option.map_eq_none_iff] at hnone
    rw [schemaText?, hschemas, List.find?_append, hnone]
    simp
  · intro db db' _ hrun T text _ ht
    exact schemaText?_append_of_some (fixed_publish hrun).2.2 ht
  · obtain ⟨S', hS'⟩ := Option.isSome_iff_exists.1 hT
    rcases session.lookup_remember_of_eq hS' with ⟨rfl, -⟩ | hold
    · exact .inr hconsulted
    · exact .inl (by rw [hold]; rfl)

theorem blind_createSchema {typeName : String} (hconsulted : consulted typeName) (S : Schema) :
    Blind s consulted dropped (s.createSchema typeName S) := by
  refine blind_bind (blind_lift _) fun _ => blind_bind (blind_schema hconsulted) fun found => ?_
  cases found with
  | some known =>
    simp only
    split
    · exact blind_pure ()
    · exact blind_throw _
  | none => exact blind_bind (blind_typeId typeName true) fun n => blind_publish hconsulted n S

theorem schemaText?_filter_of_ne {db db' : Database} {T typeName text : String} (hT : T ≠ typeName)
    (h : db'.schemas = db.schemas.filter (·.typeName != typeName))
    (ht : db.schemaText? T = some text) : db'.schemaText? T = some text := by
  rw [schemaText?, h, List.find?_filter, ← ht, schemaText?]
  congr 2
  funext row
  by_cases hrow : row.typeName = T
  · simp [hrow, hT]
  · simp [hrow]

/-- Whoever drops a schema forgets it. -/
theorem blind_unpublish {typeName : String} (hdropped : dropped typeName) (n : UInt32) :
    Blind s consulted dropped (do
      let b ← transact (unpublish s.settings n typeName)
      onSession (·.forget typeName)
      return b) := by
  refine blind_transact_bind (g := id) (f := (·.forget typeName)) (fun _ _ => rfl) ?_ ?_
    fun session T hT => ?_
  · intro db db' _ session hrun h
    refine ⟨fun T S hl => ?_, h.keys⟩
    obtain ⟨hT, hold⟩ := session.lookup_forget_of_eq hl
    obtain ⟨text, htext, hparse⟩ := h.schemas T S hold
    exact ⟨text, schemaText?_filter_of_ne hT (fixed_unpublish hrun).2 htext, hparse⟩
  · intro db db' _ hrun T text hT ht
    refine schemaText?_filter_of_ne ?_ (fixed_unpublish hrun).2 ht
    rintro rfl
    exact hT hdropped
  · obtain ⟨S, hS⟩ := Option.isSome_iff_exists.1 hT
    exact .inl (by rw [(session.lookup_forget_of_eq hS).2]; rfl)

theorem blind_dropSchema {typeName : String} (hdropped : dropped typeName) :
    Blind s consulted dropped (s.dropSchema typeName) := by
  refine blind_bind (blind_typeId? typeName) fun found => ?_
  cases found with
  | none => exact blind_pure false
  | some n => exact blind_unpublish hdropped n

/-! ### Records and queries -/

theorem blind_of_fixedKept {t : Transaction α} (h : Ensures FixedKept t) :
    Blind s consulted dropped (transact t) :=
  blind_transact fun db a db' ht => (h db a db' ht).schemas

theorem blind_create (typeName : String) (v : Json) :
    Blind s consulted dropped (s.create typeName v) := by
  refine blind_bind (blind_lift _) fun _ => blind_bind (blind_lift _) fun r => ?_
  refine blind_bind (blind_typeId typeName true) fun n => ?_
  refine blind_bind (blind_transact fun db id db' h => ?_) fun id => ?_
  · exact (ensures_nextId_unchanged typeName db id db' h).schemas
  · have hadd := fixedKept_addRecord s.settings n ⟨typeName, id⟩ r
    exact blind_bind (blind_of_fixedKept hadd) fun _ => blind_pure _

theorem blind_retrieve (text : String) : Blind s consulted dropped (s.retrieve text) := by
  refine blind_bind (blind_resolve text) fun found => ?_
  cases found with
  | none => exact blind_pure none
  | some p =>
    refine blind_bind (blind_lift _) fun word => blind_bind (blind_read _) fun row => ?_
    cases row with
    | none => exact blind_pure none
    | some row =>
      simp only
      split
      · exact blind_pure _
      · exact blind_throw _

theorem blind_multiRetrieve (texts : List String) :
    Blind s consulted dropped (s.multiRetrieve texts) := by
  refine blind_bind (blind_mapM (fun text => ?_) texts) fun wanted =>
    blind_bind (blind_read _) fun found => blind_pure _
  exact blind_bind (blind_keyOf text _) fun key => blind_bind (blind_lift _) fun word => blind_pure _

/-- A transaction on the record of a key. -/
theorem blind_resolved (text : String) {t : Key → UInt32 → Transaction Bool}
    (ht : ∀ key n, Ensures FixedKept (t key n)) : Blind s consulted dropped (do
      match ← s.resolve text with
      | none => return false
      | some (key, n) => transact (t key n)) := by
  refine blind_bind (blind_resolve text) fun found => ?_
  cases found with
  | none => exact blind_pure false
  | some p => exact blind_of_fixedKept (ht p.1 p.2)

theorem blind_update (text : String) (v : Json) :
    Blind s consulted dropped (s.update text v) :=
  blind_bind (blind_lift _) fun r =>
    blind_resolved text fun key n => fixedKept_replaceRecord s.settings n key r

theorem blind_clear (typeName : String) : Blind s consulted dropped (s.clear typeName) := by
  refine blind_bind (blind_typeId? typeName) fun found => ?_
  cases found with
  | none => exact blind_pure 0
  | some n => exact blind_of_fixedKept (fixedKept_clearType s.settings n typeName)

theorem blind_resolveTerm (t : Term) : Blind s consulted dropped (s.resolveTerm t) := by
  have hid (v : FieldValue) : Blind s consulted dropped (s.resolveId v) := by
    cases v with
    | text x =>
      simp only [Store.resolveId]
      split
      · exact blind_bind (blind_keyOf x _) fun key => blind_pure _
      · exact blind_pure _
    | _ => exact blind_pure _
  unfold Store.resolveTerm
  split
  · split
    · exact blind_bind (hid _) fun v => blind_pure _
    · exact blind_bind (blind_mapM hid _) fun vs => blind_pure _
  · exact blind_pure t

theorem blind_requireSchema {typeName : String} (hconsulted : consulted typeName) :
    Blind s consulted dropped (Store.requireSchema typeName) := by
  refine blind_bind (blind_schema hconsulted) fun found => ?_
  cases found with
  | none => exact blind_throw _
  | some S => exact blind_pure S

theorem blind_query {typeName : String} (hconsulted : consulted typeName) (index : String)
    (q : Query) : Blind s consulted dropped (s.query typeName index q) :=
  blind_bind (blind_requireSchema hconsulted) fun _ =>
    blind_bind (blind_mapM blind_resolveTerm q.terms) fun _ => blind_read _

end

/-! ### All operations -/

/-- Whether an operation looks up the schema of a type in what the store remembers. -/
def Operation.Consults : Operation → String → Prop
  | .createSchema typeName _ | .schema typeName | .query typeName _ _ => (· = typeName)
  | _ => fun _ => False

/-- Whether an operation may take away the schema of a type. -/
def Operation.Drops : Operation → String → Prop
  | .dropSchema typeName => (· = typeName)
  | _ => fun _ => False

theorem blind_perform (s : Store) (o : Operation) :
    Blind s o.Consults o.Drops (s.perform o) := by
  cases o with
  | createSchema typeName S =>
    have hconsults : (Operation.createSchema typeName S).Consults typeName := rfl
    exact blind_bind (blind_createSchema hconsults S) fun _ => blind_pure _
  | dropSchema typeName => exact blind_map (blind_dropSchema rfl)
  | schema typeName => exact blind_map (blind_schema rfl)
  | create typeName v => exact blind_map (blind_create typeName v)
  | retrieve text => exact blind_map (blind_retrieve text)
  | multiRetrieve texts => exact blind_map (blind_multiRetrieve texts)
  | update text v => exact blind_map (blind_update text v)
  | delete text =>
    exact blind_map (blind_resolved text fun key n => fixedKept_deleteRecord s.settings n key)
  | quarantine text =>
    exact blind_map (blind_resolved text fun key n => fixedKept_moveRecord s.settings n key true)
  | release text =>
    exact blind_map (blind_resolved text fun key n => fixedKept_moveRecord s.settings n key false)
  | clear typeName => exact blind_map (blind_clear typeName)
  | query typeName index q =>
    have hconsults : (Operation.query typeName index q).Consults typeName := rfl
    exact blind_map (blind_query hconsults index q)
  | scan typeName direction token pageSize includeQuarantined => exact blind_map (blind_read _)
  | encodeKey key => exact blind_map (blind_encodeKey key)
  | decodeKey text => exact blind_map (blind_keyOf text _)

/-- Whatever a store does by itself, its memory stays faithful. -/
theorem Faithful.perform {s : Store} {w : Workspace} (h : Faithful s w) (o : Operation) :
    Faithful s (s.perform o w).2 :=
  ((blind_perform s o).agrees w w ⟨rfl, h, h⟩).left

end RecordStore
