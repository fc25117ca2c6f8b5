import Mathlib
import RecordStore.Store.Deployment
import RecordStore.Proofs.Store.Action
import RecordStore.Proofs.Store.SchemaSteps

/-!
The databases that stores of one stem reach.  What a store remembers may be out of date, since other
stores work on the same database; whatever it remembers, every operation leaves a coherent database
coherent, when it succeeds and when it fails.
-/
namespace RecordStore
open Database Transaction RecordStore.Action

/-- Whether all records that an operation brings along are of a kind. -/
def Operation.Admits (accepted : Record → Prop) : Operation → Prop
  | .create _ v => ∀ r, v.record? = some r → accepted r
  | .update _ v => ∀ r, v.record? = some r → accepted r
  | _ => True

/-- The key of one record that an operation is to change, as a store reads it. -/
def Operation.key? (s : Store) (session : Session) : Operation → Option Key
  | .update text _ | .delete text | .quarantine text | .release text =>
    (s.codec.decode text session.keys).1.toOption
  | _ => none

/-- The type that an operation is to change: the one that it names, or the one of its key. -/
def Operation.type? (s : Store) (session : Session) : Operation → Option String
  | .createSchema T _ | .dropSchema T | .create T _ | .clear T => some T
  | o => (o.key? s session).map (·.typeName)

/-- The databases that operations reach from an empty one.  Each operation is performed by any store
of the stem in any session. -/
inductive Reached (stem : String) (accepted : Record → Prop) : Database → Prop
  | empty : Reached stem accepted .empty
  | perform {db : Database} (s : Store) (session : Session) (o : Operation) :
    Reached stem accepted db → s.settings.stem = stem → o.Admits accepted →
      Reached stem accepted (s.perform o ⟨db, session⟩).2.database

/-- Stores that share a database reach it, in whichever order they act. -/
theorem reached_run {accepted : Record → Prop} {ops : List (Nat × Operation)} :
    ∀ {d : Deployment}, Reached d.store.settings.stem accepted d.database →
      (∀ p ∈ ops, p.2.Admits accepted) →
      Reached d.store.settings.stem accepted (d.run ops).2.database := by
  induction ops with
  | nil => intro d hd _; exact hd
  | cons p ops ih =>
    intro d hd hops
    obtain ⟨i, o⟩ := p
    have hstep : Reached d.store.settings.stem accepted (d.perform i o).2.database :=
      .perform d.store (d.sessions.getD i .fresh) o hd rfl (hops (i, o) (by simp))
    exact ih (d := (d.perform i o).2) hstep fun p hp => hops p (by simp [hp])

/-! ### What every transaction keeps -/

/-- A property of databases that each transaction of a store keeps, when it is run as the operations
run it: for a type that is registered under the number, with a record that is accepted. -/
structure KeptBy (s : Store) (accepted : Record → Prop) (inv : Database → Prop) : Prop where
  typeId : ∀ {T create found db db'}, inv db → db.typeId T create = .ok (found, db') → inv db'
  nextId : ∀ {T id db db'}, inv db → db.nextId T = .ok (id, db') → inv db'
  /-- A record is added under the number that was taken for it. -/
  addRecord : ∀ {T n id r db db₁ db₂ u}, inv db → db.typeId? T = .ok (some n) →
    db.nextId T = .ok (id, db₁) → accepted r →
    RecordStore.addRecord s.settings n ⟨T, id⟩ r db₁ = .ok (u, db₂) → inv db₂
  replaceRecord : ∀ {key n r db db' b}, inv db → db.typeId? key.typeName = .ok (some n) →
    accepted r → RecordStore.replaceRecord s.settings n key r db = .ok (b, db') → inv db'
  deleteRecord : ∀ {key n db db' b}, inv db → db.typeId? key.typeName = .ok (some n) →
    RecordStore.deleteRecord s.settings n key db = .ok (b, db') → inv db'
  moveRecord : ∀ {key n quarantined db db' b}, inv db → db.typeId? key.typeName = .ok (some n) →
    RecordStore.moveRecord s.settings n key quarantined db = .ok (b, db') → inv db'
  clearType : ∀ {T n db db' k}, inv db → db.typeId? T = .ok (some n) →
    RecordStore.clearType s.settings n T db = .ok (k, db') → inv db'
  publish : ∀ {T n S db db' u}, inv db → validTypeName T = true → db.typeId? T = .ok (some n) →
    IndexedType.publish ⟨n, T, S⟩ s.settings db = .ok (u, db') → inv db'
  unpublish : ∀ {T n db db' b}, inv db → db.typeId? T = .ok (some n) →
    RecordStore.unpublish s.settings n T db = .ok (b, db') → inv db'

/-- A property of databases that the transactions for some types keep. -/
structure KeptFor (s : Store) (accepted : Record → Prop) (concerned : String → Prop)
    (inv : Database → Prop) : Prop where
  typeId : ∀ {T create found db db'}, concerned T → inv db → db.typeId T create = .ok (found, db') →
    inv db'
  nextId : ∀ {T id db db'}, concerned T → inv db → db.nextId T = .ok (id, db') → inv db'
  addRecord : ∀ {T n id r db db₁ db₂ u}, concerned T → inv db → db.typeId? T = .ok (some n) →
    db.nextId T = .ok (id, db₁) → accepted r →
    RecordStore.addRecord s.settings n ⟨T, id⟩ r db₁ = .ok (u, db₂) → inv db₂
  replaceRecord : ∀ {key n r db db' b}, concerned key.typeName → inv db →
    db.typeId? key.typeName = .ok (some n) → accepted r →
    RecordStore.replaceRecord s.settings n key r db = .ok (b, db') → inv db'
  deleteRecord : ∀ {key n db db' b}, concerned key.typeName → inv db →
    db.typeId? key.typeName = .ok (some n) →
    RecordStore.deleteRecord s.settings n key db = .ok (b, db') → inv db'
  moveRecord : ∀ {key n quarantined db db' b}, concerned key.typeName → inv db →
    db.typeId? key.typeName = .ok (some n) →
    RecordStore.moveRecord s.settings n key quarantined db = .ok (b, db') → inv db'
  clearType : ∀ {T n db db' k}, concerned T → inv db → db.typeId? T = .ok (some n) →
    RecordStore.clearType s.settings n T db = .ok (k, db') → inv db'
  publish : ∀ {T n S db db' u}, concerned T → inv db → validTypeName T = true →
    db.typeId? T = .ok (some n) → IndexedType.publish ⟨n, T, S⟩ s.settings db = .ok (u, db') → inv db'
  unpublish : ∀ {T n db db' b}, concerned T → inv db → db.typeId? T = .ok (some n) →
    RecordStore.unpublish s.settings n T db = .ok (b, db') → inv db'

/-- What is kept for every type is kept for some. -/
theorem KeptBy.keptFor {s : Store} {accepted : Record → Prop} {inv : Database → Prop}
    (h : KeptBy s accepted inv) (concerned : String → Prop) : KeptFor s accepted concerned inv where
  typeId _ := h.typeId
  nextId _ := h.nextId
  addRecord _ := h.addRecord
  replaceRecord _ := h.replaceRecord
  deleteRecord _ := h.deleteRecord
  moveRecord _ := h.moveRecord
  clearType _ := h.clearType
  publish _ := h.publish
  unpublish _ := h.unpublish

section
variable {accepted : Record → Prop} {inv : Database → Prop}

/-! ### Parts of operations -/

theorem keeps_typeId? (T : String) :
    Keeps inv inv (Store.typeId? T) fun found db => inv db ∧ db.typeId? T = .ok found :=
  keeps_read (fun _ h => h) _

/-- What a text is resolved to: the key that the store reads and the number of its type. -/
theorem resolve_eq_ok {s : Store} {text : String} {w w' : Workspace} {found : Option (Key × UInt32)}
    (h : s.resolve text w = (.ok found, w')) : w'.database = w.database ∧ ∀ key n,
      found = some (key, n) → (s.codec.decode text w.session.keys).1 = .ok key ∧
        w.database.typeId? key.typeName = .ok (some n) := by
  obtain ⟨key, w₁, hkey, h₁⟩ := Action.bind_eq_ok h
  obtain ⟨number, w₂, hnumber, h₂⟩ := Action.bind_eq_ok h₁
  have hread : ((s.codec.decode text w.session.keys).1).mapError Error.invalidKey = .ok key :=
    congrArg Prod.fst hkey
  have hsame : w.database = w₁.database := congrArg (·.2.database) hkey
  have hsame' : w₁ = w₂ := congrArg Prod.snd hnumber
  have hnumber' : w₁.database.typeId? key.typeName = .ok number := congrArg Prod.fst hnumber
  obtain ⟨hfound, rfl⟩ := Prod.mk.inj h₂
  refine ⟨by rw [hsame, hsame'], fun key' n he => ?_⟩
  obtain rfl := Except.ok.inj hfound
  obtain ⟨m, rfl, hm⟩ := Option.map_eq_some_iff.1 he
  obtain ⟨rfl, rfl⟩ := Prod.mk.inj hm
  refine ⟨?_, hsame ▸ hnumber'⟩
  cases hdecode : (s.codec.decode text w.session.keys).1 with
  | error f => rw [hdecode] at hread; cases hread
  | ok key' => rw [hdecode] at hread; rw [Except.ok.inj hread]

/-- A transaction on the record of a text is run if the text is read as a key of a registered type.
Otherwise the database stays as it is. -/
theorem resolved_cases (s : Store) (text : String) (t : Key → UInt32 → Transaction Bool)
    (w : Workspace) :
    let x : Action Bool := do
      match ← s.resolve text with
      | none => return false
      | some (key, n) => transact (t key n)
    (x w).2.database = w.database ∨ ∃ key n b, (s.codec.decode text w.session.keys).1 = .ok key ∧
      w.database.typeId? key.typeName = .ok (some n) ∧
      t key n w.database = .ok (b, (x w).2.database) := by
  intro x
  have hsame : (s.resolve text w).2.database = w.database :=
    relates_resolve composes_eq s text w
  rcases bind_cases (s.resolve text) _ w with ⟨found, w', hresolve, hx⟩ | ⟨e, w', hresolve, hx⟩
  · obtain ⟨hdatabase, hfound⟩ := resolve_eq_ok hresolve
    rw [show x w = _ from hx]
    cases found with
    | none => exact .inl hdatabase
    | some p =>
      obtain ⟨hread, hn⟩ := hfound p.1 p.2 rfl
      simp only
      cases hrun : (t p.1 p.2).run w'.database with
      | error e =>
        rw [transact_of_error hrun]
        exact .inl hdatabase
      | ok q =>
        obtain ⟨b, db⟩ := q
        rw [transact_of_ok hrun]
        rw [hdatabase] at hrun
        exact .inr ⟨p.1, p.2, b, hread, hn, hrun⟩
  · rw [hresolve] at hsame
    rw [show x w = _ from hx]
    exact .inl hsame

/-- Operations that only read. -/
theorem keeps_reading {α : Type} {x : Action α} (hx : ∀ w, (x w).2.database = w.database) :
    Keeps inv inv x fun _ _ => True :=
  fun w hw => ⟨(keeps_of_database_eq hx (fun _ h => h) w hw).1, fun _ _ => trivial⟩

/-- What does not depend on the database is known from there on. -/
theorem keeps_of_and {α : Type} {p : Prop} {x : Action α} {post : α → Database → Prop}
    (h : p → Keeps inv inv x post) : Keeps inv (fun db => inv db ∧ p) x post :=
  fun w hw => h hw.2 w hw.1

theorem record?_of_checkObject {v : Json} {r : Record} (h : checkObject v = .ok r) :
    v.record? = some r := by
  unfold checkObject at h
  split at h
  · next r' hr' => rw [hr', Except.ok.inj h]
  · cases h

namespace KeptFor
variable {s : Store} {concerned : String → Prop} (h : KeptFor s accepted concerned inv) {T : String}
include h

theorem keeps_typeId (hT : concerned T) (create : Bool) :
    Keeps inv inv (Store.typeId T create) fun n db => inv db ∧ db.typeId? T = .ok (some n) := by
  have hregister : Keeps inv inv (transact fun db => db.typeId T create)
      fun found db => inv db ∧ db.typeId? T = .ok found := by
    refine keeps_transact (fun _ h => h) fun db found db' hdb hstep => ?_
    have hinv := h.typeId hT hdb hstep
    exact ⟨hinv, hinv, typeId?_of_typeId hstep⟩
  refine keeps_bind hregister fun found => ?_
  cases found with
  | none => exact keeps_throw (fun _ h => h.1) _
  | some n => exact keeps_pure (fun _ h => h.1) n fun _ h => h

theorem keeps_createSchema (hT : concerned T) (S : Schema) :
    Keeps inv inv (s.createSchema T S) fun _ _ => True := by
  have hcheck : Keeps inv inv (lift (checkTypeName T)) fun _ db => inv db ∧ validTypeName T = true := by
    refine fun w hw => ⟨hw, fun u hu => ⟨hw, ?_⟩⟩
    by_contra hbad
    have hu' : checkTypeName T = .ok u := hu
    rw [checkTypeName, if_neg hbad] at hu'
    cases hu'
  have hschema : Keeps inv inv (Store.schema T) fun _ db => inv db :=
    keeps_of_database_eq (relates_schema (R := fun db db' => db' = db) (fun _ => rfl) T) fun _ h => h
  refine keeps_bind hcheck fun _ => keeps_of_and fun hvalid => ?_
  refine keeps_bind hschema fun found => ?_
  cases found with
  | some known =>
    simp only
    split
    · exact keeps_pure (fun _ h => h) () fun _ _ => trivial
    · exact keeps_throw (fun _ h => h) _
  | none =>
    refine keeps_bind (h.keeps_typeId hT true) fun n => ?_
    have hpublish : Keeps inv (fun db => inv db ∧ db.typeId? T = .ok (some n))
        (transact (IndexedType.publish ⟨n, T, S⟩ s.settings)) fun _ db => inv db := by
      refine keeps_transact (fun _ h => h.1) fun db _ db' hdb hstep => ?_
      have hinv := h.publish hT hdb.1 hvalid hdb.2 hstep
      exact ⟨hinv, hinv⟩
    exact keeps_bind hpublish fun _ => keeps_reading fun _ => rfl

theorem keeps_create (hT : concerned T) {v : Json} (hv : ∀ r, v.record? = some r → accepted r) :
    Keeps inv inv (s.create T v) fun _ _ => True := by
  have hcheck : Keeps inv inv (lift (checkTypeName T)) fun _ db => inv db :=
    keeps_of_database_eq (fun _ => rfl) fun _ h => h
  have hobject : Keeps inv inv (lift (checkObject v)) fun r db => inv db ∧ accepted r :=
    fun w hw => ⟨hw, fun r hr => ⟨hw, hv r (record?_of_checkObject hr)⟩⟩
  refine keeps_bind hcheck fun _ => keeps_bind hobject fun r => ?_
  have hnumber : Keeps inv (fun db => inv db ∧ accepted r) (Store.typeId T true)
      fun n db => (inv db ∧ db.typeId? T = .ok (some n)) ∧ accepted r := by
    intro w hw
    obtain ⟨hinv, hpost⟩ := h.keeps_typeId hT true w hw.1
    exact ⟨hinv, fun n hn => ⟨hpost n hn, hw.2⟩⟩
  refine keeps_bind hnumber fun n => ?_
  -- the record number comes from the database in front of the record
  have hnext : Keeps inv (fun db => (inv db ∧ db.typeId? T = .ok (some n)) ∧ accepted r)
      (transact fun db => db.nextId T) fun id db => inv db ∧ accepted r ∧
        ∃ db₀, inv db₀ ∧ db₀.typeId? T = .ok (some n) ∧ db₀.nextId T = .ok (id, db) := by
    refine keeps_transact (fun _ h => h.1.1) fun db id db' hdb hstep => ?_
    have hinv := h.nextId hT hdb.1.1 hstep
    exact ⟨hinv, hinv, hdb.2, db, hdb.1.1, hdb.1.2, hstep⟩
  refine keeps_bind hnext fun id => ?_
  have hadd : Keeps inv (fun db => inv db ∧ accepted r ∧
        ∃ db₀, inv db₀ ∧ db₀.typeId? T = .ok (some n) ∧ db₀.nextId T = .ok (id, db))
      (transact (RecordStore.addRecord s.settings n ⟨T, id⟩ r)) fun _ db => inv db := by
    refine keeps_transact (fun _ h => h.1) fun db _ db' hdb hstep => ?_
    obtain ⟨-, hr, db₀, hdb₀, hn, hnext⟩ := hdb
    have hinv := h.addRecord hT hdb₀ hn hnext hr hstep
    exact ⟨hinv, hinv⟩
  exact keeps_bind hadd fun _ => keeps_pure (fun _ h => h) _ fun _ _ => trivial

theorem keeps_dropSchema (hT : concerned T) : Keeps inv inv (s.dropSchema T) fun _ _ => True := by
  refine keeps_bind (keeps_typeId? T) fun found => ?_
  cases found with
  | none => exact keeps_pure (fun _ h => h.1) false fun _ _ => trivial
  | some n =>
    have hdrop : Keeps inv (fun db => inv db ∧ db.typeId? T = .ok (some n))
        (transact (RecordStore.unpublish s.settings n T)) fun _ db => inv db := by
      refine keeps_transact (fun _ h => h.1) fun db b db' hdb hstep => ?_
      have hinv := h.unpublish hT hdb.1 hdb.2 hstep
      exact ⟨hinv, hinv⟩
    refine keeps_bind hdrop fun b => ?_
    have hforget : Keeps inv inv (onSession (·.forget T)) fun _ db => inv db :=
      keeps_of_database_eq (fun _ => rfl) fun _ h => h
    exact keeps_bind hforget fun _ => keeps_pure (fun _ h => h) b fun _ _ => trivial

theorem keeps_clear (hT : concerned T) : Keeps inv inv (s.clear T) fun _ _ => True := by
  refine keeps_bind (keeps_typeId? T) fun found => ?_
  cases found with
  | none => exact keeps_pure (fun _ h => h.1) 0 fun _ _ => trivial
  | some n =>
    exact keeps_transact (fun _ h => h.1) fun db k db' hdb hstep =>
      ⟨h.clearType hT hdb.1 hdb.2 hstep, trivial⟩

/-! ### Operations on one record -/

variable {w : Workspace} {text : String}

theorem database_update (hw : inv w.database) {v : Json}
    (hkey : ∀ key, (s.codec.decode text w.session.keys).1 = .ok key → concerned key.typeName)
    (hv : ∀ r, v.record? = some r → accepted r) : inv (s.update text v w).2.database := by
  cases hr : v.record? with
  | none =>
    rw [show s.update text v w = _ from Action.bind_of_error (lift_checkObject_of_none hr w)]
    exact hw
  | some r =>
    rw [show s.update text v w = _ from Action.bind_of_ok (lift_checkObject hr w)]
    rcases resolved_cases s text (fun key n => RecordStore.replaceRecord s.settings n key r) w with
      hsame | ⟨key, n, b, hread, hn, hstep⟩
    · exact hsame.symm ▸ hw
    · exact h.replaceRecord (hkey key hread) hw hn (hv r hr) hstep

theorem database_delete (hw : inv w.database)
    (hkey : ∀ key, (s.codec.decode text w.session.keys).1 = .ok key → concerned key.typeName) :
    inv (s.delete text w).2.database := by
  rcases resolved_cases s text (fun key n => RecordStore.deleteRecord s.settings n key) w with
    hsame | ⟨key, n, b, hread, hn, hstep⟩
  · exact (show (s.delete text w).2.database = _ from hsame) ▸ hw
  · exact h.deleteRecord (hkey key hread) hw hn hstep

theorem database_setQuarantined (hw : inv w.database) (quarantined : Bool)
    (hkey : ∀ key, (s.codec.decode text w.session.keys).1 = .ok key → concerned key.typeName) :
    inv (s.setQuarantined text quarantined w).2.database := by
  rcases resolved_cases s text (fun key n => RecordStore.moveRecord s.settings n key quarantined) w
    with hsame | ⟨key, n, b, hread, hn, hstep⟩
  · exact (show (s.setQuarantined text quarantined w).2.database = _ from hsame) ▸ hw
  · exact h.moveRecord (hkey key hread) hw hn hstep

/-! ### All operations -/

/-- An operation keeps what the transactions for its type keep. -/
theorem perform {o : Operation} (ho : o.Admits accepted) (hw : inv w.database)
    (htype : ∀ T, o.type? s w.session = some T → concerned T) :
    inv (s.perform o w).2.database := by
  have hmap {α : Type} {x : Action α} (g : α → Answer) (hx : inv (x w).2.database) :
      inv ((g <$> x) w).2.database := by
    rw [map_apply]
    exact hx
  have hkept {α : Type} {x : Action α} (g : α → Answer) (hx : Keeps inv inv x fun _ _ => True) :
      inv ((g <$> x) w).2.database :=
    hmap g (hx w hw).1
  have hreading {α : Type} {x : Action α} (g : α → Answer)
      (hx : ∀ w, (x w).2.database = w.database) : inv ((g <$> x) w).2.database :=
    hkept g (keeps_reading hx)
  have hkey (text : String) (htext : ∀ T,
      ((s.codec.decode text w.session.keys).1.toOption.map (·.typeName)) = some T → concerned T)
      (key : Key) (hread : (s.codec.decode text w.session.keys).1 = .ok key) :
      concerned key.typeName :=
    htext key.typeName (by rw [hread]; rfl)
  cases o with
  | createSchema T S => exact hkept (fun _ => .done) (h.keeps_createSchema (htype T rfl) S)
  | dropSchema T => exact hkept _ (h.keeps_dropSchema (htype T rfl))
  | schema T => exact hreading _ (relates_schema (R := fun db db' => db' = db) (fun _ => rfl) T)
  | create T v => exact hkept _ (h.keeps_create (htype T rfl) ho)
  | retrieve text => exact hreading _ (relates_retrieve composes_eq s text)
  | multiRetrieve texts => exact hreading _ (relates_multiRetrieve composes_eq s texts)
  | update text v => exact hmap _ (h.database_update hw (hkey text htype) ho)
  | delete text => exact hmap _ (h.database_delete hw (hkey text htype))
  | quarantine text => exact hmap _ (h.database_setQuarantined hw true (hkey text htype))
  | release text => exact hmap _ (h.database_setQuarantined hw false (hkey text htype))
  | clear T => exact hkept _ (h.keeps_clear (htype T rfl))
  | query T index q => exact hreading _ (relates_query composes_eq s T index q)
  | scan T direction token pageSize includeQuarantined => exact hreading _ fun _ => rfl
  | encodeKey key => exact hreading _ fun _ => rfl
  | decodeKey text => exact hreading _ fun _ => rfl

end KeptFor

theorem KeptBy.perform {s : Store} (h : KeptBy s accepted inv) {o : Operation}
    (ho : o.Admits accepted) {w : Workspace} (hw : inv w.database) :
    inv (s.perform o w).2.database :=
  (h.keptFor fun _ => True).perform ho hw fun _ _ => trivial

/-- What holds of the empty database and is kept by every store of a stem holds of all databases that
they reach. -/
theorem Reached.induct {stem : String} (hempty : inv .empty)
    (hkept : ∀ s : Store, s.settings.stem = stem → KeptBy s accepted inv) {db : Database}
    (h : Reached stem accepted db) : inv db := by
  induction h with
  | empty => exact hempty
  | perform s session o _ hs ho ih => exact (hkept s hs).perform (w := ⟨_, session⟩) ho ih

end

/-! ### Coherence -/

section
variable {stem : String} {accepted : Record → Prop}
  (haccepted : ∀ r, accepted r → (Json.object r).WellFormed)
include haccepted

theorem keptBy_coherent {s : Store} (hs : s.settings.stem = stem) :
    KeptBy s accepted (Coherent stem accepted) where
  typeId h hstep := h.typeId hstep
  nextId h hstep := h.nextId hstep
  addRecord {T} _ _ _ _ _ _ _ h hn hnext hr hstep :=
    (h.nextId hnext).addRecord haccepted hs hr ((typeId?_of_nextId hnext T).trans hn) hstep
  replaceRecord h hn hr hstep := h.replaceRecord haccepted hs hr hn hstep
  deleteRecord h hn hstep := h.deleteRecord hs hn hstep
  moveRecord h hn hstep := h.moveRecord hs hn hstep
  clearType h hn hstep := h.clearType hs hn hstep
  publish h _ hn hstep := h.publish haccepted hs hn hstep
  unpublish h hn hstep := h.unpublish hs hn hstep

theorem coherent_perform {s : Store} (hs : s.settings.stem = stem) {o : Operation}
    (ho : o.Admits accepted) {w : Workspace} (hw : Coherent stem accepted w.database) :
    Coherent stem accepted (s.perform o w).2.database :=
  (keptBy_coherent haccepted hs).perform ho hw

theorem coherent_of_reached {db : Database} (h : Reached stem accepted db) :
    Coherent stem accepted db :=
  h.induct (coherent_empty stem accepted) fun _ hs => keptBy_coherent haccepted hs

end

end RecordStore
