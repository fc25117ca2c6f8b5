import Mathlib
import RecordStore.Proofs.Catalogue.Listing
import RecordStore.Proofs.Store.Entering
import RecordStore.Proofs.Store.Republish

/-!
Operations on types and on new records.  Whatever a store answers to an operation and leaves, it is a
step of the catalogue that describes what the store works on.
-/
namespace RecordStore
open Database Transaction RecordStore.Action

namespace Catalogue

theorem alter_alter (c : Catalogue) (T : String) (f g : Option Holding → Option Holding) :
    (c.alter T f).alter T g = c.alter T fun h => g (f h) := by
  simp only [alter, Function.update_idem, Function.update_self]

/-- A type that gives out a number is registered by that. -/
theorem register_skip (c : Catalogue) (T : String) : (c.register T).skip T = c.skip T :=
  alter_alter c T _ _

theorem register_add (c : Catalogue) (T : String) (r : Record) :
    (c.register T).add T r = c.add T r :=
  alter_alter c T _ _

namespace Describes
variable {c : Catalogue} {s : Store} {w : Workspace} {T : String} {n : UInt32} {v : Json} {r : Record}

/-! ### New records -/

/-- A record that is refused although its type and its number are there has met a schema. -/
theorem guarded_of_addRecord (h : c.Describes s w) {e : Error} (hr : Plain r)
    (hT : validTypeName T = true) (hv : v.record? = some r) (hroom : w.database.HasRoom T)
    (hcreate : (s.create T v w).1 = .error e) : c.guarded T = true := by
  by_contra hguarded
  rw [Bool.not_eq_true, h.depicts.guarded, Option.isSome_eq_false_iff,
    Option.isNone_iff_eq_none] at hguarded
  obtain ⟨w', hok, -⟩ := h.coherent.create_eq (fun r hr => hr.1.1) h.counted rfl hT hv hr hroom
    (.unpublished hguarded) w.session
  rw [hok] at hcreate
  cases hcreate

theorem next_lt (h : c.Describes s w) (hroom : w.database.HasRoom T) :
    (c.holding T).next < 0x7fffffffffffffff := by
  have hnumber := h.depicts.next_eq T
  have hle : (w.database.nextNumber T).toInt ≤ 0x7fffffffffffffff := Int64.toInt_le _
  have hword : maxWord.toInt = 0x7fffffffffffffff := by decide
  have hne : (w.database.nextNumber T).toInt ≠ maxWord.toInt :=
    fun he => hroom.record (Int64.toInt_inj.1 he)
  omega

theorem created (h : c.Describes s w) (hr : Plain r) (hT : validTypeName T = true)
    (hv : v.record? = some r) (hroom : w.database.HasRoom T) :
    c.Matches s (.create T v) (s.perform (.create T v) w) := by
  obtain ⟨n, hregister⟩ := exists_typeId h.coherent.types hroom.type
  have hregistered := h.depicts.typeId h.counted hregister
  have hnext := (nextId_registered w.database T).trans (if_neg hroom.record)
  have htake : transact (fun db => db.nextId T) ⟨w.database.registered T, w.session⟩ =
      (.ok (w.database.nextKey T).id, ⟨w.database.numbered T, w.session⟩) :=
    transact_of_ok (t := fun db => db.nextId T) (w := ⟨w.database.registered T, w.session⟩) hnext
  have hcreate : s.create T v w = (transact
      (addRecord s.settings n (w.database.nextKey T) r) >>= fun _ => pure (w.database.nextKey T))
        ⟨w.database.numbered T, w.session⟩ :=
    (create_of_typeId hT hv hregister w.session).trans (Action.bind_of_ok htake)
  cases hadd : addRecord s.settings n (w.database.nextKey T) r (w.database.numbered T) with
  | ok p =>
    have hok : s.create T v w = (.ok (w.database.nextKey T), ⟨p.2, w.session⟩) :=
      hcreate.trans (Action.bind_of_ok (transact_of_ok hadd))
    have hadded := hregistered.addRecord (h.coherent.typeId hregister).types
      (h.counted.typeId hregister) hr (typeId?_of_typeId hregister) hnext hadd
    rw [register_add] at hadded
    rw [← h.depicts.nextKey_eq T] at hok
    exact matches_of_eq hok (.create hT hv (h.next_lt hroom)) hadded
  | error e =>
    have hfailed : s.create T v w = (.error e, ⟨w.database.numbered T, w.session⟩) :=
      hcreate.trans (Action.bind_of_error (transact_of_error hadd))
    have hguarded := h.guarded_of_addRecord hr hT hv hroom (congrArg Prod.fst hfailed)
    have hskipped := hregistered.nextId hnext
    rw [register_skip] at hskipped
    exact matches_of_eq hfailed (.refused (.createGuarded hguarded) .skipped) hskipped

/-- A number that is used up is refused before the record is looked at. -/
theorem numbersUsed (h : c.Describes s w) (hT : validTypeName T = true) (hv : v.record? = some r)
    (hroom : w.database.typeRow? T = none → w.database.lastTypeId.toInt + 1 < 0x100000000)
    (hmax : w.database.nextNumber T = maxWord) :
    c.Matches s (.create T v) (s.perform (.create T v) w) := by
  obtain ⟨n, hregister⟩ := exists_typeId h.coherent.types hroom
  have hnext : transact (fun db => db.nextId T) ⟨w.database.registered T, w.session⟩ =
      (.error (.database .counterOverflow), ⟨w.database.registered T, w.session⟩) :=
    transact_of_error (t := fun db => db.nextId T) (w := ⟨w.database.registered T, w.session⟩)
      ((nextId_registered w.database T).trans (if_pos hmax))
  have hfailed : s.create T v w =
      (.error (.database .counterOverflow), ⟨w.database.registered T, w.session⟩) :=
    (create_of_typeId hT hv hregister w.session).trans (Action.bind_of_error hnext)
  have hlast : (c.holding T).next = 0x7fffffffffffffff := by
    have hnumber := h.depicts.next_eq T
    have hword : maxWord.toInt = 0x7fffffffffffffff := by decide
    rw [hmax, hword] at hnumber
    omega
  exact matches_of_eq hfailed (.refused (.numbersUsed hlast) .unnumbered)
    (h.depicts.typeId h.counted hregister)

theorem typesUsed (h : c.Describes s w) (hT : validTypeName T = true) (hv : v.record? = some r)
    (hnone : w.database.typeRow? T = none) (hlast : 0x100000000 ≤ w.database.lastTypeId.toInt + 1) :
    c.Matches s (.create T v) (s.perform (.create T v) w) := by
  have hword : w.database.lastTypeId = 0xffffffff := by
    have hlt := h.coherent.types.lastTypeId_usable.2
    have hvalue : (0xffffffff : Int64).toInt = 0xffffffff := by decide
    apply Int64.toInt_inj.1
    omega
  have htransact : transact (fun db => db.typeId T true) w =
      (.error (.unknownType (.invalidNumber T 0x100000000)), w) :=
    transact_of_error (t := fun db => db.typeId T true) (typeId_of_types_used hnone hword)
  have htype : Store.typeId T true w =
      (.error (.unknownType (.invalidNumber T 0x100000000)), w) :=
    Action.bind_of_error htransact
  have hfailed : s.create T v w = (.error (.unknownType (.invalidNumber T 0x100000000)), w) :=
    (create_of_object hT hv w).trans (Action.bind_of_error htype)
  exact matches_of_eq hfailed (.refused (.typesUsed (h.depicts.holding?_eq_none_iff.2 hnone)) .same)
    h.depicts

theorem create (h : c.Describes s w) (T : String) (hv : ∀ r, v.record? = some r → Plain r) :
    c.Matches s (.create T v) (s.perform (.create T v) w) := by
  cases hT : validTypeName T with
  | false =>
    have hfailed : s.create T v w = (.error (.invalidKey (.badTypeName T)), w) :=
      Action.bind_of_error (lift_checkTypeName_of_invalid hT w)
    exact matches_of_eq hfailed (.refused (.typeName hT) .same) h.depicts
  | true =>
    cases hobject : v.record? with
    | none =>
      have hfailed : s.create T v w = (.error (.schemaMismatch .notObject), w) :=
        (Action.bind_of_ok (lift_checkTypeName hT w)).trans
          (Action.bind_of_error (lift_checkObject_of_none hobject w))
      exact matches_of_eq hfailed (.refused (.createValue hobject) .same) h.depicts
    | some r =>
      by_cases hroom : w.database.typeRow? T = none →
          w.database.lastTypeId.toInt + 1 < 0x100000000
      · by_cases hmax : w.database.nextNumber T = maxWord
        · exact h.numbersUsed hT hobject hroom hmax
        · exact h.created (hv r hobject) hT hobject ⟨hmax, hroom⟩
      · push Not at hroom
        exact h.typesUsed hT hobject hroom.1 hroom.2

/-! ### All records of a type -/

theorem clear (h : c.Describes s w) (hstem : '"' ∉ s.settings.stem.toList) (T : String) :
    c.Matches s (.clear T) (s.perform (.clear T) w) := by
  have hstep : Step s c (.clear T) _ _ := .clear
  rcases h.coherent.types.typeId?_cases T with hn | ⟨n, hn⟩
  · have hread : Store.typeId? T w = (.ok none, w) := congrArg (·, w) hn
    have hclear : s.clear T w = (.ok 0, w) := Action.bind_of_ok hread
    have hholding : c.holding? T = none :=
      h.depicts.holding?_eq_none_iff.2 (typeRow?_of_typeId? hn)
    rw [clear_of_none hholding, holding, hholding] at hstep
    exact matches_of_eq hclear hstep h.depicts
  · have hread : Store.typeId? T w = (.ok (some n), w) := congrArg (·, w) hn
    obtain ⟨k, db, hok⟩ := h.coherent.clearType_ok rfl hstem hn
    have hclear : s.clear T w = (.ok k, { w with database := db }) :=
      (Action.bind_of_ok hread).trans (transact_of_ok hok)
    obtain ⟨rfl, hdepicts⟩ := h.depicts.clearType h.coherent.types hn hok
    exact matches_of_eq hclear hstep hdepicts

theorem scan (h : c.Describes s w) (T : String) (d : Direction) (token : Option String)
    (size : Option UInt64) (q : Bool) :
    c.Matches s (.scan T d token size q) (s.perform (.scan T d token size q) w) := by
  have hscan {result : Except Error Page} (hresult : w.database.scan T d token size q = result) :
      Store.scan T d token size q w = (result, w) :=
    congrArg (·, w) hresult
  rcases h.coherent.types.typeId?_cases T with hn | ⟨n, hn⟩
  · have hholding : c.holding? T = none :=
      h.depicts.holding?_eq_none_iff.2 (typeRow?_of_typeId? hn)
    exact matches_of_eq (hscan (scan_of_unregistered hn d token size q)) (.scanNothing hholding)
      h.depicts
  · have hholding : c.holding? T ≠ none := by
      rw [(h.depicts.holding_of_typeId? hn).1]
      exact Option.some_ne_none _
    cases hpage : Query.offsetOf token >>= fun offset => Query.pageLimit offset size with
    | error e =>
      exact matches_of_eq (hscan (scan_of_page_error hn hpage)) (.refused (.page hholding hpage) .same)
        h.depicts
    | ok limit =>
      obtain ⟨offset, hoffset, hlimit⟩ := bind_eq_ok.1 hpage
      obtain ⟨answer, hlists, hpart⟩ := h.coherent.scan_part hn d q
      have hdone := hpart token size offset limit hoffset hlimit
      rw [h.listed_eq hn hlists] at hdone
      exact matches_of_eq (hscan hdone) (.scan hoffset hlimit) h.depicts

/-! ### Schemas -/

/-- An attempt to register a type that fails leaves no trace. -/
theorem database_typeId_of_error {w' : Workspace} {e : Error}
    (h : Store.typeId T true w = (.error e, w')) : w'.database = w.database := by
  cases hstep : w.database.typeId T true with
  | error e' =>
    have hfailed : Store.typeId T true w = (.error e', w) :=
      Action.bind_of_error (transact_of_error (t := fun db => db.typeId T true) hstep)
    rw [(Prod.mk.inj (h.symm.trans hfailed)).2]
  | ok p =>
    obtain ⟨found, db⟩ := p
    have htransact : transact (fun db => db.typeId T true) w = (.ok found, { w with database := db }) :=
      transact_of_ok (t := fun db => db.typeId T true) hstep
    cases found with
    | some n =>
      have hdone : Store.typeId T true w = (.ok n, { w with database := db }) :=
        Action.bind_of_ok htransact
      cases (Prod.mk.inj (h.symm.trans hdone)).1
    | none =>
      have hfailed : Store.typeId T true w =
          (.error (.unknownType (.unregistered T)), { w with database := db }) :=
        Action.bind_of_ok htransact
      rw [(Prod.mk.inj (h.symm.trans hfailed)).2]
      rcases typeId_eq_ok hstep with ⟨-, hsame⟩ | ⟨-, -, id, hid, -⟩
      · exact hsame
      · cases hid

/-- How an attempt to publish a schema ends: with nothing done, with the type registered, or with the
schema published. -/
inductive Publishing (s : Store) (T : String) (S : Schema) (db : Database) :
    Except Error Unit → Database → Prop
  | idle {result : Except Error Unit} : Publishing s T S db result db
  | registered {n : UInt32} {db₁ : Database} {e : Error} : db.typeId T true = .ok (some n, db₁) →
    Publishing s T S db (.error e) db₁
  | published {n : UInt32} {db₁ db₂ : Database} : db.typeId T true = .ok (some n, db₁) →
    IndexedType.publish ⟨n, T, S⟩ s.settings db₁ = .ok ((), db₂) → Publishing s T S db (.ok ()) db₂

theorem publishing_publish (s : Store) (T : String) (S : Schema) (w : Workspace) :
    let result := (do
      let n ← Store.typeId T true
      transact (IndexedType.publish ⟨n, T, S⟩ s.settings)
      onSession (·.remember T S) : Action Unit) w
    Publishing s T S w.database result.1 result.2.database := by
  intro result
  rcases bind_cases (Store.typeId T true) (fun n => do
    transact (IndexedType.publish ⟨n, T, S⟩ s.settings)
    onSession (·.remember T S)) w with ⟨n, w₁, htype, hrest⟩ | ⟨e, w₁, htype, hrest⟩
  · obtain ⟨db, hregister, rfl⟩ := typeId_eq_ok_iff.1 htype
    have hresult : result = _ := hrest
    rw [hresult]
    cases hpublish : IndexedType.publish ⟨n, T, S⟩ s.settings db with
    | ok p =>
      have hdone : transact (IndexedType.publish ⟨n, T, S⟩ s.settings) { w with database := db } =
          (.ok (), ⟨p.2, w.session⟩) :=
        transact_of_ok hpublish
      rw [Action.bind_of_ok hdone]
      exact .published hregister hpublish
    | error e =>
      have hfailed : transact (IndexedType.publish ⟨n, T, S⟩ s.settings) { w with database := db } =
          (.error e, { w with database := db }) :=
        transact_of_error hpublish
      rw [Action.bind_of_error hfailed]
      exact .registered hregister
  · have hresult : result = _ := hrest
    rw [hresult, database_typeId_of_error htype]
    exact .idle

theorem publishing_createSchema (s : Store) (T : String) (S : Schema) (w : Workspace) :
    Publishing s T S w.database (s.createSchema T S w).1 (s.createSchema T S w).2.database := by
  unfold Store.createSchema
  rcases bind_cases (Action.lift (checkTypeName T)) _ w with ⟨_, w₁, hcheck, hrest⟩ | ⟨e, w₁, hcheck, hrest⟩
  · obtain rfl := (Prod.mk.inj hcheck).2
    rw [hrest]
    have hdatabase : (Store.schema T w).2.database = w.database :=
      relates_schema (R := fun db db' => db' = db) (fun _ => rfl) T w
    rcases bind_cases (Store.schema T) _ w with ⟨found, w₂, hfound, hrest⟩ | ⟨e, w₂, hfound, hrest⟩
    · rw [hrest]
      rw [hfound] at hdatabase
      rw [← hdatabase]
      cases found with
      | some known =>
        simp only
        split
        · exact .idle
        · exact .idle
      | none => exact publishing_publish s T S w₂
    · rw [hrest]
      rw [hfound] at hdatabase
      rw [← hdatabase]
      exact .idle
  · obtain rfl := (Prod.mk.inj hcheck).2
    rw [hrest]
    exact .idle

theorem createSchema (h : c.Describes s w) (T : String) (S : Schema) :
    c.Matches s (.createSchema T S) (s.perform (.createSchema T S) w) := by
  have hperform : s.perform (.createSchema T S) w =
      ((s.createSchema T S w).1.map fun _ => Answer.done, (s.createSchema T S w).2) :=
    map_apply (fun _ => Answer.done) (s.createSchema T S) w
  rw [hperform]
  have hpublishing := publishing_createSchema s T S w
  unfold Matches
  generalize (s.createSchema T S w).1 = result at hpublishing
  generalize (s.createSchema T S w).2.database = db at hpublishing
  cases hpublishing with
  | idle =>
    cases result with
    | ok u => exact ⟨c, .remembered, h.depicts⟩
    | error e => exact ⟨c, .refused .createSchema .same, h.depicts⟩
  | registered hregister =>
    exact ⟨_, .refused .createSchema .registered, h.depicts.typeId h.counted hregister⟩
  | published hregister hpublish =>
    exact ⟨_, .publish, (h.depicts.typeId h.counted hregister).publish hpublish⟩

/-- A type without a number has no schema. -/
theorem guarded_of_unregistered (h : c.Describes s w) (hn : w.database.typeId? T = .ok none) :
    c.guarded T = false := by
  rw [h.depicts.guarded]
  cases htext : w.database.schemaText? T with
  | none => rfl
  | some text =>
    obtain ⟨-, n, hregistered⟩ := h.coherent.schemas.each _ (mem_of_schemaText? htext)
    cases hn.symm.trans hregistered

/-- The schema of a type can be removed, if there is one. -/
theorem unpublish_ok (h : c.Describes s w) (hn : w.database.typeId? T = .ok (some n)) :
    ∃ b db, unpublish s.settings n T w.database = .ok (b, db) := by
  obtain ⟨schema, hfinds⟩ := h.coherent.exists_finds T
  rcases h.coherent.schemas.published_of_finds hn hfinds with ⟨rfl, -⟩ | ⟨S, rfl, hp⟩
  · exact ⟨false, w.database, bind_of_ok (storedSchema_of_finds hfinds)⟩
  · obtain ⟨db, hdrop⟩ := h.coherent.exists_unpublish hp
    exact ⟨true, db, hdrop⟩

theorem dropSchema (h : c.Describes s w) (T : String) :
    c.Matches s (.dropSchema T) (s.perform (.dropSchema T) w) := by
  have hstep : Step s c (.dropSchema T) _ _ := .dropSchema
  rcases h.coherent.types.typeId?_cases T with hn | ⟨n, hn⟩
  · have hread : Store.typeId? T w = (.ok none, w) := congrArg (·, w) hn
    have hdrop : s.dropSchema T w = (.ok false, w) := Action.bind_of_ok hread
    have hguarded := h.guarded_of_unregistered hn
    have hsame : c.guard T false = c := by
      rw [guard, ← hguarded, Function.update_eq_self]
    rw [hguarded, hsame] at hstep
    exact matches_of_eq hdrop hstep h.depicts
  · obtain ⟨b, db, hok⟩ := h.unpublish_ok hn
    obtain ⟨rfl, hdepicts⟩ := h.depicts.unpublish hok
    exact matches_of_eq (dropSchema_of_unpublish hn hok) hstep hdepicts

/-! ### Questions -/

theorem database_asks (s : Store) {o : Operation} (ho : o.Asks) (w : Workspace) :
    (s.perform o w).2.database = w.database := by
  suffices hkept : Relates (fun db db' => db' = db) (s.perform o) from hkept w
  have hr : ∀ db : Database, (fun db db' => db' = db) db db := fun _ => rfl
  cases o with
  | schema T => exact relates_map (relates_schema (R := fun db db' => db' = db) hr T)
  | multiRetrieve texts => exact relates_map (relates_multiRetrieve composes_eq s texts)
  | query T index q => exact relates_map (relates_query composes_eq s T index q)
  | encodeKey key => exact relates_map (relates_of_database_eq (R := fun db db' => db' = db) hr fun _ => rfl)
  | decodeKey text => exact relates_map (relates_keyOf (R := fun db db' => db' = db) hr s text _)
  | _ => exact ho.elim

theorem asked (h : c.Describes s w) {o : Operation} (ho : o.Asks) :
    c.Matches s o (s.perform o w) := by
  have hdepicts : c.Depicts (s.perform o w).2.database := database_asks s ho w ▸ h.depicts
  unfold Matches
  cases (s.perform o w).1 with
  | ok a => exact ⟨c, .asked ho, hdepicts⟩
  | error e => exact ⟨c, .refused (.asks ho) .same, hdepicts⟩

/-- Every operation is a step. -/
theorem perform (h : c.Describes s w) (hstem : '"' ∉ s.settings.stem.toList) {o : Operation}
    (ho : o.Admits Plain) : c.Matches s o (s.perform o w) := by
  cases o with
  | createSchema T S => exact h.createSchema T S
  | dropSchema T => exact h.dropSchema T
  | schema T => exact h.asked trivial
  | create T v => exact h.create T ho
  | retrieve text => exact h.retrieve text
  | multiRetrieve texts => exact h.asked trivial
  | update text v => exact h.update text ho
  | delete text => exact h.delete text
  | quarantine text => exact h.quarantine text
  | release text => exact h.release text
  | clear T => exact h.clear hstem T
  | query T index q => exact h.asked trivial
  | scan T d token size q => exact h.scan T d token size q
  | encodeKey key => exact h.asked trivial
  | decodeKey text => exact h.asked trivial

end Describes

end Catalogue

end RecordStore
