import Mathlib
import RecordStore.Proofs.Catalogue.Transactions
import RecordStore.Proofs.Query.Scan
import RecordStore.Proofs.Store.Progress

/-!
Operations on one record.  A text is resolved to a key and the number of its type, and what happens to
the record of the key happens to its entry.
-/
namespace RecordStore
open Database Transaction RecordStore.Action

/-- A catalogue describes what a store works on. -/
structure Catalogue.Describes (c : Catalogue) (s : Store) (w : Workspace) : Prop where
  coherent : Coherent s.settings.stem Plain w.database
  counted : Counted w.database
  depicts : c.Depicts w.database
  derives : s.codec.Derives w.session.keys

/-- What an operation has answered and left is a step of a catalogue. -/
def Catalogue.Matches (c : Catalogue) (s : Store) (o : Operation)
    (result : Except Error Answer × Workspace) : Prop :=
  ∃ c', Catalogue.Step s c o result.1 c' ∧ c'.Depicts result.2.database

section
variable {c c' : Catalogue} {s : Store} {o : Operation} {α : Type} {x : Action α} {g : α → Answer}
  {result : Except Error α} {w w' : Workspace}

theorem Catalogue.matches_of_eq (hx : x w = (result, w')) (hstep : Catalogue.Step s c o (result.map g) c')
    (hdepicts : c'.Depicts w'.database) : c.Matches s o ((g <$> x) w) := by
  rw [map_apply, hx]
  exact ⟨c', hstep, hdepicts⟩

end

/-! ### Keys -/

/-- What becomes of a text in a database: a fault, nothing if its type is not registered there, or a
key and the number of its type. -/
inductive Resolved (s : Store) (db : Database) (text : String) :
    Except Error (Option (Key × UInt32)) → Prop
  | unreadable {f : Key.Fault} : s.reads text = .error f →
    Resolved s db text (.error (.invalidKey f))
  | unregistered {key : Key} : s.reads text = .ok key → db.typeRow? key.typeName = none →
    Resolved s db text (.ok none)
  | registered {key : Key} {n : UInt32} : s.reads text = .ok key →
    db.typeId? key.typeName = .ok (some n) → Resolved s db text (.ok (some (key, n)))

/-- A text that is read as a key is resolved to it and to the number that its type has. -/
theorem resolve_of_reads {s : Store} {w : Workspace} (hkeys : s.codec.Derives w.session.keys)
    {text : String} {key : Key} {found : Option UInt32} (hreads : s.reads text = .ok key)
    (hn : w.database.typeId? key.typeName = .ok found) :
    ∃ w', s.resolve text w = (.ok (found.map (key, ·)), w') ∧ w'.database = w.database := by
  obtain ⟨w', hkey, hdatabase⟩ := keyOf_eq s hkeys text .invalidKey
  rw [hreads] at hkey
  have htype : Store.typeId? key.typeName w' = (.ok found, w') := by
    rw [← hdatabase] at hn
    exact congrArg (·, w') hn
  exact ⟨w', (Action.bind_of_ok hkey).trans (Action.bind_of_ok htype), hdatabase⟩

theorem exists_resolved {s : Store} {w : Workspace} (hkeys : s.codec.Derives w.session.keys)
    (ht : TypesSound w.database) (text : String) : ∃ found w', s.resolve text w = (found, w') ∧
      w'.database = w.database ∧ Resolved s w.database text found := by
  cases hreads : s.reads text with
  | error f =>
    obtain ⟨w', hkey, hdatabase⟩ := keyOf_eq s hkeys text .invalidKey
    rw [hreads] at hkey
    exact ⟨_, w', Action.bind_of_error hkey, hdatabase, .unreadable hreads⟩
  | ok key =>
    rcases ht.typeId?_cases key.typeName with hn | ⟨n, hn⟩
    · obtain ⟨w', hresolve, hdatabase⟩ := resolve_of_reads hkeys hreads hn
      exact ⟨_, w', hresolve, hdatabase, .unregistered hreads (typeRow?_of_typeId? hn)⟩
    · obtain ⟨w', hresolve, hdatabase⟩ := resolve_of_reads hkeys hreads hn
      exact ⟨_, w', hresolve, hdatabase, .registered hreads hn⟩

namespace Catalogue

/-! ### Types that are not registered -/

section
variable {c : Catalogue} {T : String} {key : Key}

theorem alter_of_none (h : c.holding? T = none) {f : Option Holding → Option Holding}
    (hf : f none = none) : c.alter T f = c := by
  rw [alter, h, hf, ← h, Function.update_eq_self]

theorem change_of_none (h : c.holding? key.typeName = none) (f : Entry → Entry) :
    c.change key f = c :=
  alter_of_none h rfl

theorem clear_of_none (h : c.holding? T = none) : c.clear T = c :=
  alter_of_none h rfl

theorem found?_of_none (h : c.holding? key.typeName = none) : c.found? key = none := by
  rw [found?, holding, h]
  rfl

theorem has_of_none (h : c.holding? key.typeName = none) (allowed : Standing → Bool) :
    c.has key allowed = false := by
  rw [has, found?_of_none h]
  rfl

theorem value?_of_none (h : c.holding? key.typeName = none) : c.value? key = none := by
  rw [value?, found?_of_none h]
  rfl

end

namespace Describes
variable {c : Catalogue} {s : Store} {w : Workspace} {text : String} {key : Key} {n : UInt32}
  {o : Operation}

/-! ### Changes of one record -/

/-- An operation that changes the record of a text, if the type of its key is registered. -/
theorem changed (h : c.Describes s w) (stands : Standing → Bool) (f : Entry → Entry)
    {t : Key → UInt32 → Transaction Bool} (htext : o.keyText? = some text)
    (hstep : ∀ key, s.reads text = .ok key →
      Step s c o (.ok (.changed (c.has key stands))) (c.change key f))
    (hends : ∀ key n, s.reads text = .ok key → w.database.typeId? key.typeName = .ok (some n) →
      (∃ e, t key n w.database = .error e ∧ c.Refuses s o e) ∨
        ∃ b db, t key n w.database = .ok (b, db) ∧ b = c.has key stands ∧
          (c.change key f).Depicts db) :
    c.Matches s o ((Answer.changed <$> (do
      match ← s.resolve text with
      | none => return false
      | some (key, n) => transact (t key n) : Action Bool)) w) := by
  obtain ⟨found, w', hresolve, hdatabase, hfound⟩ := exists_resolved h.derives h.coherent.types text
  have hdepicts : c.Depicts w'.database := hdatabase ▸ h.depicts
  cases hfound with
  | unreadable hreads =>
    exact matches_of_eq (Action.bind_of_error hresolve) (.refused (.unreadable htext hreads) .same)
      hdepicts
  | @unregistered key hreads hnone =>
    -- nothing is there to be changed, and the step says so
    have hholding : c.holding? key.typeName = none := h.depicts.holding?_eq_none_iff.2 hnone
    have hstep' := hstep key hreads
    rw [has_of_none hholding, change_of_none hholding] at hstep'
    exact matches_of_eq (Action.bind_of_ok hresolve) hstep' hdepicts
  | @registered key n hreads hn =>
    rcases hends key n hreads hn with ⟨e, he, hrefuses⟩ | ⟨b, db, hok, rfl, hchange⟩
    · rw [← hdatabase] at he
      exact matches_of_eq ((Action.bind_of_ok hresolve).trans (transact_of_error he))
        (.refused hrefuses .same) hdepicts
    · rw [← hdatabase] at hok
      exact matches_of_eq ((Action.bind_of_ok hresolve).trans (transact_of_ok hok))
        (hstep key hreads) hchange

/-- A number that is too large belongs to no record. -/
theorem outOfRange (h : c.Describes s w) (htext : o.keyText? = some text)
    (hreads : s.reads text = .ok key) (hn : w.database.typeId? key.typeName = .ok (some n))
    (hlarge : 0x8000000000000000 ≤ key.id.toNat) : c.Refuses s o (.invalidKey (.outOfRange key)) := by
  apply Refuses.outOfRange htext hreads _ hlarge
  rw [(h.depicts.holding_of_typeId? hn).1]
  exact Option.some_ne_none _

/-- A change of a record is one of its entry if it is that for records in all states that are
written. -/
theorem changesOne (h : c.Describes s w) {allowed : RecordState → Bool}
    {change : RecordRow → RecordRow} {b : Bool} {db : Database} {stands : Standing → Bool}
    {f : Entry → Entry} (hn : w.database.typeId? key.typeName = .ok (some n))
    (hstep : ChangesOne n key allowed change b w.database db)
    (hnumbers : ∀ row, (change row).numbers = row.numbers)
    (hchange : ∀ row : RecordRow,
      row.state = .live ∨ row.state = .quarantined ∨ row.state = .deleted →
        allowed row.state = stands row.held.standing ∧
          f row.held = if allowed row.state then (change row).held else row.held) :
    b = c.has key stands ∧ (c.change key f).Depicts db := by
  apply h.depicts.changesOne h.coherent hn hnumbers _ _ hstep
  · intro row hrow
    exact (hchange row (h.coherent.records.each row hrow).state).1
  · intro row hrow
    exact (hchange row (h.coherent.records.each row hrow).state).2

theorem delete (h : c.Describes s w) (text : String) :
    c.Matches s (.delete text) (s.perform (.delete text) w) := by
  apply h.changed (· != .deleted) .struck rfl
  · intro key hreads
    exact .delete hreads
  · intro key n hreads hn
    rcases keyWord_cases key with ⟨m, hkey⟩ | ⟨hkey, hlarge⟩
    · right
      obtain ⟨b, db, hok⟩ := h.coherent.deleteRecord_ok rfl hn hkey
      refine ⟨b, db, hok, h.changesOne hn (deleteRecord_changesOne hok) (fun _ => rfl) ?_⟩
      rintro ⟨_, _, state, _⟩ hstate
      simp only at hstate
      rcases hstate with rfl | rfl | rfl <;> exact ⟨rfl, rfl⟩
    · left
      obtain ⟨schema, hfinds⟩ := h.coherent.exists_finds key.typeName
      refine ⟨_, ?_, h.outOfRange rfl hreads hn hlarge⟩
      exact (bind_of_ok (storedSchema_of_finds hfinds)).trans (changeRecord_of_error hkey)

/-- A record moves from one state to another, and its entry from one standing to another. -/
theorem moved (h : c.Describes s w) (quarantined : Bool) (htext : o.keyText? = some text)
    (hstep : ∀ key, s.reads text = .ok key → Step s c o
      (.ok (.changed (c.has key (· == (movedFrom quarantined).standing))))
      (c.change key (.moved (movedFrom quarantined).standing (movedTo quarantined).standing))) :
    c.Matches s o ((Answer.changed <$> s.setQuarantined text quarantined) w) := by
  apply h.changed _ _ htext hstep
  intro key n hreads hn
  rcases keyWord_cases key with ⟨m, hkey⟩ | ⟨hkey, hlarge⟩
  · right
    obtain ⟨b, db, hok⟩ := h.coherent.moveRecord_ok rfl hn hkey quarantined
    refine ⟨b, db, hok, h.changesOne hn (moveRecord_changesOne hok) (fun _ => rfl) ?_⟩
    rintro ⟨_, _, state, _⟩ hstate
    simp only at hstate
    rcases hstate with rfl | rfl | rfl <;> cases quarantined <;> exact ⟨rfl, rfl⟩
  · left
    obtain ⟨schema, hfinds⟩ := h.coherent.exists_finds key.typeName
    refine ⟨_, ?_, h.outOfRange htext hreads hn hlarge⟩
    exact (bind_of_ok (storedSchema_of_finds hfinds)).trans (changeRecord_of_error hkey)

theorem quarantine (h : c.Describes s w) (text : String) :
    c.Matches s (.quarantine text) (s.perform (.quarantine text) w) :=
  h.moved true rfl fun _ hreads => .quarantine hreads

theorem release (h : c.Describes s w) (text : String) :
    c.Matches s (.release text) (s.perform (.release text) w) :=
  h.moved false rfl fun _ hreads => .release hreads

/-- Without a schema a record of the type can be replaced. -/
theorem replaceRecord_ok (h : c.Describes s w) {m : Int64} (r : Record)
    (hn : w.database.typeId? key.typeName = .ok (some n)) (hkey : keyWord key = .ok m)
    (hnone : w.database.schemaText? key.typeName = none) :
    ∃ b db, replaceRecord s.settings n key r w.database = .ok (b, db) := by
  have hfinds : FindsSchema w.database key.typeName none := .inl ⟨rfl, hnone⟩
  have hrows (S : Schema) (hp : Published w.database key.typeName n S) :
      S.Apart → ∀ records, ∃ db', IndexedType.updateRows ⟨n, key.typeName, S⟩ s.settings key.id r
        { w.database with records := records } = .ok ((), db') := by
    rw [hp.text] at hnone
    cases hnone
  obtain ⟨b, db, hok⟩ : ∃ b db, changeRecord n key none (· != .deleted)
      ({ · with text := (Json.object r).text }) (fun t => t.updateRows s.settings key.id r)
        w.database = .ok (b, db) :=
    h.coherent.changeRecord_ok hn hkey rfl hrows hfinds
  exact ⟨b, db, (bind_of_ok (schemaFor_of_finds hfinds nofun)).trans hok⟩

/-- A schema may refuse a record, and without one the number alone may be wrong. -/
theorem refuses_update (h : c.Describes s w) {v : Json} {r : Record} {e : Error}
    (hreads : s.reads text = .ok key) (hn : w.database.typeId? key.typeName = .ok (some n))
    (hstep : replaceRecord s.settings n key r w.database = .error e) :
    c.Refuses s (.update text v) e := by
  cases hguarded : c.guarded key.typeName with
  | true => exact .updateGuarded hreads hguarded
  | false =>
    rw [h.depicts.guarded, Option.isSome_eq_false_iff, Option.isNone_iff_eq_none] at hguarded
    rcases keyWord_cases key with ⟨m, hkey⟩ | ⟨hkey, hlarge⟩
    · obtain ⟨b, db, hok⟩ := h.replaceRecord_ok r hn hkey hguarded
      rw [hok] at hstep
      cases hstep
    · have hrefused : replaceRecord s.settings n key r w.database =
          .error (.invalidKey (.outOfRange key)) :=
        (bind_of_ok (schemaFor_of_finds (.inl ⟨rfl, hguarded⟩) nofun)).trans
          (changeRecord_of_error hkey)
      obtain rfl : Error.invalidKey (.outOfRange key) = e :=
        Except.error.inj (hrefused.symm.trans hstep)
      exact h.outOfRange rfl hreads hn hlarge

theorem update (h : c.Describes s w) (text : String) {v : Json}
    (hv : ∀ r, v.record? = some r → Plain r) :
    c.Matches s (.update text v) (s.perform (.update text v) w) := by
  cases hobject : v.record? with
  | none =>
    have hfailed : s.update text v w = (.error (.schemaMismatch .notObject), w) :=
      Action.bind_of_error (lift_checkObject_of_none hobject w)
    exact matches_of_eq hfailed (.refused (.updateValue hobject) .same) h.depicts
  | some r =>
    have hupdate : s.update text v w = (do
        match ← s.resolve text with
        | none => return false
        | some (key, n) => transact (replaceRecord s.settings n key r) : Action Bool) w :=
      Action.bind_of_ok (lift_checkObject hobject w)
    show c.Matches s _ ((Answer.changed <$> s.update text v) w)
    rw [map_apply, hupdate, ← map_apply]
    apply h.changed (· != .deleted) (.replaced r) rfl
    · intro key hreads
      exact .update hreads hobject
    · intro key n hreads hn
      cases hstep : replaceRecord s.settings n key r w.database with
      | ok p =>
        right
        refine ⟨p.1, p.2, rfl, h.changesOne hn (replaceRecord_changesOne hstep) (fun _ => rfl) ?_⟩
        rintro ⟨T, id, state, old⟩ hstate
        have hrecord (state : RecordState) :
            RecordRow.record ⟨T, id, state, (Json.object r).text⟩ = r :=
          (hv r hobject).record_eq rfl
        simp only at hstate
        rcases hstate with rfl | rfl | rfl
        · exact ⟨rfl, congrArg (Entry.mk · .live) (hrecord .live).symm⟩
        · exact ⟨rfl, congrArg (Entry.mk · .quarantined) (hrecord .quarantined).symm⟩
        · exact ⟨rfl, rfl⟩
      | error e => exact .inl ⟨e, rfl, h.refuses_update hreads hn hstep⟩

/-! ### The record of a text -/

/-- A stored record is read back as it was written. -/
theorem parse?_text (h : c.Describes s w) {row : RecordRow} (hrow : row ∈ w.database.records) :
    Json.parse? row.text = some (.object row.record) := by
  obtain ⟨r, hr, htext⟩ := (h.coherent.records.each row hrow).text
  rw [hr.record_eq htext, htext, Json.parse?_text hr.1.1 hr.1.2]
  exact congrArg some (Json.reread_of_integral (.object r) hr.2)

theorem value?_eq (h : c.Describes s w) {m : Int64}
    (hn : w.database.typeId? key.typeName = .ok (some n)) (hkey : keyWord key = .ok m) :
    c.value? key = (w.database.record? (typeWord n) m).map RecordRow.record := by
  have hentry (e : Entry) : c.found? key = some e ↔ _ :=
    h.depicts.found?_eq_some h.coherent hn hkey
  have hdeleted {row : RecordRow} (hrow : row ∈ w.database.records) :
      row.state = .deleted ↔ row.held.standing = .deleted := by
    show _ ↔ row.state.standing = _
    rcases (h.coherent.records.each row hrow).state with hstate | hstate | hstate <;>
      rw [hstate] <;> decide
  cases hfound : w.database.record? (typeWord n) m with
  | some row =>
    have hrow := List.mem_of_find?_eq_some hfound
    have hmeets := List.find?_some hfound
    simp only [Bool.and_eq_true, beq_iff_eq, bne_iff_ne] at hmeets
    obtain ⟨⟨htype, hid⟩, hstate⟩ := hmeets
    rw [value?, (hentry row.held).2 ⟨row, hrow, htype, hid, rfl⟩, Option.filter_some, if_pos]
    · rfl
    · exact decide_eq_true fun hdead => hstate ((hdeleted hrow).2 hdead)
  | none =>
    rw [Option.map_none, value?, Option.map_eq_none_iff, Option.filter_eq_none_iff]
    intro e he
    obtain ⟨row, hrow, htype, hid, rfl⟩ := (hentry e).1 he
    have hmiss := List.find?_eq_none.1 hfound row hrow
    simp [htype, hid, hdeleted hrow] at hmiss
    simp [hmiss]

theorem retrieve (h : c.Describes s w) (text : String) :
    c.Matches s (.retrieve text) (s.perform (.retrieve text) w) := by
  obtain ⟨found, w', hresolve, hdatabase, hfound⟩ := exists_resolved h.derives h.coherent.types text
  have hdepicts : c.Depicts w'.database := hdatabase ▸ h.depicts
  cases hfound with
  | @unreadable f hreads =>
    have hfailed : s.retrieve text w = (.error (.invalidKey f), w') := Action.bind_of_error hresolve
    exact matches_of_eq hfailed (.refused (.unreadable rfl hreads) .same) hdepicts
  | @unregistered key hreads hnone =>
    have hstep : Step s c (.retrieve text) _ c := .retrieve hreads
    rw [value?_of_none (h.depicts.holding?_eq_none_iff.2 hnone)] at hstep
    have hdone : s.retrieve text w = (.ok none, w') := Action.bind_of_ok hresolve
    exact matches_of_eq hdone hstep hdepicts
  | @registered key n hreads hn =>
    rcases keyWord_cases key with ⟨m, hkey⟩ | ⟨hkey, hlarge⟩
    · have hlift : Action.lift (keyWord key) w' = (.ok m, w') := lift_eq_ok_iff.2 ⟨hkey, rfl⟩
      have hread : Action.read (fun db => .ok (db.record? (typeWord n) m)) w' =
          (.ok (w.database.record? (typeWord n) m), w') := by
        rw [← hdatabase]
        rfl
      have hdone : s.retrieve text w = (.ok ((c.value? key).map .object), w') := by
        apply (Action.bind_of_ok hresolve).trans
        apply (Action.bind_of_ok hlift).trans
        apply (Action.bind_of_ok hread).trans
        rw [h.value?_eq hn hkey]
        cases hfound : w.database.record? (typeWord n) m with
        | none => rfl
        | some row =>
          have hparse := h.parse?_text (List.mem_of_find?_eq_some hfound)
          simp only [hparse]
          rfl
      exact matches_of_eq hdone (.retrieve hreads) hdepicts
    · have hlift : Action.lift (keyWord key) w' = (.error (.invalidKey (.outOfRange key)), w') := by
        rw [hkey]
        rfl
      have hfailed : s.retrieve text w = (.error (.invalidKey (.outOfRange key)), w') :=
        (Action.bind_of_ok hresolve).trans (Action.bind_of_error hlift)
      exact matches_of_eq hfailed (.refused (h.outOfRange rfl hreads hn hlarge) .same) hdepicts

end Describes

end Catalogue

end RecordStore
