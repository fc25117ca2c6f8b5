import Mathlib
import RecordStore.Proofs.Catalogue.Depicts

/-!
What the transactions of a store do to the catalogue of its database, and what they answer.
-/
namespace RecordStore
open Database Transaction

/-- Types of one number have one name. -/
theorem TypesSound.name_eq {db : Database} (h : TypesSound db) {T T' : String} {row row' : TypeRow}
    (hrow : db.typeRow? T = some row) (hrow' : db.typeRow? T' = some row')
    (hsame : row.typeId = row'.typeId) : T = T' := by
  obtain ⟨hmem, hname⟩ := typeRow?_eq_some hrow
  obtain ⟨hmem', hname'⟩ := typeRow?_eq_some hrow'
  rw [← hname, ← hname', List.inj_on_of_nodup_map h.numbers hmem hmem' hsame]

/-! ### Records -/

/-- A change of one record, whether it is there or not, in terms of all records. -/
theorem ChangesOne.records_eq {n : UInt32} {key : Key} {allowed : RecordState → Bool}
    {change : RecordRow → RecordRow} {b : Bool} {db db' : Database}
    (h : ChangesOne n key allowed change b db db') : ∃ m, keyWord key = .ok m ∧
      b = db.records.any (fun row => row.typeId == typeWord n && row.id == m && allowed row.state) ∧
      db'.records = db.records.map fun row =>
        if row.typeId == typeWord n && row.id == m && allowed row.state then change row else row := by
  obtain ⟨m, hkey, ⟨rfl, rfl, hnone⟩ | ⟨rfl, db₁, hsome, honly⟩⟩ := h
  · refine ⟨m, hkey, ?_⟩
    unfold changeRecord? at hnone
    simp only at hnone
    split at hnone
    · cases hnone
    · next hany =>
      rw [Bool.not_eq_true] at hany
      refine ⟨hany.symm, ?_⟩
      have hmiss := List.any_eq_false.1 hany
      conv_lhs => rw [← List.map_id db'.records]
      apply List.map_congr_left
      intro row hrow
      rw [if_neg (hmiss row hrow)]
      rfl
  · obtain ⟨⟨row, hrow, htype, hid, hstate⟩, rfl⟩ := changeRecord?_eq_some hsome
    refine ⟨m, hkey, ?_, honly.records⟩
    symm
    apply List.any_eq_true.2
    exact ⟨row, hrow, by simp [htype, hid, hstate]⟩

namespace Catalogue.Depicts
variable {c : Catalogue} {stem : String} {db db' : Database} {T : String} {n : UInt32} {key : Key}

/-- A record that is stored under the number that was taken for it is the next entry. -/
theorem addRecord (h : c.Depicts db) (ht : TypesSound db) (hc : Counted db) {s : StoreSettings}
    {r : Record} {id : UInt64} {db₁ : Database} {u : Unit} (hr : Plain r)
    (hn : db.typeId? T = .ok (some n)) (hnext : db.nextId T = .ok (id, db₁))
    (hstep : RecordStore.addRecord s n ⟨T, id⟩ r db₁ = .ok (u, db')) : (c.add T r).Depicts db' := by
  obtain ⟨m, hkey, -, honly⟩ := addRecord_onlyTables hstep
  obtain ⟨row, hrow, -, hword⟩ := hc.keyWord_of_nextId hnext
  obtain ⟨row', hrow', htype⟩ := typeId?_eq_some hn
  obtain rfl : m = row.nextId := Except.ok.inj (hkey.symm.trans hword)
  obtain rfl : row = row' := Option.some.inj (hrow.symm.trans hrow')
  refine (h.numbered _ (Holding.add r) hnext ?_ ?_).of_onlyTables honly
  · -- types of one number are one type
    intro T' hT' other hother record hrecord hsame
    obtain rfl := List.mem_singleton.1 hrecord
    exact hT' (ht.name_eq hother hrow (hsame.symm.trans htype.symm))
  · intro H other hother hdepicts _
    obtain rfl : row = other := Option.some.inj (hrow.symm.trans hother)
    have hnumber : row.nextId.toInt.toNat = H.next := by
      have := hdepicts.next
      omega
    have hheld : RecordRow.held ⟨typeWord n, row.nextId, .live, (Json.object r).text⟩ = ⟨r, .live⟩ :=
      congrArg (Entry.mk · .live) (hr.record_eq rfl)
    refine ⟨rfl, ?_⟩
    have hentries : heldEntries [⟨typeWord n, row.nextId, .live, (Json.object r).text⟩] row.typeId =
        [(H.next, ⟨r, .live⟩)] := by
      simp only [heldEntries, htype, List.filter_cons, beq_self_eq_true, if_true, List.filter_nil,
        List.map_cons, List.map_nil, hnumber, hheld]
    rw [hentries]
    rfl

/-- A record is stored under a key in one of some states just when its entry has one of them. -/
theorem has_eq_any (h : c.Depicts db) (hc : Coherent stem Plain db) {allowed : RecordState → Bool}
    {stands : Standing → Bool} {m : Int64} (hn : db.typeId? key.typeName = .ok (some n))
    (hkey : keyWord key = .ok m)
    (hstands : ∀ row ∈ db.records, allowed row.state = stands row.held.standing) :
    c.has key stands =
      db.records.any fun row => row.typeId == typeWord n && row.id == m && allowed row.state := by
  rw [Bool.eq_iff_iff, List.any_eq_true, has, Option.any_eq_true]
  constructor
  · rintro ⟨e, he, hstanding⟩
    obtain ⟨row, hrow, htype, hid, rfl⟩ := (h.found?_eq_some hc hn hkey).1 he
    refine ⟨row, hrow, ?_⟩
    simp only [htype, hid, hstands row hrow, hstanding, beq_self_eq_true, Bool.and_true]
  · rintro ⟨row, hrow, hhit⟩
    simp only [Bool.and_eq_true, beq_iff_eq] at hhit
    obtain ⟨⟨htype, hid⟩, hstate⟩ := hhit
    refine ⟨row.held, (h.found?_eq_some hc hn hkey).2 ⟨row, hrow, htype, hid, rfl⟩, ?_⟩
    rw [← hstands row hrow, hstate]

/-- Where the record of a key is changed and all others stay, the entry of the key is changed. -/
theorem change_of_map (h : c.Depicts db) (hc : Coherent stem Plain db)
    {allowed : RecordState → Bool} {change : RecordRow → RecordRow} {f : Entry → Entry} {m : Int64}
    (hn : db.typeId? key.typeName = .ok (some n)) (hkey : keyWord key = .ok m)
    (hnumbers : ∀ row, (change row).numbers = row.numbers)
    (hf : ∀ row ∈ db.records, f row.held = if allowed row.state then (change row).held else row.held)
    (hfixed : FixedKept db db')
    (hrecords : db'.records = db.records.map fun row =>
      if row.typeId == typeWord n && row.id == m && allowed row.state then change row else row) :
    (c.change key f).Depicts db' := by
  obtain ⟨row, hrow, htype⟩ := typeId?_eq_some hn
  obtain ⟨H, hH, hdepicts⟩ := h.exists_holding hrow
  obtain ⟨hnonneg, hword, -⟩ := Index.storedId?_eq_some (keyWord_eq_ok hkey)
  have htypeRow (T' : String) : db'.typeRow? T' = db.typeRow? T' := by
    rw [typeRow?, typeRow?, hfixed.types]
  refine h.alter ?_ ?_ hfixed.schemas
  · rw [hH, htypeRow, hrow]
    refine .some ⟨hdepicts.next, ?_⟩
    show (H.entries.map _) = _
    rw [hdepicts.entries, hrecords, htype, heldEntries_map hnumbers]
    intro record hrecord hrecordType
    -- numbers of stored records are not negative, so the number of the key is enough
    have hid : record.id.toInt.toNat = key.id.toNat ↔ record.id = m := by
      have hrecordId := (hc.records.each record hrecord).id
      rw [← Int64.toInt_inj]
      omega
    by_cases hm : record.id = m
    · rw [if_pos (hid.2 hm), hf record hrecord]
      simp only [hrecordType, hm, beq_self_eq_true, Bool.true_and]
      split <;> rfl
    · have hmiss : (record.id == m) = false := beq_eq_false_iff_ne.2 hm
      rw [if_neg fun he => hm (hid.1 he)]
      simp [hmiss]
  · intro T' hT'
    refine ⟨htypeRow T', fun other hother => ?_⟩
    rw [hrecords]
    apply heldEntries_map_other hnumbers
    intro record hhit hsame
    simp only [Bool.and_eq_true, beq_iff_eq] at hhit
    exact hT' (hc.types.name_eq hother hrow (hsame.symm.trans (hhit.1.1.trans htype.symm)))

/-- A record is changed as its entry is, and the answer says whether it was in a state for that. -/
theorem changesOne (h : c.Depicts db) (hc : Coherent stem Plain db) {allowed : RecordState → Bool}
    {change : RecordRow → RecordRow} {b : Bool} {stands : Standing → Bool} {f : Entry → Entry}
    (hn : db.typeId? key.typeName = .ok (some n))
    (hnumbers : ∀ row, (change row).numbers = row.numbers)
    (hstands : ∀ row ∈ db.records, allowed row.state = stands row.held.standing)
    (hf : ∀ row ∈ db.records, f row.held = if allowed row.state then (change row).held else row.held)
    (hstep : ChangesOne n key allowed change b db db') :
    b = c.has key stands ∧ (c.change key f).Depicts db' := by
  obtain ⟨m, hkey, rfl, hrecords⟩ := hstep.records_eq
  exact ⟨(h.has_eq_any hc hn hkey hstands).symm,
    h.change_of_map hc hn hkey hnumbers hf hstep.fixedKept hrecords⟩

/-- The records of a type are removed, and the answer is how many they were. -/
theorem clearType (h : c.Depicts db) (ht : TypesSound db) {s : StoreSettings} {k : Nat}
    (hn : db.typeId? T = .ok (some n)) (hstep : RecordStore.clearType s n T db = .ok (k, db')) :
    k = (c.holding T).entries.length ∧ (c.clear T).Depicts db' := by
  obtain ⟨row, hrow, htype⟩ := typeId?_eq_some hn
  obtain ⟨H, hH, hdepicts⟩ := h.exists_holding hrow
  obtain ⟨rfl, honly⟩ := clearType_onlyTables hstep
  constructor
  · obtain ⟨-, hentries⟩ := h.holding_of_typeId? hn
    rw [hentries, heldEntries, List.length_map]
    exact List.countP_eq_length_filter
  · refine of_onlyTables ?_ honly
    refine h.alter ?_ ?_ rfl
    · rw [hH]
      have hfound : typeRow? (db.clearRecords (typeWord n)).2 T = some row := hrow
      rw [hfound]
      refine .some ⟨hdepicts.next, ?_⟩
      symm
      apply heldEntries_eq_nil
      intro record hrecord hsame
      have hkept := (List.mem_filter.1 hrecord).2
      simp [hsame, htype] at hkept
    · intro T' hT'
      refine ⟨rfl, fun other hother => ?_⟩
      have hne : other.typeId ≠ typeWord n := fun hsame =>
        hT' (ht.name_eq hother hrow (hsame.trans htype.symm))
      rw [heldEntries, heldEntries]
      show ((db.records.filter _).filter _).map _ = _
      rw [List.filter_filter]
      congr 1
      apply List.filter_congr
      intro record _
      by_cases hsame : record.typeId = other.typeId
      · simp [hsame, hne]
      · simp [hsame]

/-! ### Schemas -/

theorem publish (h : c.Depicts db) {t : IndexedType} {s : StoreSettings} {u : Unit}
    (hstep : t.publish s db = .ok (u, db')) : (c.guard t.typeName true).Depicts db' := by
  obtain ⟨hnone, honly⟩ := publish_onlyTables hstep
  refine h.guard_of ?_ honly.types honly.records
  intro T
  have htext : db'.schemaText? T =
      if T = t.typeName then some t.schema.text else db.schemaText? T := by
    rw [← schemaText?_append T hnone, schemaText?, schemaText?, honly.schemas]
  rw [htext, Function.update_apply, h.guarded]
  split <;> rfl

theorem unpublish (h : c.Depicts db) {s : StoreSettings} {b : Bool}
    (hstep : RecordStore.unpublish s n T db = .ok (b, db')) :
    b = c.guarded T ∧ (c.guard T false).Depicts db' := by
  have honly := unpublish_onlyTables hstep
  constructor
  · rw [h.guarded]
    obtain ⟨schema, hfinds, ⟨rfl, rfl, -⟩ | ⟨rfl, S, rfl, -⟩⟩ := unpublish_eq_ok hstep
    · rcases hfinds with ⟨-, hnone⟩ | ⟨_, S, hS, -⟩
      · rw [hnone]
        rfl
      · cases hS
    · rcases hfinds with ⟨hS, -⟩ | ⟨text, _, -, htext, -⟩
      · cases hS
      · rw [htext]
        rfl
  · refine h.guard_of ?_ honly.types honly.records
    intro T'
    have htext : db'.schemaText? T' = if T' = T then none else db.schemaText? T' := by
      rw [← schemaText?_removeSchema, schemaText?, schemaText?, honly.schemas]
    rw [htext, Function.update_apply, h.guarded]
    split <;> rfl

end Catalogue.Depicts

end RecordStore
