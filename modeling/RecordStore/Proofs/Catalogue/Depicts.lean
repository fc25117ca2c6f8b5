import Mathlib
import RecordStore.Proofs.Catalogue.Step
import RecordStore.Proofs.Json.Integral
import RecordStore.Proofs.Store.Counted
import RecordStore.Proofs.Store.IndexConsistency

/-!
The catalogue of a database, and what transactions do to it.  The records of a type stand in the order of
their numbers, so its entries are those records in the order in which they are stored.
-/
namespace RecordStore
open Database Transaction

/-- The records that come back as they were stored. -/
def Plain (r : Record) : Prop :=
  Readable r ∧ Json.MembersIntegral r

/-- How a stored record stands, in one of the states that the store writes. -/
def RecordState.standing : RecordState → Standing
  | .live => .live
  | .quarantined => .quarantined
  | _ => .deleted

def RecordRow.held (row : RecordRow) : Entry :=
  ⟨row.record, row.state.standing⟩

/-- The entries of the records of one type. -/
def heldEntries (records : List RecordRow) (n : Int64) : List (Nat × Entry) :=
  (records.filter (·.typeId == n)).map fun row => (row.id.toInt.toNat, row.held)

/-- A type has the number that comes next and the entries of its records. -/
structure Holding.Depicts (h : Holding) (db : Database) (row : TypeRow) : Prop where
  next : (h.next : Int) = row.nextId.toInt
  entries : h.entries = heldEntries db.records row.typeId

structure Catalogue.Depicts (c : Catalogue) (db : Database) : Prop where
  holdings : ∀ T, Option.Rel (fun h row => h.Depicts db row) (c.holding? T) (db.typeRow? T)
  guarded : ∀ T, c.guarded T = (db.schemaText? T).isSome

theorem depicts_empty : Catalogue.Depicts .empty .empty :=
  ⟨fun _ => .none, fun _ => rfl⟩

/-! ### Records as entries -/

section
variable {records : List RecordRow} {row : RecordRow} {r : Record} {n m : Int64}

theorem Plain.record_eq (hr : Plain r) (h : row.text = (Json.object r).text) : row.record = r := by
  rw [row.record_of_text hr.1.1 h]
  exact Json.rereadMembers_of_integral r hr.2

theorem mem_heldEntries {id : Nat} {e : Entry} : (id, e) ∈ heldEntries records n ↔
    ∃ row ∈ records, row.typeId = n ∧ row.id.toInt.toNat = id ∧ row.held = e := by
  rw [heldEntries, List.mem_map]
  constructor
  · rintro ⟨row, hrow, he⟩
    obtain ⟨hmem, htype⟩ := List.mem_filter.1 hrow
    obtain ⟨hid, hheld⟩ := Prod.mk.inj he
    exact ⟨row, hmem, beq_iff_eq.1 htype, hid, hheld⟩
  · rintro ⟨row, hmem, htype, rfl, rfl⟩
    exact ⟨row, List.mem_filter.2 ⟨hmem, beq_iff_eq.2 htype⟩, rfl⟩

theorem heldEntries_append (records rows : List RecordRow) (n : Int64) :
    heldEntries (records ++ rows) n = heldEntries records n ++ heldEntries rows n := by
  rw [heldEntries, List.filter_append, List.map_append]
  rfl

theorem heldEntries_eq_nil (h : ∀ row ∈ records, row.typeId ≠ n) : heldEntries records n = [] := by
  rw [heldEntries, List.map_eq_nil_iff, List.filter_eq_nil_iff]
  intro row hrow
  simpa using h row hrow

/-- A change that leaves the numbers of records alone changes the entry of one number. -/
theorem heldEntries_map {hit : RecordRow → Bool} {change : RecordRow → RecordRow} {f : Entry → Entry}
    {id : Nat} (hnumbers : ∀ row, (change row).numbers = row.numbers)
    (hchanged : ∀ row ∈ records, row.typeId = n → (if hit row then change row else row).held =
      if row.id.toInt.toNat = id then f row.held else row.held) :
    heldEntries (records.map fun row => if hit row then change row else row) n =
      (heldEntries records n).map fun p => (p.1, if p.1 = id then f p.2 else p.2) := by
  have hsame (row : RecordRow) : (if hit row then change row else row).typeId = row.typeId ∧
      (if hit row then change row else row).id = row.id := by
    split
    · exact Prod.mk.inj (hnumbers row)
    · exact ⟨rfl, rfl⟩
  rw [heldEntries, heldEntries, List.filter_map, List.map_map, List.map_map]
  have hfilter : ((fun row : RecordRow => row.typeId == n) ∘
      fun row => if hit row then change row else row) = fun row => row.typeId == n := by
    funext row
    rw [Function.comp_apply, (hsame row).1]
  rw [hfilter]
  apply List.map_congr_left
  intro row hrow
  obtain ⟨hmem, htype⟩ := List.mem_filter.1 hrow
  rw [Function.comp_apply, Function.comp_apply, (hsame row).2,
    hchanged row hmem (beq_iff_eq.1 htype)]

/-- The records of other types are as they were. -/
theorem heldEntries_map_other {hit : RecordRow → Bool} {change : RecordRow → RecordRow}
    (hnumbers : ∀ row, (change row).numbers = row.numbers)
    (hother : ∀ row, hit row = true → row.typeId ≠ n) :
    heldEntries (records.map fun row => if hit row then change row else row) n =
      heldEntries records n := by
  have hsame (row : RecordRow) : (if hit row then change row else row).typeId = row.typeId := by
    split
    · exact (Prod.mk.inj (hnumbers row)).1
    · rfl
  rw [heldEntries, heldEntries]
  refine congrArg (List.map _) (filter_map_of_fixed (fun row => by rw [hsame]) (fun row hrow => ?_) _)
  have htype : row.typeId = n := beq_iff_eq.1 hrow
  exact if_neg fun hhit => hother row hhit htype

end

namespace Catalogue.Depicts
variable {c : Catalogue} {db db' : Database} {T : String} {n : UInt32}

/-! ### What is known of a type -/

/-- A type is registered in both or in neither. -/
theorem holding?_cases (h : c.Depicts db) (T : String) :
    c.holding? T = none ∧ db.typeRow? T = none ∨
      ∃ H row, c.holding? T = some H ∧ db.typeRow? T = some row ∧ H.Depicts db row := by
  have hT := h.holdings T
  cases hH : c.holding? T with
  | none =>
    cases hrow : db.typeRow? T with
    | none => exact .inl ⟨rfl, rfl⟩
    | some row =>
      rw [hH, hrow] at hT
      cases hT
  | some H =>
    cases hrow : db.typeRow? T with
    | none =>
      rw [hH, hrow] at hT
      cases hT
    | some row =>
      rw [hH, hrow] at hT
      cases hT with
      | some hdepicts => exact .inr ⟨H, row, rfl, rfl, hdepicts⟩

theorem holding?_eq_none_iff (h : c.Depicts db) : c.holding? T = none ↔ db.typeRow? T = none := by
  rcases h.holding?_cases T with ⟨hH, hrow⟩ | ⟨H, row, hH, hrow, -⟩
  · simp [hH, hrow]
  · simp [hH, hrow]

theorem exists_holding (h : c.Depicts db) {row : TypeRow} (hrow : db.typeRow? T = some row) :
    ∃ H : Holding, c.holding? T = some H ∧ H.Depicts db row := by
  rcases h.holding?_cases T with ⟨-, hnone⟩ | ⟨H, row', hH, hrow', hdepicts⟩
  · rw [hrow] at hnone
    cases hnone
  · obtain rfl := Option.some.inj (hrow.symm.trans hrow')
    exact ⟨H, hH, hdepicts⟩

/-- What a registered type has. -/
theorem holding_of_typeId? (h : c.Depicts db) (hn : db.typeId? T = .ok (some n)) :
    c.holding? T = some (c.holding T) ∧ (c.holding T).entries = heldEntries db.records (typeWord n) := by
  obtain ⟨row, hrow, htype⟩ := typeId?_eq_some hn
  obtain ⟨H, hH, hdepicts⟩ := h.exists_holding hrow
  rw [holding, hH, Option.getD_some]
  exact ⟨rfl, htype ▸ hdepicts.entries⟩

/-- The number that comes next. -/
theorem next_eq (h : c.Depicts db) (T : String) :
    ((c.holding T).next : Int) = (db.nextNumber T).toInt := by
  cases hrow : db.typeRow? T with
  | none =>
    rw [holding, h.holding?_eq_none_iff.2 hrow, nextNumber, hrow]
    rfl
  | some row =>
    obtain ⟨H, hH, hdepicts⟩ := h.exists_holding hrow
    rw [holding, hH, nextNumber, hrow]
    exact hdepicts.next

theorem nextKey_eq (h : c.Depicts db) (T : String) : c.nextKey T = db.nextKey T := by
  have hnext := h.next_eq T
  rw [Catalogue.nextKey, Database.nextKey]
  congr 2
  omega

/-- The entry of a key is its record. -/
theorem found?_eq_some {stem : String} {accepted : Record → Prop} (h : c.Depicts db)
    (hc : Coherent stem accepted db) {key : Key} {m : Int64}
    (hn : db.typeId? key.typeName = .ok (some n)) (hkey : keyWord key = .ok m) {e : Entry} :
    c.found? key = some e ↔
      ∃ row ∈ db.records, row.typeId = typeWord n ∧ row.id = m ∧ row.held = e := by
  obtain ⟨-, hentries⟩ := h.holding_of_typeId? hn
  obtain ⟨hnonneg, hword, -⟩ := Index.storedId?_eq_some (keyWord_eq_ok hkey)
  rw [found?, Holding.found?_eq_some, hentries, mem_heldEntries]
  constructor
  · rintro ⟨row, hrow, htype, hid, rfl⟩
    refine ⟨row, hrow, htype, ?_, rfl⟩
    have hrowId := (hc.records.each row hrow).id
    apply Int64.toInt_inj.1
    omega
  · rintro ⟨row, hrow, htype, rfl, rfl⟩
    exact ⟨row, hrow, htype, by omega, rfl⟩

/-! ### Transactions -/

/-- One type is altered and the others stay. -/
theorem alter (h : c.Depicts db) {f : Option Holding → Option Holding}
    (hT : Option.Rel (fun H row => H.Depicts db' row) (f (c.holding? T)) (db'.typeRow? T))
    (hother : ∀ T', T' ≠ T → db'.typeRow? T' = db.typeRow? T' ∧ ∀ row, db.typeRow? T' = some row →
      heldEntries db'.records row.typeId = heldEntries db.records row.typeId)
    (hschemas : db'.schemas = db.schemas) : (c.alter T f).Depicts db' where
  holdings T' := by
    rw [holding?_alter]
    split
    · next hsame =>
      rw [hsame]
      exact hT
    · next hne =>
      obtain ⟨hrow, hentries⟩ := hother T' hne
      rw [hrow]
      rcases h.holding?_cases T' with ⟨hH, hfound⟩ | ⟨H, row, hH, hfound, hdepicts⟩
      · rw [hH, hfound]
        exact .none
      · rw [hH, hfound]
        exact .some ⟨hdepicts.next, hdepicts.entries.trans (hentries row hfound).symm⟩
  guarded T' := by
    rw [schemaText?, hschemas]
    exact h.guarded T'

/-- The schemas may change and the tables and index objects. -/
theorem guard_of (h : c.Depicts db) {guarded : String → Bool}
    (hguarded : ∀ T, guarded T = (db'.schemaText? T).isSome) (htypes : db'.types = db.types)
    (hrecords : db'.records = db.records) : Catalogue.Depicts ⟨c.holding?, guarded⟩ db' where
  holdings T := by
    have hrow : db'.typeRow? T = db.typeRow? T := by rw [typeRow?, typeRow?, htypes]
    rw [hrow]
    rcases h.holding?_cases T with ⟨hH, hfound⟩ | ⟨H, row, hH, hfound, hdepicts⟩
    · rw [hH, hfound]
      exact .none
    · rw [hH, hfound]
      exact .some ⟨hdepicts.next, hrecords ▸ hdepicts.entries⟩
  guarded := hguarded

theorem of_onlyTables (h : c.Depicts db) (hk : OnlyTables db db') : c.Depicts db' := by
  apply h.guard_of _ hk.types hk.records
  intro T
  rw [schemaText?, hk.schemas]
  exact h.guarded T

/-! ### Registering and numbering -/

theorem typeId (h : c.Depicts db) (hc : Counted db) (hstep : db.typeId T true = .ok (some n, db')) :
    (c.register T).Depicts db' := by
  rcases typeId_eq_ok hstep with ⟨hn, rfl⟩ | ⟨hnone, hlast, id, -, -, rfl⟩
  · obtain ⟨row, hrow, -⟩ := typeId?_eq_some hn
    obtain ⟨H, hH, hdepicts⟩ := h.exists_holding hrow
    apply h.alter _ (fun _ _ => ⟨rfl, fun _ _ => rfl⟩) rfl
    rw [hH, hrow]
    exact .some hdepicts
  · refine h.alter ?_ ?_ rfl
    · -- no record has the number of the new type
      have hnew : heldEntries db.records (db.lastTypeId + 1) = [] := by
        apply heldEntries_eq_nil
        intro record hrecord htype
        obtain ⟨row, hrow, hrowType⟩ := hc.registered record hrecord
        have hle := le_lastTypeId hrow
        rw [hrowType, htype, toInt_succ_of_ne_maxWord hlast] at hle
        omega
      have hfound : typeRow? { db with types := db.types ++ [⟨T, db.lastTypeId + 1, 1⟩] } T =
          some ⟨T, db.lastTypeId + 1, 1⟩ := by
        have hfind : db.types.find? (·.name == T) = none := hnone
        simp [typeRow?, List.find?_append, hfind]
      rw [h.holding?_eq_none_iff.2 hnone, hfound]
      exact .some ⟨rfl, hnew.symm⟩
    · intro T' hT'
      have hne : (T == T') = false := beq_eq_false_iff_ne.2 fun he => hT' he.symm
      refine ⟨?_, fun _ _ => rfl⟩
      simp [typeRow?, List.find?_append, hne]

theorem typeRow?_movedOn (db : Database) (T T' : String) :
    typeRow? { db with types := db.types.map fun r =>
      if r.name == T then { r with nextId := r.nextId + 1 } else r } T' =
      (db.typeRow? T').map fun r => if T' = T then { r with nextId := r.nextId + 1 } else r := by
  have hcomp : ((fun r : TypeRow => r.name == T') ∘ fun r : TypeRow =>
      if r.name == T then { r with nextId := r.nextId + 1 } else r) = fun r => r.name == T' :=
    funext fun r => by rw [Function.comp_apply, movedOn_name]
  rw [typeRow?, List.find?_map, hcomp, typeRow?]
  cases hfound : db.types.find? (·.name == T') with
  | none => rfl
  | some row =>
    have hfound' : db.typeRow? T' = some row := hfound
    have hname : row.name = T' := (typeRow?_eq_some hfound').2
    rw [Option.map_some, Option.map_some, hname]
    simp only [beq_iff_eq]

/-- A number is taken, and a record may be stored under it. -/
theorem numbered (h : c.Depicts db) {id : UInt64} {db₁ : Database} (rows : List RecordRow)
    (f : Holding → Holding) (hnext : db.nextId T = .ok (id, db₁))
    (hother : ∀ T', T' ≠ T → ∀ row, db.typeRow? T' = some row → ∀ r ∈ rows, r.typeId ≠ row.typeId)
    (hT : ∀ H row, db.typeRow? T = some row → Holding.Depicts H db row → row.nextId ≠ maxWord →
      (f H).next = H.next + 1 ∧ (f H).entries = H.entries ++ heldEntries rows row.typeId) :
    (c.alter T fun H => some (f (H.getD .empty))).Depicts
      { db₁ with records := db₁.records ++ rows } := by
  obtain ⟨row, hrow, hmax, -, rfl⟩ := nextId_eq_ok hnext
  obtain ⟨H, hH, hdepicts⟩ := h.exists_holding hrow
  refine h.alter ?_ ?_ rfl
  · obtain ⟨hnumber, hentries⟩ := hT H row hrow hdepicts hmax
    have hmoved := typeRow?_movedOn db T T
    rw [hrow, Option.map_some, if_pos rfl] at hmoved
    rw [hH, Option.getD_some]
    refine hmoved.symm ▸ .some ⟨?_, ?_⟩
    · rw [hnumber, toInt_succ_of_ne_maxWord hmax, ← hdepicts.next]
      rfl
    · rw [hentries, hdepicts.entries, heldEntries_append]
  · intro T' hT'
    have hmoved := typeRow?_movedOn db T T'
    simp only [if_neg hT', Option.map_id'] at hmoved
    refine ⟨hmoved, fun row' hrow' => ?_⟩
    rw [heldEntries_append, heldEntries_eq_nil (hother T' hT' row' hrow'), List.append_nil]

theorem nextId (h : c.Depicts db) {id : UInt64} (hstep : db.nextId T = .ok (id, db')) :
    (c.skip T).Depicts db' := by
  have hdepicts := h.numbered [] Holding.skip hstep (fun _ _ _ _ r hr => by cases hr)
    fun H row _ _ _ => ⟨rfl, (List.append_nil _).symm⟩
  rwa [List.append_nil] at hdepicts

end Catalogue.Depicts

end RecordStore
