import Mathlib
import RecordStore.Proofs.Store.FixedTables
import RecordStore.Proofs.Store.Reached

/-!
Record numbers.  A type gives out its numbers one after the other and none of them twice, also when
records are cleared, so its records stand in the order of their numbers and all below the next one.
-/
namespace RecordStore
open Database Transaction

/-- The numbers under which a record is stored. -/
def RecordRow.numbers (row : RecordRow) : Int64 × Int64 := (row.typeId, row.id)

/-- Records have numbers that their types have given out, and stand in the order of these. -/
structure Counted (db : Database) : Prop where
  positive : ∀ row ∈ db.types, 1 ≤ row.nextId.toInt
  registered : ∀ record ∈ db.records, ∃ row ∈ db.types, row.typeId = record.typeId
  below : ∀ record ∈ db.records, ∀ row ∈ db.types, row.typeId = record.typeId →
    record.id.toInt < row.nextId.toInt
  ascending : (db.records.map RecordRow.numbers).Pairwise fun a b =>
    a.1 = b.1 → a.2.toInt < b.2.toInt

theorem counted_empty : Counted .empty := ⟨by simp [empty], by simp [empty], by simp [empty], .nil⟩

/-- The types are the same, and some records may be gone or deleted. -/
structure KeysFewer (db db' : Database) : Prop where
  types : db'.types = db.types
  keys : (db'.records.map RecordRow.numbers).Sublist (db.records.map RecordRow.numbers)
  live : ∀ row ∈ db'.records, row.state ≠ .deleted →
    ∃ old ∈ db.records, old.state ≠ .deleted ∧ old.numbers = row.numbers

section
variable {stem : String} {accepted : Record → Prop} {db db' : Database}

theorem Counted.of_keysFewer (h : Counted db) (hkeys : KeysFewer db db') : Counted db' := by
  have hold (record : RecordRow) (hrecord : record ∈ db'.records) :
      ∃ old ∈ db.records, old.typeId = record.typeId ∧ old.id = record.id := by
    obtain ⟨old, hmem, hkey⟩ := List.mem_map.1 (hkeys.keys.subset (List.mem_map_of_mem hrecord))
    exact ⟨old, hmem, Prod.mk.inj hkey⟩
  refine ⟨hkeys.types ▸ h.positive, fun record hrecord => ?_, fun record hrecord row hrow ht => ?_,
    h.ascending.sublist hkeys.keys⟩
  · obtain ⟨old, hmem, htype, -⟩ := hold record hrecord
    rw [hkeys.types, ← htype]
    exact h.registered old hmem
  · obtain ⟨old, hmem, htype, hid⟩ := hold record hrecord
    rw [← hid]
    exact h.below old hmem row (hkeys.types ▸ hrow) (ht.trans htype.symm)

theorem keysFewer_of_records {records : List RecordRow} (ht : db'.types = db.types)
    (hr : db'.records = records) (hsub : records.Sublist db.records) : KeysFewer db db' := by
  subst hr
  exact ⟨ht, hsub.map _, fun row hrow hlive => ⟨row, hsub.subset hrow, hlive, rfl⟩⟩

theorem OnlyTables.keysFewer (h : OnlyTables db db') : KeysFewer db db' :=
  keysFewer_of_records h.types h.records (.refl _)

theorem ChangesOne.keysFewer {n : UInt32} {key : Key} {allowed : RecordState → Bool}
    {change : RecordRow → RecordRow} {b : Bool} (h : ChangesOne n key allowed change b db db')
    (hallowed : allowed .deleted = false)
    (hchange : ∀ row, (change row).numbers = row.numbers) : KeysFewer db db' := by
  obtain ⟨m, -, ⟨-, rfl, -⟩ | ⟨-, db₁, hsome, honly⟩⟩ := h
  · exact keysFewer_of_records rfl rfl (.refl _)
  · obtain ⟨-, rfl⟩ := changeRecord?_eq_some hsome
    have hsame : db'.records.map RecordRow.numbers = db.records.map RecordRow.numbers := by
      rw [honly.records, List.map_map]
      refine List.map_congr_left fun row _ => ?_
      rw [Function.comp_apply]
      split
      · exact hchange row
      · rfl
    refine ⟨honly.types, by rw [hsame], fun row hrow hlive => ?_⟩
    rw [honly.records] at hrow
    obtain ⟨old, hold, rfl⟩ := List.mem_map.1 hrow
    by_cases hhit : (old.typeId == typeWord n && old.id == m && allowed old.state) = true
    · -- a deleted record is in no state that allows a change
      rw [if_pos hhit]
      refine ⟨old, hold, fun hdeleted => ?_, (hchange old).symm⟩
      rw [hdeleted, hallowed, Bool.and_false] at hhit
      cases hhit
    · rw [if_neg hhit] at hlive ⊢
      exact ⟨old, hold, hlive, rfl⟩

theorem Counted.typeId (h : Counted db) {name : String} {create : Bool} {found : Option UInt32}
    (hstep : db.typeId name create = .ok (found, db')) : Counted db' := by
  rcases typeId_eq_ok hstep with ⟨-, rfl⟩ | ⟨-, hlast, id, rfl, -, rfl⟩
  · exact h
  refine ⟨fun row hrow => ?_, fun record hrecord => ?_, fun record hrecord row hrow ht => ?_,
    h.ascending⟩
  · rcases List.mem_append.1 hrow with hrow | hrow
    · exact h.positive row hrow
    · obtain rfl := List.mem_singleton.1 hrow
      exact le_refl 1
  · obtain ⟨row, hrow, ht⟩ := h.registered record hrecord
    exact ⟨row, List.mem_append_left _ hrow, ht⟩
  · rcases List.mem_append.1 hrow with hrow | hrow
    · exact h.below record hrecord row hrow ht
    · -- the number of a new type is larger than those of all records
      obtain rfl := List.mem_singleton.1 hrow
      obtain ⟨old, hold, ht'⟩ := h.registered record hrecord
      have hle := le_lastTypeId hold
      rw [ht', ← ht, toInt_succ_of_ne_maxWord hlast] at hle
      omega

/-- Rows of one name are one row. -/
theorem TypesSound.eq_of_typeRow? (h : TypesSound db) {name : String} {row row' : TypeRow}
    (hrow : db.typeRow? name = some row) (hrow' : row' ∈ db.types) (hname : row'.name = name) :
    row' = row := by
  obtain ⟨hmem, rfl⟩ := typeRow?_eq_some hrow
  exact List.inj_on_of_nodup_map h.names hrow' hmem hname

/-- The next record number of one type moves on by one. -/
theorem nextId_row (ht : TypesSound db) {name : String} {row : TypeRow}
    (hrow : db.typeRow? name = some row) (hmax : row.nextId ≠ maxWord) {old : TypeRow}
    (hold : old ∈ db.types) :
    (if old.name == name then { old with nextId := old.nextId + 1 } else old).nextId.toInt =
      if old.name = name then row.nextId.toInt + 1 else old.nextId.toInt := by
  by_cases hname : old.name = name
  · obtain rfl := ht.eq_of_typeRow? hrow hold hname
    rw [if_pos (beq_iff_eq.2 hname), if_pos hname]
    exact toInt_succ_of_ne_maxWord hmax
  · rw [if_neg (by simpa using hname), if_neg hname]

theorem Counted.nextId (h : Counted db) (ht : TypesSound db) {name : String} {id : UInt64}
    (hstep : db.nextId name = .ok (id, db')) : Counted db' := by
  obtain ⟨row, hrow, hmax, -, rfl⟩ := nextId_eq_ok hstep
  have hle (old : TypeRow) (hold : old ∈ db.types) : old.nextId.toInt ≤
      (if old.name == name then { old with nextId := old.nextId + 1 } else old).nextId.toInt := by
    rw [nextId_row ht hrow hmax hold]
    split
    · next hname =>
      rw [ht.eq_of_typeRow? hrow hold hname]
      omega
    · exact le_refl _
  refine ⟨fun moved hmoved => ?_, fun record hrecord => ?_, fun record hrecord moved hmoved hty => ?_,
    h.ascending⟩
  · obtain ⟨old, hold, rfl⟩ := List.mem_map.1 hmoved
    exact le_trans (h.positive old hold) (hle old hold)
  · obtain ⟨old, hold, hty⟩ := h.registered record hrecord
    exact ⟨_, List.mem_map_of_mem hold, (movedOn_typeId name old).trans hty⟩
  · obtain ⟨old, hold, rfl⟩ := List.mem_map.1 hmoved
    rw [movedOn_typeId] at hty
    exact lt_of_lt_of_le (h.below record hrecord old hold hty) (hle old hold)

/-- The number that a type gives out is stored as it is. -/
theorem Counted.keyWord_of_nextId (h : Counted db) {name : String} {id : UInt64}
    (hstep : db.nextId name = .ok (id, db')) :
    ∃ row, db.typeRow? name = some row ∧ row.nextId ≠ maxWord ∧
      keyWord ⟨name, id⟩ = .ok row.nextId := by
  obtain ⟨row, hrow, hmax, rfl, -⟩ := nextId_eq_ok hstep
  have hpositive := h.positive row (typeRow?_eq_some hrow).1
  refine ⟨row, hrow, hmax, ?_⟩
  simp only [keyWord, Index.storedId?_ofNat (show 0 ≤ row.nextId.toInt by omega)]

/-- No record has the number that its type gives out next. -/
theorem Counted.fresh (h : Counted db) {name : String} {n : UInt32} {row : TypeRow}
    (hrow : db.typeRow? name = some row) (hn : db.typeId? name = .ok (some n)) :
    ∀ record ∈ db.records, record.typeId = typeWord n → record.id.toInt < row.nextId.toInt := by
  obtain ⟨row', hrow', htype⟩ := typeId?_eq_some hn
  obtain rfl : row = row' := Option.some.inj (hrow.symm.trans hrow')
  exact fun record hrecord ht =>
    h.below record hrecord row (typeRow?_eq_some hrow).1 (htype.trans ht.symm)

theorem Counted.addRecord (h : Counted db) (ht : TypesSound db) {s : StoreSettings} {T : String}
    {n : UInt32} {id : UInt64} {r : Record} {db₁ : Database} {u : Unit}
    (hn : db.typeId? T = .ok (some n)) (hnext : db.nextId T = .ok (id, db₁))
    (hstep : RecordStore.addRecord s n ⟨T, id⟩ r db₁ = .ok (u, db')) : Counted db' := by
  have hmoved := h.nextId ht hnext
  obtain ⟨row, hrow, hmax, hkey⟩ := h.keyWord_of_nextId hnext
  have hfresh := h.fresh hrow hn
  obtain ⟨m, hm, -, honly⟩ := addRecord_onlyTables hstep
  obtain rfl : m = row.nextId := Except.ok.inj (hm.symm.trans hkey)
  refine Counted.of_keysFewer ?_ honly.keysFewer
  obtain ⟨row', hrow', -, -, rfl⟩ := nextId_eq_ok hnext
  obtain rfl : row = row' := Option.some.inj (hrow.symm.trans hrow')
  obtain ⟨hmem, hname⟩ := typeRow?_eq_some hrow
  obtain ⟨row'', hrow'', htype⟩ := typeId?_eq_some hn
  obtain rfl : row = row'' := Option.some.inj (hrow.symm.trans hrow'')
  refine ⟨hmoved.positive, fun record hrecord => ?_, fun record hrecord moved hmem' hty => ?_, ?_⟩
  · rcases List.mem_append.1 hrecord with hrecord | hrecord
    · exact hmoved.registered record hrecord
    · obtain rfl := List.mem_singleton.1 hrecord
      exact ⟨_, List.mem_map_of_mem hmem, (movedOn_typeId T row).trans htype⟩
  · rcases List.mem_append.1 hrecord with hrecord | hrecord
    · exact hmoved.below record hrecord moved hmem' hty
    · obtain rfl := List.mem_singleton.1 hrecord
      obtain ⟨old, hold, rfl⟩ := List.mem_map.1 hmem'
      rw [movedOn_typeId] at hty
      -- types of one number are one type
      obtain rfl := List.inj_on_of_nodup_map ht.numbers hold hmem (hty.trans htype.symm)
      rw [nextId_row ht hrow hmax hold, if_pos hname]
      show old.nextId.toInt < old.nextId.toInt + 1
      omega
  · rw [List.map_append, List.pairwise_append]
    refine ⟨h.ascending, List.pairwise_singleton _ _, fun a ha b hb hab => ?_⟩
    obtain ⟨record, hrecord, rfl⟩ := List.mem_map.1 ha
    obtain rfl := List.mem_singleton.1 hb
    exact hfresh record hrecord hab

/-- What holds of numbers is kept by all transactions if it is kept by those that register a type or take
a number, and wherever there are fewer records. -/
theorem KeptBy.and_numbers {s : Store} {inv num : Database → Prop} (h : KeptBy s accepted inv)
    (htypeId : ∀ {T create found db db'}, inv db → num db → db.typeId T create = .ok (found, db') →
      num db')
    (hnextId : ∀ {T id db db'}, inv db → num db → db.nextId T = .ok (id, db') → num db')
    (haddRecord : ∀ {T n id r db db₁ db₂ u}, inv db → num db → db.typeId? T = .ok (some n) →
      db.nextId T = .ok (id, db₁) →
      RecordStore.addRecord s.settings n ⟨T, id⟩ r db₁ = .ok (u, db₂) → num db₂)
    (hfewer : ∀ {db db'}, num db → KeysFewer db db' → num db') :
    KeptBy s accepted fun db => inv db ∧ num db where
  typeId hdb hstep := ⟨h.typeId hdb.1 hstep, htypeId hdb.1 hdb.2 hstep⟩
  nextId hdb hstep := ⟨h.nextId hdb.1 hstep, hnextId hdb.1 hdb.2 hstep⟩
  addRecord hdb hn hnext hr hstep :=
    ⟨h.addRecord hdb.1 hn hnext hr hstep, haddRecord hdb.1 hdb.2 hn hnext hstep⟩
  replaceRecord hdb hn hr hstep := ⟨h.replaceRecord hdb.1 hn hr hstep,
    hfewer hdb.2 ((replaceRecord_changesOne hstep).keysFewer rfl fun _ => rfl)⟩
  deleteRecord hdb hn hstep := ⟨h.deleteRecord hdb.1 hn hstep,
    hfewer hdb.2 ((deleteRecord_changesOne hstep).keysFewer rfl fun _ => rfl)⟩
  moveRecord {key n quarantined db db' b} hdb hn hstep := ⟨h.moveRecord hdb.1 hn hstep,
    hfewer hdb.2 ((moveRecord_changesOne hstep).keysFewer (by cases quarantined <;> rfl)
      fun _ => rfl)⟩
  clearType hdb hn hstep := by
    obtain ⟨-, honly⟩ := clearType_onlyTables hstep
    exact ⟨h.clearType hdb.1 hn hstep,
      hfewer hdb.2 (keysFewer_of_records honly.types honly.records List.filter_sublist)⟩
  publish hdb hvalid hn hstep := by
    obtain ⟨-, honly⟩ := publish_onlyTables hstep
    exact ⟨h.publish hdb.1 hvalid hn hstep,
      hfewer hdb.2 (keysFewer_of_records honly.types honly.records (.refl _))⟩
  unpublish hdb hn hstep := by
    have honly := unpublish_onlyTables hstep
    exact ⟨h.unpublish hdb.1 hn hstep,
      hfewer hdb.2 (keysFewer_of_records honly.types honly.records (.refl _))⟩

/-- Every store keeps the numbers of coherent databases in order. -/
theorem keptBy_counted (haccepted : ∀ r, accepted r → (Json.object r).WellFormed) {s : Store}
    (hs : s.settings.stem = stem) :
    KeptBy s accepted fun db => Coherent stem accepted db ∧ Counted db :=
  (keptBy_coherent haccepted hs).and_numbers (fun _ hcounted hstep => hcounted.typeId hstep)
    (fun hc hcounted hstep => hcounted.nextId hc.types hstep)
    (fun hc hcounted hn hnext hstep => hcounted.addRecord hc.types hn hnext hstep)
    fun hcounted hfewer => hcounted.of_keysFewer hfewer

theorem counted_of_reached (haccepted : ∀ r, accepted r → (Json.object r).WellFormed)
    (h : Reached stem accepted db) : Counted db :=
  (h.induct ⟨coherent_empty stem accepted, counted_empty⟩
    fun _ hs => keptBy_counted haccepted hs).2

end

/-! ### Taking a number -/

/-- The number that the next record of a type gets. -/
def Database.nextNumber (db : Database) (T : String) : Int64 :=
  match db.typeRow? T with
  | some row => row.nextId
  | none => 1

/-- The key that the next record of a type gets. -/
def Database.nextKey (db : Database) (T : String) : Key :=
  ⟨T, UInt64.ofNat (db.nextNumber T).toInt.toNat⟩

/-- Whether a type has a number left for a record and, when it is new, there is one left for the
type. -/
structure Database.HasRoom (db : Database) (T : String) : Prop where
  record : db.nextNumber T ≠ maxWord
  type : db.typeRow? T = none → db.lastTypeId.toInt + 1 < 0x100000000

/-- The database with a type registered. -/
def Database.registered (db : Database) (T : String) : Database :=
  match db.typeRow? T with
  | some _ => db
  | none => { db with types := db.types ++ [⟨T, db.lastTypeId + 1, 1⟩] }

/-- The database after the next number of a type was taken. -/
def Database.numbered (db : Database) (T : String) : Database :=
  { db.registered T with types := (db.registered T).types.map fun r =>
      if r.name == T then { r with nextId := r.nextId + 1 } else r }

section
variable {db : Database} {T : String}

theorem usableTypeId_of_range {name : String} {word : Int64} (h₀ : 0 ≤ word.toInt)
    (h : word.toInt < 0x100000000) :
    usableTypeId name word = .ok (UInt32.ofNat word.toInt.toNat) := by
  rw [usableTypeId, if_pos ⟨h₀, h⟩]

/-- The largest number is one that types can have. -/
theorem TypesSound.lastTypeId_usable (h : TypesSound db) :
    0 ≤ db.lastTypeId.toInt ∧ db.lastTypeId.toInt < 0x100000000 := by
  rcases db.lastTypeId_cases with hzero | hmem
  · rw [hzero]
    decide
  · obtain ⟨row, hrow, htype⟩ := List.mem_map.1 hmem
    rw [← htype]
    exact h.usable row hrow

theorem typeRow?_registered (db : Database) (T : String) : ∃ row,
    (db.registered T).typeRow? T = some row ∧ row.nextId = db.nextNumber T := by
  cases hrow : db.typeRow? T with
  | some row => exact ⟨row, by simp [registered, hrow], by simp [nextNumber, hrow]⟩
  | none =>
    refine ⟨⟨T, db.lastTypeId + 1, 1⟩, ?_, by simp [nextNumber, hrow]⟩
    have hnone : db.types.find? (·.name == T) = none := hrow
    simp [registered, typeRow?, List.find?_append, hnone]

theorem registered_fixed (db : Database) (T : String) :
    (db.registered T).schemas = db.schemas ∧ (db.registered T).records = db.records := by
  unfold registered
  split <;> exact ⟨rfl, rfl⟩

/-- A type is registered while there is a number left for it. -/
theorem exists_typeId (ht : TypesSound db)
    (hroom : db.typeRow? T = none → db.lastTypeId.toInt + 1 < 0x100000000) :
    ∃ n, db.typeId T true = .ok (some n, db.registered T) := by
  cases hrow : db.typeRow? T with
  | some row =>
    obtain ⟨h₀, h₁⟩ := ht.usable row (typeRow?_eq_some hrow).1
    have hfound : db.typeId? T = .ok (some (UInt32.ofNat row.typeId.toInt.toNat)) := by
      simp only [typeId?, hrow, usableTypeId_of_range h₀ h₁]
      rfl
    have hsame : db.registered T = db := by simp [registered, hrow]
    exact ⟨_, bind_eq_ok.2 ⟨_, hfound, by rw [hsame]; rfl⟩⟩
  | none =>
    have hlast : db.lastTypeId ≠ maxWord := by
      intro he
      have hroom' := hroom hrow
      rw [he] at hroom'
      exact absurd hroom' (by decide)
    have hword := toInt_succ_of_ne_maxWord hlast
    have hnonneg := ht.lastTypeId_usable.1
    have hid : usableTypeId T (db.lastTypeId + 1) =
        .ok (UInt32.ofNat (db.lastTypeId + 1).toInt.toNat) :=
      usableTypeId_of_range (by omega) (by rw [hword]; exact hroom hrow)
    have hnone : db.typeId? T = .ok none := by simp [typeId?, hrow]
    have hregister : db.register T =
        .ok (UInt32.ofNat (db.lastTypeId + 1).toInt.toNat, db.registered T) := by
      rw [register, if_neg hlast]
      refine bind_eq_ok.2 ⟨_, hid, ?_⟩
      rw [registered, hrow]
      rfl
    exact ⟨_, bind_eq_ok.2 ⟨none, hnone, bind_eq_ok.2 ⟨_, hregister, rfl⟩⟩⟩

/-- A registered type gives out its next number, unless that is the last one. -/
theorem nextId_registered (db : Database) (T : String) : (db.registered T).nextId T =
    if db.nextNumber T = maxWord then .error (.database .counterOverflow)
    else .ok ((db.nextKey T).id, db.numbered T) := by
  obtain ⟨row, hrow, hnumber⟩ := typeRow?_registered db T
  rw [Database.nextId, hrow]
  simp only [hnumber]
  rfl

/-- Taking a number moves the next one on. -/
theorem typeRow?_numbered (db : Database) (T : String) : ∃ row,
    (db.numbered T).typeRow? T = some row ∧ row.nextId = db.nextNumber T + 1 := by
  obtain ⟨row, hrow, hnumber⟩ := typeRow?_registered db T
  have hcomp : ((fun r : TypeRow => r.name == T) ∘ fun r : TypeRow =>
      if r.name == T then { r with nextId := r.nextId + 1 } else r) = fun r => r.name == T :=
    funext fun r => by rw [Function.comp_apply, movedOn_name]
  have hfound : (db.registered T).types.find? (·.name == T) = some row := hrow
  refine ⟨{ row with nextId := row.nextId + 1 }, ?_, by rw [hnumber]⟩
  rw [typeRow?, numbered, List.find?_map, hcomp, hfound, Option.map_some,
    if_pos (beq_iff_eq.2 (typeRow?_eq_some hrow).2)]

end

/-! ### What stays of the registry -/

/-- Types stay registered under their numbers, and no record number is free again. -/
structure TypesGrow (db db' : Database) : Prop where
  number : ∀ T n, db.typeId? T = .ok (some n) → db'.typeId? T = .ok (some n)
  next : ∀ T, (db.nextNumber T).toInt ≤ (db'.nextNumber T).toInt

section
variable {accepted : Record → Prop} {db db' : Database} {T : String} {n : UInt32}

theorem composes_typesGrow : Composes TypesGrow where
  refl _ := ⟨fun _ _ h => h, fun _ => le_refl _⟩
  trans h h' := ⟨fun T n hn => h'.number T n (h.number T n hn),
    fun T => le_trans (h.next T) (h'.next T)⟩

theorem typesGrow_of_types (h : db'.types = db.types) : TypesGrow db db' := by
  have hrow (T : String) : db'.typeRow? T = db.typeRow? T := by rw [typeRow?, typeRow?, h]
  refine ⟨fun T n hn => ?_, fun T => ?_⟩
  · rw [typeId?, hrow]
    exact hn
  · rw [nextNumber, nextNumber, hrow]

theorem typesGrow_typeId {create : Bool} {found : Option UInt32}
    (h : db.typeId T create = .ok (found, db')) : TypesGrow db db' := by
  rcases typeId_eq_ok h with ⟨-, rfl⟩ | ⟨hnone, -, id, -, -, rfl⟩
  · exact composes_typesGrow.refl _
  refine ⟨fun T' n hn => ?_, fun T' => ?_⟩
  · obtain ⟨row, hrow, -⟩ := typeId?_eq_some hn
    have hrow' : db.types.find? (·.name == T') = some row := hrow
    rw [← hn]
    simp only [typeId?, typeRow?, List.find?_append, hrow', Option.some_or]
  · rw [nextNumber, nextNumber]
    cases hrow : db.typeRow? T' with
    | some row =>
      have hrow' : db.types.find? (·.name == T') = some row := hrow
      simp [typeRow?, List.find?_append, hrow']
    | none =>
      -- a type that is new starts with the number that it would have got
      have hrow' : db.types.find? (·.name == T') = none := hrow
      by_cases hT : T = T' <;> simp [typeRow?, List.find?_append, hrow', hT]

/-- Where a number was taken the next one is larger by one. -/
theorem nextNumber_of_nextId {id : UInt64} (h : db.nextId T = .ok (id, db')) (T' : String) :
    (db'.nextNumber T').toInt =
      if T' = T then (db.nextNumber T).toInt + 1 else (db.nextNumber T').toInt := by
  obtain ⟨row, hrow, hmax, -, rfl⟩ := nextId_eq_ok h
  have hcomp : ((fun r : TypeRow => r.name == T') ∘ fun r : TypeRow =>
      if r.name == T then { r with nextId := r.nextId + 1 } else r) = fun r => r.name == T' :=
    funext fun r => by rw [Function.comp_apply, movedOn_name]
  simp only [nextNumber, typeRow?, List.find?_map, hcomp]
  by_cases hT : T' = T
  · subst hT
    have hfound : db.types.find? (·.name == T') = some row := hrow
    simp only [hfound, Option.map_some, (typeRow?_eq_some hrow).2, beq_self_eq_true, if_true]
    exact toInt_succ_of_ne_maxWord hmax
  · rw [if_neg hT]
    cases hfound : db.types.find? (·.name == T') with
    | none => rfl
    | some found =>
      have hname : found.name = T' := by simpa using List.find?_some hfound
      simp [hname, hT]

theorem typesGrow_nextId {id : UInt64} (h : db.nextId T = .ok (id, db')) : TypesGrow db db' := by
  refine ⟨fun T' n hn => (typeId?_of_nextId h T').trans hn, fun T' => ?_⟩
  rw [nextNumber_of_nextId h]
  split
  · next hT =>
    rw [hT]
    omega
  · exact le_refl _

/-- Whatever a store does, the registry grows. -/
theorem keptBy_typesGrow (s : Store) (accepted : Record → Prop) (db₀ : Database) :
    KeptBy s accepted (TypesGrow db₀) := by
  have hc := composes_typesGrow
  have hkept {db db' : Database} (h : TypesGrow db₀ db) (hfixed : FixedKept db db') :
      TypesGrow db₀ db' := hc.trans h (typesGrow_of_types hfixed.types)
  exact {
    typeId := fun h hstep => hc.trans h (typesGrow_typeId hstep)
    nextId := fun h hstep => hc.trans h (typesGrow_nextId hstep)
    addRecord := fun h _ hnext _ hstep =>
      hkept (hc.trans h (typesGrow_nextId hnext)) (fixedKept_addRecord _ _ _ _ _ _ _ hstep)
    replaceRecord := fun h _ _ hstep => hkept h (replaceRecord_changesOne hstep).fixedKept
    deleteRecord := fun h _ hstep => hkept h (deleteRecord_changesOne hstep).fixedKept
    moveRecord := fun h _ hstep => hkept h (moveRecord_changesOne hstep).fixedKept
    clearType := fun h _ hstep => hkept h (fixedKept_clearType _ _ _ _ _ _ hstep)
    publish := fun h _ _ hstep => hc.trans h (typesGrow_of_types (fixed_publish hstep).1)
    unpublish := fun h _ hstep => hc.trans h (typesGrow_of_types (fixed_unpublish hstep).1) }

theorem typesGrow_perform (s : Store) (o : Operation) (w : Workspace) :
    TypesGrow w.database (s.perform o w).2.database := by
  have hadmits : o.Admits fun _ => True := by cases o <;> simp [Operation.Admits]
  exact (keptBy_typesGrow s (fun _ => True) w.database).perform hadmits (composes_typesGrow.refl _)

end

end RecordStore
