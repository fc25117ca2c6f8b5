import Mathlib
import RecordStore.Proofs.Query.Correct
import RecordStore.Proofs.Store.Entering

/-!
Keys of unique indexes.  No two records of a type share one, and a record is refused for this reason
alone: by the first index in the order of declaration in which another record has its key.
-/
namespace RecordStore
open Database Transaction Sql Index RecordStore.Action

attribute [local irreducible] tableName indexName

section
variable {stem : String} {accepted : Record → Prop} {db db' : Database} {T : String} {n : UInt32}
  {S : Schema} {ix : IndexDefinition}

/-! ### No two records share a key -/

theorem Coherent.pairwise_keys (h : Coherent stem accepted db) (hp : Published db T n S)
    (hix : ix ∈ S.indexes) (hunique : ix.unique = true) :
    (db.liveRecords n).Pairwise fun x y => sharesKey S ix x.record y.record = false := by
  have hholds := h.holds T n S hp
  rcases hholds.apart with hapart | hnil
  · obtain ⟨t, ht, hshaped, hfilled⟩ := hholds.tables.shaped hapart hix
    obtain ⟨ordered, hperm, hrows⟩ := hfilled.exists_rowsOf fun x hx => (hholds.valid x hx).2 ix hix
    have hpairs := (hshaped.distinctBy_values_iff hrows).1 (h.distinctBy hp hapart hix hunique ht)
    refine (hperm.pairwise_iff fun {x y} hxy => ?_).1 hpairs
    rwa [sharesKey_comm]
  · rw [hnil]
    exact .nil

theorem Coherent.keys_differ (h : Coherent stem accepted db) (hp : Published db T n S)
    (hix : ix ∈ S.indexes) (hunique : ix.unique = true) {x y : RecordRow}
    (hx : x ∈ db.liveRecords n) (hy : y ∈ db.liveRecords n) (hne : x ≠ y) :
    sharesKey S ix x.record y.record = false := by
  have hsymm : Std.Symm fun x y : RecordRow => sharesKey S ix x.record y.record = false :=
    ⟨fun x y hxy => by rwa [sharesKey_comm]⟩
  exact List.Pairwise.forall (h.pairwise_keys hp hix hunique) hx hy hne

end

/-! ### Databases that are reached -/

/-- What holds of keys in unique indexes, and how stores of the stem answer to records that may have
the key of another one. -/
structure KeysUnique (stem : String) (db : Database) : Prop where
  distinct : ∀ T n S, Published db T n S → ∀ ix ∈ S.indexes, ix.unique = true →
    ∀ x ∈ db.liveRecords n, ∀ y ∈ db.liveRecords n, x ≠ y → sharesKey S ix x.record y.record = false
  /-- A new record is stored unless it meets an index that refuses it. -/
  create : ∀ (s : Store) session T v r c, s.settings.stem = stem → validTypeName T = true →
    v.record? = some r → Formed r → db.HasRoom T → Meets db T (db.nextNumber T) r c →
    (s.create T v ⟨db, session⟩).1 = entered T (db.nextKey T) c
  /-- So is a changed one, which is never in its own way. -/
  update : ∀ (s : Store) session text v r c key n m, s.settings.stem = stem →
    v.record? = some r → Formed r → (s.decodeKey text ⟨db, session⟩).1 = .ok key →
    db.typeId? key.typeName = .ok (some n) → keyWord key = .ok m →
    (db.record? (typeWord n) m).isSome = true → Meets db key.typeName m r c →
    (s.update text v ⟨db, session⟩).1 = entered key.typeName true c

/-- In every database that stores of one stem reach, keys are unique, and conflicts alone keep records
out that fit their schema. -/
theorem keys_unique {stem : String} {db : Database} (h : Reached stem Formed db) :
    KeysUnique stem db := by
  have hformed : ∀ r, Formed r → (Json.object r).WellFormed := fun _ hr => hr
  have hcoherent := coherent_of_reached hformed h
  refine ⟨fun T n S hp ix hix hunique x hx y hy hne => ?_,
    fun s session T v r c hs hT hv hr hroom hmeets => ?_,
    fun s session text v r c key n m hs hv hr hdecode hn hkey hfound hmeets => ?_⟩
  · exact hcoherent.keys_differ hp hix hunique hx hy hne
  · obtain ⟨w, hw, -⟩ := hcoherent.create_eq hformed (counted_of_reached hformed h) hs hT hv hr hroom
      hmeets session
    rw [hw]
  · exact hcoherent.update_eq hformed hs hv hr hdecode hn hkey hfound hmeets

def switchSchema : Schema where
  attributes := [⟨"on", .boolean, none, true, .unchanged⟩]
  indexes := [⟨"by_on", [⟨"on", .ascending, .unchanged⟩], true⟩]
  sound := by decide

def switchedOn : Json := .object [("on", .bool true)]

/-- One store publishes the schema, and the other one stores a record. -/
def switchDatabase : Database :=
  ((Deployment.opened memberStore false 2).run
    [(0, .createSchema "switch" switchSchema), (1, .create "switch" switchedOn)]).2.database

theorem reached_switchDatabase : Reached "" Formed switchDatabase := by
  refine reached_run (d := .opened memberStore false 2) .empty fun p hp => ?_
  rcases List.mem_cons.1 hp with rfl | hp
  · exact trivial
  · obtain rfl := List.mem_singleton.1 hp
    rintro r ⟨⟩
    simp [Formed, Json.WellFormed, Json.MembersWellFormed]

theorem switchDatabase_fixed : switchDatabase.types = [⟨"switch", 1, 2⟩] ∧
    switchDatabase.schemas = [⟨"switch", switchSchema.text⟩] ∧
    switchDatabase.records = [⟨1, 1, .live, switchedOn.text⟩] := by
  decide +kernel

theorem typeRow?_switch : switchDatabase.typeRow? "switch" = some ⟨"switch", 1, 2⟩ := by
  rw [typeRow?, switchDatabase_fixed.1]
  rfl

theorem published_switchSchema : Published switchDatabase "switch" 1 switchSchema where
  text := by
    rw [schemaText?, switchDatabase_fixed.2.1]
    rfl
  number := by
    rw [typeId?, typeRow?_switch]
    rfl

/-- The one index of the schema refuses a record that has the key of the one that is stored. -/
theorem meets_switch {m : Int64} {r : Record} {c : Option IndexDefinition}
    (hvalid : switchSchema.recordFault? r = none)
    (hbound : ∀ ix ∈ switchSchema.indexes, Bound switchSchema ix r)
    (hc : switchSchema.indexes.find? (fun ix =>
      ix.unique && ((1 : Int64) != m && sharesKey switchSchema ix r [("on", .bool true)])) = c) :
    Meets switchDatabase "switch" m r c := by
  have hrecord : (⟨1, 1, .live, switchedOn.text⟩ : RecordRow).record = [("on", .bool true)] :=
    RecordRow.record_of_text (r := [("on", .bool true)])
      (by simp [Json.WellFormed, Json.MembersWellFormed]) rfl
  have hlive : switchDatabase.liveRecords 1 = [⟨1, 1, .live, switchedOn.text⟩] := by
    rw [liveRecords, switchDatabase_fixed.2.2]
    rfl
  have hblocked : (blocked switchSchema · m r (switchDatabase.liveRecords 1)) = fun ix =>
      ix.unique && ((1 : Int64) != m && sharesKey switchSchema ix r [("on", .bool true)]) := by
    funext ix
    rw [blocked, hlive, List.any_cons, List.any_nil, Bool.or_false, hrecord]
  rw [← hc, ← hblocked]
  exact .published published_switchSchema (List.pairwise_singleton _ _) hvalid hbound

theorem keys_unique_switch :
    (memberStore.create "switch" switchedOn ⟨switchDatabase, .fresh⟩).1 =
        .error (.uniquenessConflict "switch" "by_on") ∧
      (memberStore.create "switch" (.object []) ⟨switchDatabase, .fresh⟩).1 = .ok ⟨"switch", 2⟩ ∧
      (memberStore.update "switch:1" switchedOn ⟨switchDatabase, .fresh⟩).1 = .ok true := by
  have h := keys_unique reached_switchDatabase
  have hnumber : switchDatabase.nextNumber "switch" = 2 := by rw [nextNumber, typeRow?_switch]
  have hkey : switchDatabase.nextKey "switch" = ⟨"switch", 2⟩ := by
    rw [nextKey, hnumber]
    rfl
  have hroom : switchDatabase.HasRoom "switch" := by
    refine ⟨?_, fun hnone => ?_⟩
    · rw [hnumber]
      decide
    · rw [typeRow?_switch] at hnone
      cases hnone
  have hon : Formed [("on", .bool true)] := by
    simp [Formed, Json.WellFormed, Json.MembersWellFormed]
  have hempty : Formed [] := by simp [Formed, Json.WellFormed, Json.MembersWellFormed]
  have hdecode : (memberStore.decodeKey "switch:1" ⟨switchDatabase, .fresh⟩).1 =
      .ok ⟨"switch", 1⟩ := by
    decide +kernel
  have hfound : (switchDatabase.record? (typeWord 1) 1).isSome = true := by
    rw [record?, switchDatabase_fixed.2.2]
    decide +kernel
  have hrefused : Meets switchDatabase "switch" (switchDatabase.nextNumber "switch")
      [("on", .bool true)] (some switchSchema.indexes[0]) := by
    rw [hnumber]
    exact meets_switch (by decide) (by decide) (by decide +kernel)
  have hfree : Meets switchDatabase "switch" (switchDatabase.nextNumber "switch") [] none := by
    rw [hnumber]
    exact meets_switch (by decide) (by decide) (by decide +kernel)
  have hsame : Meets switchDatabase "switch" 1 [("on", .bool true)] none :=
    meets_switch (by decide) (by decide) (by decide +kernel)
  refine ⟨?_, ?_, ?_⟩
  · exact h.create memberStore .fresh "switch" switchedOn _ _ rfl (by decide) rfl hon hroom hrefused
  · rw [← hkey]
    exact h.create memberStore .fresh "switch" (.object []) _ _ rfl (by decide) rfl hempty hroom hfree
  · exact h.update memberStore .fresh "switch:1" switchedOn _ none ⟨"switch", 1⟩ 1 1 rfl rfl hon
      hdecode published_switchSchema.number rfl hfound hsame

/-- Without a conflict in sight a create fails where the name of the type cannot be used, and in
databases in which the numbers of the type or those of types are used up, which are reached. -/
theorem refused_without_conflict :
    (Reached "" Formed .empty ∧ Meets .empty "" 1 [] none ∧
      (memberStore.create "" (.object []) ⟨.empty, .fresh⟩).1 =
        .error (.invalidKey (.badTypeName ""))) ∧
    (∃ db, Reached "" Formed db ∧ Meets db "t" (db.nextNumber "t") [] none ∧
      (memberStore.create "t" (.object []) ⟨db, .fresh⟩).1 = .error (.database .counterOverflow)) ∧
    ∃ db T, Reached "" Formed db ∧ validTypeName T = true ∧ Meets db T (db.nextNumber T) [] none ∧
      (memberStore.create T (.object []) ⟨db, .fresh⟩).1 =
        .error (.unknownType (.invalidNumber T 0x100000000)) := by
  have hformed : ∀ r, Formed r → (Json.object r).WellFormed := fun _ hr => hr
  have hempty : Formed [] := by simp [Formed, Json.WellFormed, Json.MembersWellFormed]
  have hmeets {db : Database} (hschemas : db.schemas = []) (T : String) (m : Int64) :
      Meets db T m [] none :=
    .unpublished (by rw [schemaText?, hschemas]; rfl)
  refine ⟨⟨.empty, hmeets rfl "" 1, rfl⟩, ?_, ?_⟩
  · have hT : validTypeName "t" = true := by decide
    obtain ⟨db, hreached, hschemas, hnext, hlast⟩ :=
      exists_reached_number hformed hempty "" hT 0x7ffffffffffffffe (by decide)
    have hmax : db.nextNumber "t" = maxWord := by
      rw [← Int64.toInt_inj, hnext]
      decide
    exact ⟨db, hreached, hmeets hschemas _ _, create_of_numbers_used
      (coherent_of_reached hformed hreached).types hT rfl (fun hnone => by rw [hlast hnone]; decide)
      hmax .fresh⟩
  · obtain ⟨db, hreached, hschemas, hlength, hlast⟩ :=
      exists_reached_types hformed hempty "" 0xffffffff (by decide)
    obtain ⟨T, hnew, hT⟩ := exists_unused (db.types.map (·.name)) (by rw [List.length_map]; omega)
    have hnone := typeRow?_of_not_mem hnew
    have hlast' : db.lastTypeId = 0xffffffff := by
      rw [← Int64.toInt_inj, hlast]
      decide
    exact ⟨db, T, hreached, hT, hmeets hschemas _ _, create_of_types_used hT rfl hnone hlast' .fresh⟩

end RecordStore
