import Mathlib
import RecordStore.Proofs.Store.Counted
import RecordStore.Proofs.Store.Progress

/-!
What stores answer when a record is to be entered.  A new record needs a type name that can be used
and numbers that are left for its type and for itself; then conflicts alone keep it out.
-/
namespace RecordStore
open Database Transaction Sql Index RecordStore.Action

attribute [local irreducible] tableName indexName

section
variable {stem : String} {accepted : Record → Prop} {db db' : Database} {T : String} {n : UInt32}

/-! ### New records -/

/-- The answer to an attempt to enter a record: what it would be, or the conflict that it meets. -/
def entered {α : Type} (T : String) (a : α) (conflict : Option IndexDefinition) : Except Error α :=
  conflict.elim (.ok a) fun ix => .error (.uniquenessConflict T ix.name)

theorem transact_of_ends {α : Type} {t : Transaction α} {w : Workspace} {a : α}
    {c : Option IndexDefinition}
    (h : Ends t w.database a (c.map fun ix => .uniquenessConflict T ix.name)) :
    (transact t w).1 = entered T a c := by
  cases c with
  | none =>
    obtain ⟨db', h⟩ := h
    rw [transact_of_ok h]
    rfl
  | some ix =>
    rw [transact_of_error h]
    rfl

/-- What a record meets does not depend on the registry but for the number of its type. -/
theorem Meets.of_registry {m : Int64} {r : Record} {c : Option IndexDefinition}
    (h : Meets db T m r c) (hs : db'.schemas = db.schemas) (hr : db'.records = db.records)
    (hn : ∀ n, db.typeId? T = .ok (some n) → db'.typeId? T = .ok (some n)) : Meets db' T m r c := by
  have htext : db'.schemaText? T = db.schemaText? T := by rw [schemaText?, schemaText?, hs]
  cases h with
  | unpublished hnone => exact .unpublished (htext.trans hnone)
  | @published n S hp hapart hvalid hbound =>
    rw [← liveRecords_congr hr n]
    exact .published ⟨htext.trans hp.text, hn n hp.number⟩ hapart hvalid hbound

/-- There are fewer records of a type than numbers. -/
theorem Counted.length_lt (h : Counted db) (hc : Coherent stem accepted db)
    (hn : db.typeId? T = .ok (some n)) : (db.liveRecords n).length < 2 ^ 63 := by
  obtain ⟨row, hrow, -⟩ := typeId?_eq_some hn
  have hfresh := h.fresh hrow hn
  have hle : row.nextId.toInt ≤ 0x7fffffffffffffff := row.nextId.toInt_le
  have hsub : ((db.liveRecords n).map fun x => x.id.toInt.toNat) ⊆ List.range (2 ^ 63 - 1) := by
    intro k hk
    obtain ⟨x, hx, rfl⟩ := List.mem_map.1 hk
    obtain ⟨hmem, htype, -⟩ := mem_liveRecords.1 hx
    have hlt := hfresh x hmem htype
    exact List.mem_range.2 (by omega)
  have hnodup : ((db.liveRecords n).map fun x => x.id.toInt.toNat).Nodup := by
    have hids := hc.records.nodup_ids (n := n)
    rw [List.nodup_map_iff_inj_on (hids.of_map _)]
    intro x hx y hy he
    have hx₀ := (hc.records.each x (mem_liveRecords.1 hx).1).id
    have hy₀ := (hc.records.each y (mem_liveRecords.1 hy).1).id
    exact List.inj_on_of_nodup_map hids hx hy (Int64.toInt_inj.1 (by omega))
  have hlength := (hnodup.subperm hsub).length_le
  rw [List.length_map, List.length_range] at hlength
  omega

/-- What is left to do for a new record once its type name and its value are checked. -/
theorem create_of_object {s : Store} {v : Json} {r : Record} (hT : validTypeName T = true)
    (hv : v.record? = some r) (w : Workspace) : s.create T v w = (do
      let n ← Store.typeId T true
      let id ← transact fun db => db.nextId T
      transact (RecordStore.addRecord s.settings n ⟨T, id⟩ r)
      return ⟨T, id⟩ : Action Key) w := by
  exact (Action.bind_of_ok (lift_checkTypeName hT w)).trans
    (Action.bind_of_ok (lift_checkObject hv w))

/-- What is left to do after that once its type is registered. -/
theorem create_of_typeId {s : Store} {v : Json} {r : Record} (hT : validTypeName T = true)
    (hv : v.record? = some r) (hregister : db.typeId T true = .ok (some n, db'))
    (session : Session) : s.create T v ⟨db, session⟩ = (do
      let id ← transact fun db => db.nextId T
      transact (RecordStore.addRecord s.settings n ⟨T, id⟩ r)
      return ⟨T, id⟩ : Action Key) ⟨db', session⟩ := by
  have htransact : transact (fun db => db.typeId T true) ⟨db, session⟩ =
      (.ok (some n), ⟨db', session⟩) :=
    transact_of_ok (t := fun db => db.typeId T true) (w := ⟨db, session⟩) hregister
  have htype : Store.typeId T true ⟨db, session⟩ = (.ok n, ⟨db', session⟩) :=
    Action.bind_of_ok htransact
  exact (create_of_object hT hv _).trans (Action.bind_of_ok htype)

/-- Under the next number of its type a record ends as the indexes let it. -/
theorem Coherent.addRecord_numbered (haccepted : ∀ r, accepted r → (Json.object r).WellFormed)
    (h : Coherent stem accepted db) (hc : Counted db) {s : StoreSettings} (hs : s.stem = stem)
    {r : Record} {c : Option IndexDefinition} (hr : accepted r) (hroom : db.HasRoom T)
    (hregister : db.typeId T true = .ok (some n, db.registered T))
    (hmeets : Meets db T (db.nextNumber T) r c) :
    Ends (RecordStore.addRecord s n (db.nextKey T) r) (db.numbered T) ()
      (c.map fun ix => .uniquenessConflict T ix.name) := by
  have hnext := (nextId_registered db T).trans (if_neg hroom.record)
  have hregistered := h.typeId hregister
  have hcounted := hc.typeId hregister
  have hnumber := typeId?_of_typeId hregister
  have hnumbered := typeId?_of_nextId hnext
  obtain ⟨hschemas, hrecords⟩ := registered_fixed db T
  obtain ⟨row, hrow, hrowNext⟩ := typeRow?_registered db T
  have hkey : keyWord (db.nextKey T) = .ok (db.nextNumber T) := by
    obtain ⟨row', hrow', -, hkey⟩ := hcounted.keyWord_of_nextId hnext
    obtain rfl : row = row' := Option.some.inj (hrow.symm.trans hrow')
    rw [← hrowNext]
    exact hkey
  have hmeets' : Meets (db.numbered T) T (db.nextNumber T) r c := by
    refine hmeets.of_registry hschemas hrecords fun m hm => ?_
    rw [hnumbered T, hnumber]
    obtain ⟨row', hrow', -⟩ := typeId?_eq_some hm
    have hsame : db.registered T = db := by simp [registered, hrow']
    rw [hsame] at hnumber
    exact hnumber.symm.trans hm
  refine (hregistered.nextId hnext).addRecord_ends haccepted hs hr ((hnumbered T).trans hnumber)
    hkey hmeets' ?_ fun record hrecord htype hid => ?_
  · exact hcounted.length_lt hregistered hnumber
  · -- the number is greater than those of the records of the type
    have hlt := hcounted.fresh hrow hnumber record hrecord htype
    rw [hid, hrowNext] at hlt
    exact lt_irrefl _ hlt

/-- A record for which there is room is stored under the next number of its type, unless it meets an
index that refuses it. -/
theorem Coherent.create_eq (haccepted : ∀ r, accepted r → (Json.object r).WellFormed)
    (h : Coherent stem accepted db) (hc : Counted db) {s : Store} (hs : s.settings.stem = stem)
    {v : Json} {r : Record} {c : Option IndexDefinition} (hT : validTypeName T = true)
    (hv : v.record? = some r) (hr : accepted r) (hroom : db.HasRoom T)
    (hmeets : Meets db T (db.nextNumber T) r c) (session : Session) :
    ∃ w, s.create T v ⟨db, session⟩ = (entered T (db.nextKey T) c, w) ∧
      FixedKept (db.numbered T) w.database := by
  obtain ⟨n, hregister⟩ := exists_typeId h.types hroom.type
  have hnext := (nextId_registered db T).trans (if_neg hroom.record)
  have hends := h.addRecord_numbered haccepted hc hs hr hroom hregister hmeets
  have hnext' : transact (fun db => db.nextId T) ⟨db.registered T, session⟩ =
      (.ok (db.nextKey T).id, ⟨db.numbered T, session⟩) :=
    transact_of_ok (t := fun db => db.nextId T) (w := ⟨db.registered T, session⟩) hnext
  have hcreate : s.create T v ⟨db, session⟩ = (transact
      (RecordStore.addRecord s.settings n (db.nextKey T) r) >>= fun _ => pure (db.nextKey T))
        ⟨db.numbered T, session⟩ :=
    (create_of_typeId hT hv hregister session).trans (Action.bind_of_ok hnext')
  rw [hcreate]
  cases c with
  | none =>
    obtain ⟨db', hadd⟩ := hends
    exact ⟨_, Action.bind_of_ok (transact_of_ok (w := ⟨db.numbered T, session⟩) hadd),
      fixedKept_addRecord s.settings n (db.nextKey T) r _ () db' hadd⟩
  | some ix =>
    exact ⟨_, Action.bind_of_error (transact_of_error (w := ⟨db.numbered T, session⟩) hends),
      composes_fixedKept.refl _⟩

/-! ### Records that change -/

theorem record?_isSome_iff {m : Int64} :
    (db.record? (typeWord n) m).isSome = true ↔ ∃ row ∈ db.liveRecords n, row.id = m := by
  rw [record?, List.find?_isSome]
  simp only [mem_liveRecords, Bool.and_eq_true, beq_iff_eq, bne_iff_ne]
  exact exists_congr fun row => by tauto

/-- A record that is there takes on a new value, unless it meets an index that refuses it. -/
theorem Coherent.update_eq (haccepted : ∀ r, accepted r → (Json.object r).WellFormed)
    (h : Coherent stem accepted db) {s : Store} (hs : s.settings.stem = stem) {text : String}
    {v : Json} {r : Record} {c : Option IndexDefinition} {key : Key} {m : Int64} {session : Session}
    (hv : v.record? = some r) (hr : accepted r)
    (hdecode : (s.decodeKey text ⟨db, session⟩).1 = .ok key)
    (hn : db.typeId? key.typeName = .ok (some n)) (hkey : keyWord key = .ok m)
    (hfound : (db.record? (typeWord n) m).isSome = true) (hmeets : Meets db key.typeName m r c) :
    (s.update text v ⟨db, session⟩).1 = entered key.typeName true c := by
  let w : Workspace := (s.decodeKey text ⟨db, session⟩).2
  have hdecode' : s.decodeKey text ⟨db, session⟩ = (.ok key, w) := Prod.ext hdecode rfl
  have htype : Store.typeId? key.typeName w = (.ok (some n), w) := Prod.ext hn rfl
  have hresolve : s.resolve text ⟨db, session⟩ = (.ok (some (key, n)), w) :=
    (Action.bind_of_ok hdecode').trans ((Action.bind_of_ok htype).trans rfl)
  have hupdate : s.update text v ⟨db, session⟩ =
      transact (RecordStore.replaceRecord s.settings n key r) w :=
    (Action.bind_of_ok (lift_checkObject hv _)).trans (Action.bind_of_ok hresolve)
  rw [hupdate]
  exact transact_of_ends (w := w) (h.replaceRecord_ends haccepted hs hr hn hkey hmeets
    (record?_isSome_iff.1 hfound))

end

/-! ### Numbers that are used up -/

section
variable {db : Database} {T : String} {s : Store} {v : Json} {r : Record}

/-- A type whose numbers are used up takes no record. -/
theorem create_of_numbers_used (ht : TypesSound db) (hT : validTypeName T = true)
    (hv : v.record? = some r)
    (hroom : db.typeRow? T = none → db.lastTypeId.toInt + 1 < 0x100000000)
    (hmax : db.nextNumber T = maxWord) (session : Session) :
    (s.create T v ⟨db, session⟩).1 = .error (.database .counterOverflow) := by
  obtain ⟨n, hregister⟩ := exists_typeId ht hroom
  have hnext : transact (fun db => db.nextId T) ⟨db.registered T, session⟩ =
      (.error (.database .counterOverflow), ⟨db.registered T, session⟩) :=
    transact_of_error (t := fun db => db.nextId T) (w := ⟨db.registered T, session⟩)
      ((nextId_registered db T).trans (if_pos hmax))
  rw [create_of_typeId hT hv hregister session, Action.bind_of_error hnext]

/-- When the type numbers are used up there is no new type. -/
theorem typeId_of_types_used (hnone : db.typeRow? T = none) (hlast : db.lastTypeId = 0xffffffff) :
    db.typeId T true = .error (.unknownType (.invalidNumber T 0x100000000)) := by
  have hfound : db.typeId? T = .ok none := by simp [typeId?, hnone]
  rw [Database.typeId, hfound]
  show (db.register T >>= _) = _
  rw [register, hlast]
  rfl

theorem create_of_types_used (hT : validTypeName T = true) (hv : v.record? = some r)
    (hnone : db.typeRow? T = none) (hlast : db.lastTypeId = 0xffffffff) (session : Session) :
    (s.create T v ⟨db, session⟩).1 = .error (.unknownType (.invalidNumber T 0x100000000)) := by
  have htransact : transact (fun db => db.typeId T true) ⟨db, session⟩ =
      (.error (.unknownType (.invalidNumber T 0x100000000)), ⟨db, session⟩) :=
    transact_of_error (t := fun db => db.typeId T true) (w := ⟨db, session⟩)
      (typeId_of_types_used hnone hlast)
  have htype : Store.typeId T true ⟨db, session⟩ =
      (.error (.unknownType (.invalidNumber T 0x100000000)), ⟨db, session⟩) :=
    Action.bind_of_error htransact
  rw [create_of_object hT hv, Action.bind_of_error htype]

end

/-! ### Databases without room -/

/-- There are more type names than type numbers. -/
theorem exists_unused (names : List String) (h : names.length < 0x100000000) :
    ∃ T, T ∉ names ∧ validTypeName T = true := by
  let word (b : Fin 32 → Bool) : List Char := (List.ofFn b).map fun x => if x then 'a' else 'b'
  have hinj : Function.Injective fun b => String.ofList (word b) := by
    intro b c hbc
    have hwords : word b = word c := by simpa using congrArg String.toList hbc
    refine List.ofFn_injective (List.map_injective_iff.2 (fun x y hxy => ?_) hwords)
    revert hxy
    cases x <;> cases y <;> simp
  have hletter (b : Fin 32 → Bool) (c : Char) (hc : c ∈ word b) : c = 'a' ∨ c = 'b' := by
    obtain ⟨x, -, rfl⟩ := List.mem_map.1 hc
    cases x <;> simp
  have hsize (cs : List Char) : String.utf8Len cs ≤ 4 * cs.length := by
    induction cs with
    | nil => exact le_refl 0
    | cons c cs ih =>
      have hc := c.utf8Size_le_four
      rw [String.utf8Len_cons, List.length_cons]
      omega
  have hvalid (b : Fin 32 → Bool) : validTypeName (String.ofList (word b)) = true := by
    have hlength : (word b).length = 32 := by simp [word]
    simp only [validTypeName, Bool.and_eq_true, bne_iff_ne, decide_eq_true_eq, List.all_eq_true,
      String.toList_ofList, String.utf8ByteSize_ofList]
    refine ⟨⟨fun he => ?_, ?_⟩, fun c hc => ?_⟩
    · have hnil := congrArg (fun t => t.toList.length) he
      simp [hlength] at hnil
    · exact (hsize (word b)).trans (by rw [hlength]; decide)
    · rcases hletter b c hc with rfl | rfl <;> decide
  by_contra hall
  have hmem (b : Fin 32 → Bool) : String.ofList (word b) ∈ names := by
    by_contra hb
    exact hall ⟨_, hb, hvalid b⟩
  have hcard : Fintype.card (Fin 32 → Bool) ≤ names.toFinset.card := by
    rw [← Finset.card_univ]
    exact Finset.card_le_card_of_injOn _ (fun b _ => by simpa using hmem b) hinj.injOn
  have hle := hcard.trans (List.toFinset_card_le names)
  rw [Fintype.card_fun, Fintype.card_bool, Fintype.card_fin] at hle
  omega

/-- The number of a type that was registered last is the largest. -/
theorem lastTypeId_of_append {db db' : Database}
    (h : db'.types.map (·.typeId) = db.types.map (·.typeId) ++ [db.lastTypeId + 1])
    (hmax : db.lastTypeId ≠ maxWord) : db'.lastTypeId = db.lastTypeId + 1 := by
  have hlt := Int64.le_of_lt (lt_succ_of_ne_maxWord hmax)
  have hmaximum : max db.lastTypeId (db.lastTypeId + 1) = db.lastTypeId + 1 := if_pos hlt
  rw [Database.lastTypeId, h]
  cases hids : db.types.map (·.typeId) with
  | nil => rfl
  | cons n ns =>
    have hlast : db.lastTypeId = ns.foldl max n := by rw [lastTypeId, hids]
    show (ns ++ [db.lastTypeId + 1]).foldl max n = _
    rw [List.foldl_append, ← hlast]
    exact hmaximum

section
variable {stem : String} {accepted : Record → Prop} {db : Database} {T : String}
  (haccepted : ∀ r, accepted r → (Json.object r).WellFormed) (hempty : accepted [])
include haccepted hempty

/-- A record without fields is stored wherever no schema asks for some. -/
theorem Reached.create_empty (h : Reached stem accepted db) (hschemas : db.schemas = [])
    (hT : validTypeName T = true) (hroom : db.HasRoom T) : ∃ db', Reached stem accepted db' ∧
      db'.schemas = [] ∧ db'.types = (db.numbered T).types := by
  have hmeets : Meets db T (db.nextNumber T) [] none :=
    .unpublished (by rw [schemaText?, hschemas]; rfl)
  let s : Store := ⟨{ StoreSettings.default with stem := stem }, ⟨"", "", 0, 1⟩⟩
  obtain ⟨w, hw, hkept⟩ := (coherent_of_reached haccepted h).create_eq (s := s) haccepted
    (counted_of_reached haccepted h) rfl hT (v := .object []) rfl hempty hroom hmeets .fresh
  have hdatabase : (s.perform (.create T (.object [])) ⟨db, .fresh⟩).2.database = w.database := by
    show ((Answer.key <$> s.create T (.object [])) _).2.database = _
    rw [map_apply, hw]
  have hnext := h.perform s .fresh (.create T (.object [])) rfl fun r hr => by
    obtain rfl := Option.some.inj hr
    exact hempty
  rw [hdatabase] at hnext
  refine ⟨w.database, hnext, ?_, hkept.types⟩
  rw [hkept.schemas]
  exact (registered_fixed db T).1.trans hschemas

/-- Creating records one after the other brings a type to every number. -/
theorem exists_reached_number (stem : String) (hT : validTypeName T = true) (k : Nat)
    (hk : k < 0x7fffffffffffffff) : ∃ db, Reached stem accepted db ∧ db.schemas = [] ∧
      (db.nextNumber T).toInt = k + 1 ∧ (db.typeRow? T = none → db.lastTypeId = 0) := by
  induction k with
  | zero => exact ⟨.empty, .empty, rfl, rfl, fun _ => rfl⟩
  | succ k ih =>
    obtain ⟨db, hreached, hschemas, hnext, hlast⟩ := ih (by omega)
    have hmax : db.nextNumber T ≠ maxWord := by
      intro he
      have hword : maxWord.toInt = 0x7fffffffffffffff := by decide
      rw [he, hword] at hnext
      omega
    have hroom : db.HasRoom T := ⟨hmax, fun hnone => by rw [hlast hnone]; decide⟩
    obtain ⟨db', hreached', hschemas', htypes⟩ :=
      hreached.create_empty haccepted hempty hschemas hT hroom
    obtain ⟨row, hrow, hnumber⟩ := typeRow?_numbered db T
    have hrow' : db'.typeRow? T = some row := by rw [typeRow?, htypes]; exact hrow
    refine ⟨db', hreached', hschemas', ?_, fun hnone => ?_⟩
    · have hnext' : db'.nextNumber T = db.nextNumber T + 1 := by
        rw [nextNumber, hrow']
        exact hnumber
      rw [hnext', toInt_succ_of_ne_maxWord hmax, hnext]
      push_cast
      rfl
    · rw [hrow'] at hnone
      cases hnone

/-- Creating records of ever new types uses up every type number. -/
theorem exists_reached_types (stem : String) (k : Nat) (hk : k < 0x100000000) :
    ∃ db, Reached stem accepted db ∧ db.schemas = [] ∧ db.types.length = k ∧
      db.lastTypeId.toInt = k := by
  induction k with
  | zero => exact ⟨.empty, .empty, rfl, rfl, rfl⟩
  | succ k ih =>
    obtain ⟨db, hreached, hschemas, hlength, hlast⟩ := ih (by omega)
    obtain ⟨T, hnew, hT⟩ := exists_unused (db.types.map (·.name)) (by rw [List.length_map]; omega)
    have hnone := typeRow?_of_not_mem hnew
    have hmax : db.lastTypeId ≠ maxWord := by
      intro he
      have hword : maxWord.toInt = 0x7fffffffffffffff := by decide
      rw [he, hword] at hlast
      omega
    have hroom : db.HasRoom T := by
      refine ⟨?_, fun _ => by omega⟩
      rw [nextNumber, hnone]
      decide
    obtain ⟨db', hreached', hschemas', htypes⟩ :=
      hreached.create_empty haccepted hempty hschemas hT hroom
    have hids : db'.types.map (·.typeId) = db.types.map (·.typeId) ++ [db.lastTypeId + 1] := by
      rw [htypes, numbered, registered, hnone, List.map_map]
      simp only [Function.comp_def, movedOn_typeId, List.map_append, List.map_cons, List.map_nil]
    refine ⟨db', hreached', hschemas', ?_, ?_⟩
    · have := congrArg List.length hids
      simpa [hlength] using this
    · rw [lastTypeId_of_append hids hmax, toInt_succ_of_ne_maxWord hmax, hlast]
      push_cast
      rfl

end

end RecordStore
