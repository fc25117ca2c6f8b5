import Mathlib
import RecordStore.Database.TypeRegistry
import RecordStore.Proofs.Outcome

/-!
What registering a type and taking the next record number do to the registry.
-/
namespace RecordStore.Database

theorem typeRow?_eq_none {db : Database} {name : String} (h : db.typeRow? name = none) :
    name ∉ db.types.map (·.name) := by
  intro hmem
  obtain ⟨row, hrow, hname⟩ := List.mem_map.1 hmem
  exact absurd hname (by simpa using List.find?_eq_none.1 h row hrow)

theorem typeRow?_of_not_mem {db : Database} {name : String}
    (h : name ∉ db.types.map (·.name)) : db.typeRow? name = none :=
  List.find?_eq_none.2 fun row hrow => by
    simpa using fun he => h (List.mem_map.2 ⟨row, hrow, he⟩)

theorem typeRow?_eq_some {db : Database} {name : String} {row : TypeRow}
    (h : db.typeRow? name = some row) : row ∈ db.types ∧ row.name = name :=
  ⟨List.mem_of_find?_eq_some h, by simpa using List.find?_some h⟩

theorem typeRow?_of_typeId? {db : Database} {name : String} (h : db.typeId? name = .ok none) :
    db.typeRow? name = none := by
  unfold typeId? at h
  split at h
  · next hrow => exact hrow
  · obtain ⟨n, -, hn⟩ := map_eq_ok.1 h
    cases hn

/-- A registered type keeps its number, and another one is registered at the end. -/
theorem typeId_eq_ok {db db' : Database} {name : String} {create : Bool} {n : Option UInt32}
    (h : db.typeId name create = .ok (n, db')) :
    db.typeId? name = .ok n ∧ db' = db ∨
      db.typeRow? name = none ∧ db.lastTypeId ≠ maxWord ∧ ∃ id, n = some id ∧
        usableTypeId name (db.lastTypeId + 1) = .ok id ∧
        db' = { db with types := db.types ++ [⟨name, db.lastTypeId + 1, 1⟩] } := by
  obtain ⟨found, hfound, k⟩ := bind_eq_ok.1 h
  cases found with
  | some id =>
    obtain ⟨rfl, rfl⟩ := Prod.mk.inj (Except.ok.inj k)
    exact .inl ⟨hfound, rfl⟩
  | none =>
    have hnone : db.typeRow? name = none := typeRow?_of_typeId? hfound
    cases create with
    | false =>
      obtain ⟨rfl, rfl⟩ := Prod.mk.inj (Except.ok.inj k)
      exact .inl ⟨hfound, rfl⟩
    | true =>
      obtain ⟨⟨id, db₁⟩, hreg, k₁⟩ := bind_eq_ok.1 k
      obtain ⟨rfl, rfl⟩ := Prod.mk.inj (Except.ok.inj k₁)
      unfold register at hreg
      split at hreg
      · cases hreg
      · next hlast =>
        obtain ⟨id', hid, k₂⟩ := bind_eq_ok.1 hreg
        obtain ⟨rfl, rfl⟩ := Prod.mk.inj (Except.ok.inj k₂)
        exact .inr ⟨hnone, hlast, id', rfl, hid, rfl⟩

theorem nextId_eq_ok {db db' : Database} {name : String} {id : UInt64}
    (h : db.nextId name = .ok (id, db')) :
    ∃ row, db.typeRow? name = some row ∧ row.nextId ≠ maxWord ∧
      id = UInt64.ofNat row.nextId.toInt.toNat ∧
      db' = { db with types := db.types.map fun r =>
        if r.name == name then { r with nextId := r.nextId + 1 } else r } := by
  unfold nextId at h
  split at h
  · cases h
  · next row hrow =>
    split at h
    · cases h
    · next hmax =>
      obtain ⟨rfl, rfl⟩ := Prod.mk.inj (Except.ok.inj h)
      exact ⟨row, hrow, hmax, rfl, rfl⟩

theorem toInt_succ_of_ne_maxWord {n : Int64} (h : n ≠ maxWord) : (n + 1).toInt = n.toInt + 1 := by
  have hlt : n.toInt < 0x7fffffffffffffff := by
    have hle := n.toInt_le
    have hne : n.toInt ≠ maxWord.toInt := fun he => h (Int64.toInt_inj.1 he)
    have hmax : maxWord.toInt = 0x7fffffffffffffff := by decide
    rw [hmax] at hne
    have : n.toInt ≤ 0x7fffffffffffffff := hle
    omega
  have hge := n.le_toInt
  have h1 : (1 : Int64).toInt = 1 := by decide
  rw [Int64.toInt_add, h1, Int.bmod_eq_of_le] <;> omega

theorem lt_succ_of_ne_maxWord {n : Int64} (h : n ≠ maxWord) : n < n + 1 := by
  rw [Int64.lt_iff_toInt_lt, toInt_succ_of_ne_maxWord h]
  omega

theorem toInt_max (k m : Int64) : (max k m).toInt = max k.toInt m.toInt := by
  show (if k ≤ m then m else k).toInt = _
  split
  · next h =>
    rw [Int64.le_iff_toInt_le] at h
    omega
  · next h =>
    rw [Int64.le_iff_toInt_le] at h
    omega

theorem le_lastTypeId {db : Database} {row : TypeRow} (h : row ∈ db.types) :
    row.typeId.toInt ≤ db.lastTypeId.toInt := by
  have hfold : ∀ (ns : List Int64) (k : Int64), k.toInt ≤ (ns.foldl max k).toInt ∧
      ∀ m ∈ ns, m.toInt ≤ (ns.foldl max k).toInt := by
    intro ns
    induction ns with
    | nil => intro k; exact ⟨le_refl _, by simp⟩
    | cons m ns ih =>
      intro k
      obtain ⟨hle, hall⟩ := ih (max k m)
      rw [toInt_max] at hle
      refine ⟨le_trans (le_max_left _ _) hle, fun l hl => ?_⟩
      rcases List.mem_cons.1 hl with rfl | hl
      · exact le_trans (le_max_right _ _) hle
      · exact hall l hl
  have hmem : row.typeId ∈ db.types.map (·.typeId) := List.mem_map_of_mem h
  unfold lastTypeId
  cases htypes : db.types.map (·.typeId) with
  | nil => rw [htypes] at hmem; cases hmem
  | cons k ks =>
    rw [htypes] at hmem
    rcases List.mem_cons.1 hmem with he | hmem
    · rw [he]
      exact (hfold ks k).1
    · exact (hfold ks k).2 _ hmem

/-- The largest number is that of a type, if there is one. -/
theorem lastTypeId_cases (db : Database) :
    db.lastTypeId = 0 ∨ db.lastTypeId ∈ db.types.map (·.typeId) := by
  have hmax (k m : Int64) : max k m = k ∨ max k m = m := by
    rcases le_total k.toInt m.toInt with hle | hle
    · right
      apply Int64.toInt_inj.1
      rw [toInt_max, max_eq_right hle]
    · left
      apply Int64.toInt_inj.1
      rw [toInt_max, max_eq_left hle]
  have hfold (ns : List Int64) : ∀ k, ns.foldl max k ∈ k :: ns := by
    induction ns with
    | nil => exact fun k => List.mem_cons_self
    | cons m ns ih =>
      intro k
      rw [List.foldl_cons]
      rcases List.mem_cons.1 (ih (max k m)) with he | hmem
      · rw [he]
        rcases hmax k m with hk | hm
        · rw [hk]
          exact List.mem_cons_self
        · rw [hm]
          exact List.mem_cons_of_mem k List.mem_cons_self
      · exact List.mem_cons_of_mem k (List.mem_cons_of_mem m hmem)
  unfold lastTypeId
  cases db.types.map (·.typeId) with
  | nil => exact .inl rfl
  | cons n ns => exact .inr (hfold ns n)

/-- A row whose next record number has moved on, if it is that of the type. -/
theorem movedOn_name (name : String) (r : TypeRow) :
    (if r.name == name then { r with nextId := r.nextId + 1 } else r).name = r.name := by
  split <;> rfl

theorem movedOn_typeId (name : String) (r : TypeRow) :
    (if r.name == name then { r with nextId := r.nextId + 1 } else r).typeId = r.typeId := by
  split <;> rfl

/-- A type that was registered is found afterwards. -/
theorem typeId?_of_typeId {db db' : Database} {name : String} {create : Bool} {n : Option UInt32}
    (h : db.typeId name create = .ok (n, db')) : db'.typeId? name = .ok n := by
  rcases typeId_eq_ok h with ⟨hfound, rfl⟩ | ⟨hnone, -, id, rfl, hid, rfl⟩
  · exact hfound
  have hnew : db.types.find? (·.name == name) = none := hnone
  have hfound : typeRow? { db with
      types := db.types ++ [⟨name, db.lastTypeId + 1, 1⟩] } name =
      some ⟨name, db.lastTypeId + 1, 1⟩ := by
    simp [typeRow?, List.find?_append, hnew]
  rw [typeId?, hfound]
  simp only [hid]
  rfl

/-- Types keep their numbers when record numbers are taken. -/
theorem typeId?_of_nextId {db db' : Database} {name : String} {id : UInt64}
    (h : db.nextId name = .ok (id, db')) (T : String) : db'.typeId? T = db.typeId? T := by
  obtain ⟨row, -, -, -, rfl⟩ := nextId_eq_ok h
  have hcomp : ((fun r : TypeRow => r.name == T) ∘ fun r : TypeRow =>
      if r.name == name then { r with nextId := r.nextId + 1 } else r) = fun r => r.name == T :=
    funext fun r => by rw [Function.comp_apply, movedOn_name]
  simp only [typeId?, typeRow?, List.find?_map, hcomp]
  cases db.types.find? (·.name == T) with
  | none => rfl
  | some r => simp only [Option.map_some, movedOn_typeId]

end RecordStore.Database
