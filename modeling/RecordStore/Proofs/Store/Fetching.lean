import Mathlib
import RecordStore.Proofs.Outcome
import RecordStore.Store.Basic

/-!
What a bulk read fetches.  The numbers that are asked for are sorted by type and cut into portions, and
what the portions give is put together by key; the rows that come out of this are those with the numbers
of one of the keys, and nothing is lost at the seams.
-/
namespace RecordStore

/-! ### Portions -/

/-- Every element of a list is in one of its portions, and they have no others. -/
theorem mem_portions {α : Type} {width : Nat} (hwidth : 0 < width) {xs : List α} {x : α} :
    (∃ portion ∈ Store.portions width xs, x ∈ portion) ↔ x ∈ xs := by
  simp only [Store.portions, List.mem_map, List.mem_range]
  constructor
  · rintro ⟨_, ⟨i, -, rfl⟩, hx⟩
    exact List.mem_of_mem_drop (List.mem_of_mem_take hx)
  · intro hx
    obtain ⟨k, hk, rfl⟩ := List.getElem_of_mem hx
    -- the element with number `k` is in the portion with number `k / width`
    have hsplit := Nat.div_add_mod k width
    have hrest := Nat.mod_lt k hwidth
    rw [Nat.mul_comm] at hsplit
    refine ⟨_, ⟨k / width, ?_, rfl⟩, ?_⟩
    · rw [Nat.lt_iff_add_one_le, Nat.le_div_iff_mul_le hwidth, Nat.add_mul, Nat.one_mul]
      omega
    · rw [List.mem_take_iff_getElem]
      refine ⟨k % width, ?_, ?_⟩
      · rw [List.length_drop]
        omega
      · rw [List.getElem_drop]
        simp only [hsplit]

theorem fetchWidth_pos : 0 < Store.fetchWidth := by decide

/-! ### Values by key -/

section
variable {p q : Key × Json} {found : List (Key × Json)} {xs : List (Key × Json)}

theorem mem_insertValue : p ∈ Store.insertValue found q ↔ p ∈ found ∧ p.1 ≠ q.1 ∨ p = q := by
  simp [Store.insertValue]

theorem mem_of_foldl_insertValue (h : p ∈ xs.foldl Store.insertValue found) :
    p ∈ found ∨ p ∈ xs := by
  induction xs generalizing found with
  | nil => exact .inl h
  | cons q xs ih =>
    rcases ih h with h | h
    · rcases mem_insertValue.1 h with ⟨h, -⟩ | rfl
      · exact .inl h
      · exact .inr List.mem_cons_self
    · exact .inr (List.mem_cons_of_mem q h)

/-- When no two values have one key, none of them is lost. -/
theorem mem_foldl_insertValue (hone : ∀ p q, (p ∈ found ∨ p ∈ xs) → (q ∈ found ∨ q ∈ xs) →
    p.1 = q.1 → p = q) : p ∈ xs.foldl Store.insertValue found ↔ p ∈ found ∨ p ∈ xs := by
  refine ⟨mem_of_foldl_insertValue, fun h => ?_⟩
  induction xs generalizing found with
  | nil => exact h.resolve_right List.not_mem_nil
  | cons q xs ih =>
    have hkept {p : Key × Json} (hp : p ∈ found ∨ p = q) : p ∈ Store.insertValue found q := by
      by_cases hkey : p.1 = q.1
      · have hmem : p ∈ found ∨ p ∈ q :: xs :=
          hp.imp_right fun heq : p = q => heq ▸ List.mem_cons_self
        exact mem_insertValue.2 (.inr (hone p q hmem (.inr List.mem_cons_self) hkey))
      · have hfound := hp.resolve_right fun heq => hkey (congrArg Prod.fst heq)
        exact mem_insertValue.2 (.inl ⟨hfound, hkey⟩)
    have hback {p : Key × Json} (hp : p ∈ Store.insertValue found q ∨ p ∈ xs) :
        p ∈ found ∨ p ∈ q :: xs := by
      rcases hp with hp | hp
      · exact (mem_insertValue.1 hp).imp And.left fun heq : p = q => heq ▸ List.mem_cons_self
      · exact .inr (List.mem_cons_of_mem q hp)
    refine ih (fun a b ha hb => hone a b (hback ha) (hback hb)) ?_
    rcases h with h | h
    · exact .inl (hkept (.inl h))
    · exact (List.mem_cons.1 h).imp_left fun heq => hkept (.inr heq)

theorem nodup_foldl_insertValue (h : (found.map (·.1)).Nodup) :
    ((xs.foldl Store.insertValue found).map (·.1)).Nodup := by
  induction xs generalizing found with
  | nil => exact h
  | cons q xs ih =>
    refine ih ?_
    rw [Store.insertValue, List.map_append, List.nodup_append]
    refine ⟨h.sublist (List.filter_sublist.map _), List.nodup_singleton _, ?_⟩
    rintro _ hkey _ hlast rfl
    obtain ⟨p, hp, hpq⟩ := List.mem_map.1 hkey
    have hne := (List.mem_filter.1 hp).2
    rw [bne_iff_ne] at hne
    exact hne (hpq.trans (List.mem_singleton.1 hlast))

end

/-! ### Rows -/

/-- A value that comes from the row with the number of one of the keys that are asked for. -/
def Database.Fetched (db : Database) (wanted : List (Key × Int64)) (p : Key × Json) : Prop :=
  ∃ n row, db.typeId? p.1.typeName = .ok (some n) ∧ row ∈ db.records ∧ row.typeId = typeWord n ∧
    row.state ≠ .deleted ∧ (∃ q ∈ wanted, q.1.typeName = p.1.typeName ∧ q.2 = row.id) ∧
    Store.keyedValue p.1.typeName row = .ok p

section
variable {db : Database} {T : String} {n : UInt32} {ids : List Int64} {wanted : List (Key × Int64)}
  {found : List (Key × Json)} {p : Key × Json}

/-- The value of a row is that of its text, under the number that it is stored with. -/
theorem keyedValue_eq_ok {row : RecordRow} : Store.keyedValue T row = .ok p ↔
    0 ≤ row.id.toInt ∧ p.1 = ⟨T, UInt64.ofNat row.id.toInt.toNat⟩ ∧
      Json.parse? row.text = some p.2 := by
  constructor
  · intro h
    obtain ⟨id, hid, h⟩ := bind_eq_ok.1 h
    unfold recordId storedNumber at hid
    split at hid
    · next hnonneg =>
      obtain rfl := Except.ok.inj hid
      split at h
      · next v hv =>
        obtain rfl := Except.ok.inj h
        exact ⟨hnonneg, rfl, hv⟩
      · cases h
    · cases hid
  · rintro ⟨hnonneg, hkey, hvalue⟩
    refine bind_eq_ok.2 ⟨_, if_pos hnonneg, ?_⟩
    rw [hvalue]
    exact congrArg Except.ok (Prod.ext hkey.symm rfl)

theorem mem_idsByType : (T, ids) ∈ Store.idsByType wanted ↔
    (∃ q ∈ wanted, q.1.typeName = T) ∧ ids = (wanted.filter (·.1.typeName == T)).map (·.2) := by
  simp only [Store.idsByType, List.mem_map, List.mem_eraseDups, Prod.mk.injEq]
  constructor
  · rintro ⟨T', hT, rfl, rfl⟩
    exact ⟨hT, rfl⟩
  · rintro ⟨hT, rfl⟩
    exact ⟨T, hT, rfl, rfl⟩

theorem mem_fetchPortion (h : Store.fetchPortion db T n ids = .ok found) :
    p ∈ found ↔ ∃ row ∈ db.records, row.typeId = typeWord n ∧ row.state ≠ .deleted ∧
      row.id ∈ ids ∧ Store.keyedValue T row = .ok p := by
  rw [mem_of_mapM_eq_ok h]
  simp only [List.mem_filter, Bool.and_eq_true, beq_iff_eq, bne_iff_ne, List.contains_iff_mem]
  constructor
  · rintro ⟨row, ⟨hrow, ⟨htype, hid⟩, hstate⟩, hvalue⟩
    exact ⟨row, hrow, htype, hstate, hid, hvalue⟩
  · rintro ⟨row, hrow, htype, hstate, hid, hvalue⟩
    exact ⟨row, ⟨hrow, ⟨htype, hid⟩, hstate⟩, hvalue⟩

theorem mem_fetchType (h : Store.fetchType db T ids = .ok found) :
    p ∈ found ↔ ∃ n, db.typeId? T = .ok (some n) ∧ ∃ row ∈ db.records, row.typeId = typeWord n ∧
      row.state ≠ .deleted ∧ row.id ∈ ids ∧ Store.keyedValue T row = .ok p := by
  obtain ⟨number, hnumber, h⟩ := bind_eq_ok.1 h
  cases number with
  | none =>
    obtain rfl := Except.ok.inj h
    rw [hnumber]
    simp
  | some n =>
    obtain ⟨parts, hparts, h⟩ := bind_eq_ok.1 h
    obtain rfl := Except.ok.inj h
    rw [mem_flatten_of_mapM hparts, hnumber]
    simp only [Except.ok.injEq, Option.some.injEq, exists_eq_left']
    constructor
    · rintro ⟨portion, hportion, found, hfound, hp⟩
      obtain ⟨row, hrow, htype, hstate, hid, hvalue⟩ := (mem_fetchPortion hfound).1 hp
      exact ⟨row, hrow, htype, hstate, (mem_portions fetchWidth_pos).1 ⟨portion, hportion, hid⟩, hvalue⟩
    · rintro ⟨row, hrow, htype, hstate, hid, hvalue⟩
      obtain ⟨portion, hportion, hid⟩ := (mem_portions fetchWidth_pos).2 hid
      obtain ⟨found, -, hfound⟩ := exists_of_mem_right (mapM_eq_ok.1 hparts).flip hportion
      exact ⟨portion, hportion, found, hfound,
        (mem_fetchPortion hfound).2 ⟨row, hrow, htype, hstate, hid, hvalue⟩⟩

/-- A bulk read puts the values together that it has fetched. -/
theorem fetch_eq_ok (h : Store.fetch db wanted = .ok found) :
    ∃ xs : List (Key × Json), found = xs.foldl Store.insertValue [] ∧ ∀ p, p ∈ xs ↔ db.Fetched wanted p := by
  obtain ⟨parts, hparts, h⟩ := bind_eq_ok.1 h
  refine ⟨parts.flatten, (Except.ok.inj h).symm, fun p => ?_⟩
  rw [mem_flatten_of_mapM hparts]
  constructor
  · rintro ⟨⟨T, ids⟩, hids, values, hvalues, hp⟩
    obtain ⟨n, hn, row, hrow, htype, hstate, hid, hvalue⟩ := (mem_fetchType hvalues).1 hp
    obtain ⟨-, rfl⟩ := mem_idsByType.1 hids
    obtain ⟨q, hq, hword⟩ := List.mem_map.1 hid
    obtain ⟨hwanted, hqtype⟩ := List.mem_filter.1 hq
    obtain rfl : p.1.typeName = T := congrArg Key.typeName (keyedValue_eq_ok.1 hvalue).2.1
    exact ⟨n, row, hn, hrow, htype, hstate, ⟨q, hwanted, beq_iff_eq.1 hqtype, hword⟩, hvalue⟩
  · rintro ⟨n, row, hn, hrow, htype, hstate, ⟨q, hwanted, hqtype, hword⟩, hvalue⟩
    have hids := mem_idsByType.2 ⟨⟨q, hwanted, hqtype⟩, rfl⟩
    obtain ⟨values, -, hvalues⟩ := exists_of_mem_right (mapM_eq_ok.1 hparts).flip hids
    refine ⟨_, hids, values, hvalues, (mem_fetchType hvalues).2
      ⟨n, hn, row, hrow, htype, hstate, ?_, hvalue⟩⟩
    exact List.mem_map.2 ⟨q, List.mem_filter.2 ⟨hwanted, beq_iff_eq.2 hqtype⟩, hword⟩

/-- A bulk read fails with what the numbers of its types or the rows with its numbers fail with. -/
theorem failsOnly_fetch {P : Error → Prop} (htypes : ∀ T, FailsOnly P (db.typeId? T))
    (hrows : ∀ q ∈ wanted, ∀ n, db.typeId? q.1.typeName = .ok (some n) → ∀ row ∈ db.records,
      row.typeId = typeWord n → row.state ≠ .deleted → q.2 = row.id →
      FailsOnly P (Store.keyedValue q.1.typeName row)) :
    FailsOnly P (Store.fetch db wanted) := by
  refine failsOnly_bind (failsOnly_mapM ?_) fun _ _ => failsOnly_ok _
  rintro ⟨T, ids⟩ hids
  obtain ⟨-, rfl⟩ := mem_idsByType.1 hids
  refine failsOnly_bind (htypes T) fun number hnumber => ?_
  cases number with
  | none => exact failsOnly_ok _
  | some n =>
    refine failsOnly_bind (failsOnly_mapM fun portion hportion => failsOnly_mapM ?_)
      fun _ _ => failsOnly_ok _
    intro row hrow
    simp only [List.mem_filter, Bool.and_eq_true, beq_iff_eq, bne_iff_ne,
      List.contains_iff_mem] at hrow
    obtain ⟨hmem, ⟨htype, hid⟩, hstate⟩ := hrow
    obtain ⟨q, hq, hword⟩ := List.mem_map.1 ((mem_portions fetchWidth_pos).1 ⟨portion, hportion, hid⟩)
    obtain ⟨hwanted, hqtype⟩ := List.mem_filter.1 hq
    obtain rfl := beq_iff_eq.1 hqtype
    exact hrows q hwanted n hnumber row hmem htype hstate hword

end

end RecordStore
