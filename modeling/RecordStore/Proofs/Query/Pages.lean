import Mathlib
import RecordStore.Proofs.Query.Answer
import RecordStore.Proofs.Query.Token

/-!
Pages of one list.  A page is the part of the list that its token and its size cut out, and its next
token is there as long as the list goes on.  The row that a statement fetches beyond the page never
shows.
-/
namespace RecordStore
open Sql Database Index

/-! ### Numbers of records -/

/-- The key of a stored record. -/
def RecordRow.key (typeName : String) (row : RecordRow) : Key :=
  ⟨typeName, UInt64.ofNat row.id.toInt.toNat⟩

theorem storedNumber_of_nonneg {fault : Int64 → Inconsistency} {m : Int64} (h : 0 ≤ m.toInt) :
    storedNumber fault m = .ok (UInt64.ofNat m.toInt.toNat) :=
  if_pos h

theorem mapM_storedNumber {fault : Int64 → Inconsistency} {ns : List Int64}
    (h : ∀ m ∈ ns, 0 ≤ m.toInt) :
    ns.mapM (storedNumber fault) = .ok (ns.map fun m => UInt64.ofNat m.toInt.toNat) := by
  rw [mapM_eq_ok, List.forall₂_map_right_iff, List.forall₂_same]
  exact fun m hm => storedNumber_of_nonneg (h m hm)

/-- There are no more numbers for records than there are words that are not negative. -/
theorem length_le_of_nodup {ns : List Int64} (hnodup : ns.Nodup) (h : ∀ m ∈ ns, 0 ≤ m.toInt) :
    ns.length ≤ 0x8000000000000000 := by
  have hinj : ∀ a ∈ ns, ∀ b ∈ ns, a.toInt.toNat = b.toInt.toNat → a = b := by
    intro a ha b hb heq
    have hna := h a ha
    have hnb := h b hb
    exact Int64.toInt_inj.1 (by omega)
  have hsub : (ns.map fun m => m.toInt.toNat).toFinset ⊆ Finset.range 0x8000000000000000 := by
    intro k hk
    obtain ⟨m, -, rfl⟩ := List.mem_map.1 (List.mem_toFinset.1 hk)
    have hlt := m.toInt_lt
    exact Finset.mem_range.2 (by omega)
  have hcard := Finset.card_le_card hsub
  rwa [List.toFinset_card_of_nodup ((List.nodup_map_iff_inj_on hnodup).2 hinj), List.length_map,
    Finset.card_range] at hcard

/-! ### Parts of a list -/

namespace Page

/-- The part of a list that a page shows. -/
def part (keys : List Key) (offset : UInt64) : Option UInt64 → Page
  | none => ⟨keys.drop offset.toNat, none⟩
  | some size =>
    ⟨(keys.drop offset.toNat).take size.toNat,
      if offset.toNat + size.toNat < keys.length then some (Token.encode (offset + size)) else none⟩

end Page

/-- A size that a page can have. -/
theorem pageLimit_some_eq_ok {offset size : UInt64} {limit : Option UInt64} :
    Query.pageLimit offset (some size) = .ok limit ↔
      0 < size.toNat ∧ size.toNat < 0x7fffffffffffffff ∧ limit = some (size + 1) := by
  have hmax : Query.maxLimit.toNat = 0x7fffffffffffffff := rfl
  unfold Query.pageLimit
  simp only
  constructor
  · intro h
    split_ifs at h with hzero hlarge
    rw [UInt64.le_iff_toNat_le, hmax] at hlarge
    have hpos : size.toNat ≠ 0 := fun h => hzero (UInt64.toNat_inj.1 h)
    exact ⟨by omega, by omega, (Except.ok.inj h).symm⟩
  · rintro ⟨hpos, hlt, rfl⟩
    rw [if_neg, if_neg]
    · rw [UInt64.le_iff_toNat_le, hmax]
      omega
    · rintro rfl
      exact absurd hpos (by decide)

/-- Where the next page of a list starts. -/
theorem add_toNat {offset size : UInt64} {length : Nat} (hlength : length ≤ 0x8000000000000000)
    (h : offset.toNat + size.toNat < length) :
    (offset + size).toNat = offset.toNat + size.toNat ∧
      Page.addSaturating offset size = offset + size := by
  constructor
  · rw [UInt64.toNat_add]
    omega
  · exact if_pos (by omega)

theorem toNat_elim_ite (offset : UInt64) :
    (if 0 < offset then some offset else none).elim 0 UInt64.toNat = offset.toNat := by
  split_ifs with h
  · rfl
  · have hzero : offset = 0 := by
      rw [UInt64.lt_iff_toNat_lt, UInt64.toNat_zero] at h
      exact UInt64.toNat_inj.1 (by rw [UInt64.toNat_zero]; omega)
    rw [hzero]
    rfl

/-- The rows that a statement leaves for a page make the part of the list that the page is for. -/
theorem ofIds_cut (T : String) {ids : List UInt64} (hlength : ids.length ≤ 0x8000000000000000)
    {offset : UInt64} {size limit : Option UInt64} (hlimit : Query.pageLimit offset size = .ok limit) :
    Page.ofIds T (cut (if 0 < offset then some offset else none) limit ids) offset size =
      Page.part (ids.map (⟨T, ·⟩)) offset size := by
  cases size with
  | none =>
    have hcut : cut (if 0 < offset then some offset else none) limit ids =
        ids.drop offset.toNat := by
      rw [cut, toNat_elim_ite]
      obtain rfl : (if 0 < offset then some Query.maxLimit else none) = limit :=
        Except.ok.inj hlimit
      split_ifs with hpos
      · -- what is left after an offset fits under the largest limit
        have hmax : Query.maxLimit.toNat = 0x7fffffffffffffff := rfl
        rw [UInt64.lt_iff_toNat_lt, UInt64.toNat_zero] at hpos
        refine List.take_of_length_le ?_
        rw [List.length_drop, hmax]
        omega
      · rfl
    rw [hcut, Page.ofIds, Page.part, List.map_drop]
  | some size =>
    obtain ⟨hpos, hlt, rfl⟩ := pageLimit_some_eq_ok.1 hlimit
    have hsucc : (size + 1).toNat = size.toNat + 1 := by
      rw [UInt64.toNat_add, UInt64.toNat_one]
      omega
    have hcut : cut (if 0 < offset then some offset else none) (some (size + 1)) ids =
        (ids.drop offset.toNat).take (size.toNat + 1) := by
      rw [cut, toNat_elim_ite, Option.elim_some, hsucc]
    rw [hcut, Page.ofIds, Page.part, List.length_map, List.length_take, List.length_drop]
    by_cases hmore : offset.toNat + size.toNat < ids.length
    · have htaken : size.toNat < min (size.toNat + 1) (ids.length - offset.toNat) := by omega
      rw [if_pos htaken, if_pos hmore, (add_toNat hlength hmore).2, List.take_take,
        Nat.min_eq_left (Nat.le_succ _), List.map_take, List.map_drop]
    · have htaken : ¬ size.toNat < min (size.toNat + 1) (ids.length - offset.toNat) := by omega
      have hall : ((ids.drop offset.toNat).take (size.toNat + 1)) =
          (ids.drop offset.toNat).take size.toNat := by
        rw [List.take_of_length_le, List.take_of_length_le]
        · rw [List.length_drop]
          omega
        · rw [List.length_drop]
          omega
      rw [if_neg htaken, if_neg hmore, hall, List.map_take, List.map_drop]

/-- A list of one element at most is its own first page, whatever the size. -/
theorem part_of_length_le_one {keys : List Key} (hlength : keys.length ≤ 1) {size : Option UInt64}
    {limit : Option UInt64} (hlimit : Query.pageLimit 0 size = .ok limit) :
    Page.part keys 0 size = ⟨keys, none⟩ := by
  cases size with
  | none => rfl
  | some size =>
    obtain ⟨hpos, -, -⟩ := pageLimit_some_eq_ok.1 hlimit
    have hmore : ¬ (0 : UInt64).toNat + size.toNat < keys.length := by
      rw [UInt64.toNat_zero]
      omega
    rw [Page.part, if_neg hmore, UInt64.toNat_zero, List.drop_zero,
      List.take_of_length_le (by omega)]

/-! ### Pages of a query -/

section
variable {T : String} {n : UInt32} {s : Schema} {ix : IndexDefinition} {q : Query}
  {cs : List Condition} {db : Database} {answer : List RecordRow} {accepted : Record → Prop}
  {settings : StoreSettings}

/-- A query whose terms compile makes a plan for every token and size that can be read. -/
theorem Query.Compiles.compile {t : Target} (hq : q.Compiles t cs) (bound : UInt64) :
    q.compile t bound =
      if t.index.unique && q.token.isNone && bindsAll t.index q.terms then
        .ok ⟨{ q.base t cs with limit := some (lookupLimit bound) }, 0, none, true⟩
      else paginate (q.sorted t cs) q.token q.pageSize := by
  unfold Query.compile
  rw [hq.stray, hq.unbound]
  rw [hq.conditions]
  rfl

/-- What compiling makes sure of has nothing to do with pages. -/
theorem Query.Compiles.withPage {t : Target} (hq : q.Compiles t cs) (token : Option String)
    (size : Option UInt64) : Compiles t { q with token := token, pageSize := size } cs :=
  ⟨hq.stray, hq.unbound, hq.conditions⟩

theorem one_le_lookupLimit (bound : UInt64) : 1 ≤ (Query.lookupLimit bound).toNat := by
  unfold Query.lookupLimit
  split_ifs with hzero hle
  · decide
  · have hpos : bound.toNat ≠ 0 := fun h => hzero (UInt64.toNat_inj.1 h)
    omega
  · decide

/-- Numbers of records that are sound can be read back. -/
theorem ids_of_answer (h : RecordsSound accepted db.records)
    (hanswer : ∀ record ∈ answer, record ∈ db.records) :
    ∀ m ∈ answer.map (·.id), 0 ≤ m.toInt := by
  intro m hm
  obtain ⟨record, hrecord, rfl⟩ := List.mem_map.1 hm
  exact (h.each record (hanswer record hrecord)).id

theorem nodup_ids_of_mem (h : RecordsSound accepted db.records) (hnodup : answer.Nodup)
    (hanswer : ∀ record ∈ answer, record ∈ db.liveRecords n) : (answer.map (·.id)).Nodup := by
  rw [List.nodup_map_iff_inj_on hnodup]
  intro a ha b hb hid
  have ha' := mem_liveRecords.1 (hanswer a ha)
  have hb' := mem_liveRecords.1 (hanswer b hb)
  exact h.eq_of_id ha'.1 hb'.1 (ha'.2.1.trans hb'.2.1.symm) hid

theorem map_key (T : String) (answer : List RecordRow) :
    ((answer.map (·.id)).map fun m => UInt64.ofNat m.toInt.toNat).map (⟨T, ·⟩) =
      answer.map (RecordRow.key T) := by
  rw [List.map_map, List.map_map]
  rfl

/-- The rows that a statement leaves for a page make the part of the answer that the page is for. -/
theorem exists_page (T : String) (hnodup : (answer.map (·.id)).Nodup)
    (hnonneg : ∀ m ∈ answer.map (·.id), 0 ≤ m.toInt) (fault : Int64 → Inconsistency)
    {offset : UInt64} {size limit : Option UInt64} (hlimit : Query.pageLimit offset size = .ok limit) :
    ∃ ids, (cut (if 0 < offset then some offset else none) limit (answer.map (·.id))).mapM
        (storedNumber fault) = .ok ids ∧
      Page.ofIds T ids offset size = Page.part (answer.map (RecordRow.key T)) offset size := by
  have hlength := length_le_of_nodup hnodup hnonneg
  have hcut : ∀ m ∈ cut (if 0 < offset then some offset else none) limit (answer.map (·.id)),
      0 ≤ m.toInt := by
    intro m hm
    refine hnonneg m ?_
    unfold cut at hm
    cases limit with
    | none => exact List.mem_of_mem_drop hm
    | some k => exact List.mem_of_mem_drop (List.mem_of_mem_take hm)
  refine ⟨_, mapM_storedNumber hcut, ?_⟩
  rw [map_cut, ofIds_cut T (by simpa using hlength) hlimit, map_key]

/-- Cells are read as record numbers when they hold integers that are. -/
theorem mapM_indexedId_eq_ok {table : String} {cells : List Cell} {ids : List UInt64} :
    cells.mapM (indexedId table) = .ok ids ↔
      ∃ rows : List Int64, cells = rows.map .integer ∧
        rows.mapM (storedNumber (.negativeId · table)) = .ok ids := by
  have hid (c : Cell) (id : UInt64) : indexedId table c = .ok id ↔
      ∃ n, c = .integer n ∧ storedNumber (.negativeId · table) n = .ok id := by
    simp only [indexedId, bind_eq_ok, mapError_eq_ok, readInteger_eq_ok]
  simp only [mapM_eq_ok]
  constructor
  · intro h
    induction h with
    | nil => exact ⟨[], rfl, .nil⟩
    | cons hc _ ih =>
      obtain ⟨n, rfl, hn⟩ := (hid _ _).1 hc
      obtain ⟨rows, rfl, hrows⟩ := ih
      exact ⟨n :: rows, rfl, .cons hn hrows⟩
  · rintro ⟨rows, rfl, hrows⟩
    rw [List.forall₂_map_left_iff]
    exact hrows.imp fun n id hn => (hid _ _).2 ⟨n, rfl, hn⟩

/-- What a query answers once it is compiled and its rows are found. -/
theorem queryIndex_of_found (hp : Published db T n s) (hix : ix ∈ s.indexes) {plan : Plan}
    {rows : List Int64} {ids : List UInt64}
    (hplan : q.compile ⟨T, s, ix, names settings.stem n ix.name⟩ settings.lookupLimit = .ok plan)
    (hfound : db.found plan = .ok rows) (hone : plan.lookup = true → rows.length ≤ 1)
    (hids : rows.mapM (storedNumber (.negativeId · (names settings.stem n ix.name).table)) =
      .ok ids) :
    db.queryIndex settings T s ix.name q = .ok (Page.ofIds T ids plan.offset plan.pageSize) := by
  have hnumber : db.requireTypeId T = .ok n := by
    unfold requireTypeId
    rw [hp.number]
    rfl
  have hcells := mapError_eq_ok (f := Error.database).2
    (select_eq_ok_iff.1 (mapError_eq_ok.1 hfound))
  have hunambiguous :
      ¬ ((plan.lookup && decide (1 < (rows.map Cell.integer).length)) = true) := by
    simp only [List.length_map, Bool.and_eq_true, decide_eq_true_eq]
    rintro ⟨hlookup, hmany⟩
    exact absurd (hone hlookup) (not_le.2 hmany)
  unfold queryIndex
  rw [Schema.requireIndex_name hix]
  refine bind_eq_ok.2 ⟨ix, rfl, bind_eq_ok.2 ⟨n, hnumber, bind_eq_ok.2 ⟨plan, hplan,
    bind_eq_ok.2 ⟨_, hcells, ?_⟩⟩⟩⟩
  rw [if_neg hunambiguous]
  exact bind_eq_ok.2 ⟨ids, mapM_indexedId_eq_ok.2 ⟨rows, rfl, hids⟩, rfl⟩

/-- All pages of a query are parts of its answer, whether they come from the sorted statement or from
a lookup. -/
theorem Coherent.queryIndex_part (h : Coherent settings.stem accepted db) (hp : Published db T n s)
    (hix : ix ∈ s.indexes) (hq : q.Compiles ⟨T, s, ix, names settings.stem n ix.name⟩ cs) :
    ∃ answer, Answers T s ix q (db.liveRecords n) answer ∧ ∀ token size offset limit,
      Query.offsetOf token = .ok offset → Query.pageLimit offset size = .ok limit →
      db.queryIndex settings T s ix.name { q with token := token, pageSize := size } =
        .ok (Page.part (answer.map (RecordRow.key T)) offset size) := by
  obtain ⟨answer, hselects⟩ := h.exists_selects hp hix hq
  refine ⟨answer, hselects.answers, fun token size offset limit hoffset hlimit => ?_⟩
  have hmem : ∀ record ∈ answer, record ∈ db.liveRecords n := fun record hrecord =>
    ((hselects.answers.mem record).1 hrecord).1
  have hnonneg := ids_of_answer h.records fun record hrecord =>
    List.mem_of_mem_filter (hmem record hrecord)
  have hnodup := nodup_ids_of_mem h.records hselects.answers.nodup hmem
  have hplan := (hq.withPage token size).compile settings.lookupLimit
  simp only at hplan
  by_cases hpath : (ix.unique && token.isNone && Query.bindsAll ix q.terms) = true
  · -- a lookup finds one row at most, and neither order nor size matters
    rw [if_pos hpath] at hplan
    simp only [Bool.and_eq_true, Option.isNone_iff_eq_none] at hpath
    obtain ⟨⟨hunique, rfl⟩, hall⟩ := hpath
    obtain rfl := Except.ok.inj hoffset
    obtain ⟨hone, hselect⟩ := hselects.lookup hunique hall
    have hfound := mapError_eq_ok (f := Error.database).2
      (hselect _ (one_le_lookupLimit settings.lookupLimit))
    rw [queryIndex_of_found hp hix hplan hfound (fun _ => by simpa using hone)
      (mapM_storedNumber hnonneg), part_of_length_le_one (by simpa using hone) hlimit, ← map_key]
    rfl
  · rw [if_neg hpath] at hplan
    have hpaginate :
        Query.paginate (q.sorted ⟨T, s, ix, names settings.stem n ix.name⟩ cs) token size =
          .ok ⟨{ q.sorted ⟨T, s, ix, names settings.stem n ix.name⟩ cs with
            limit := limit
            offset := if 0 < offset then some offset else none }, offset, size, false⟩ :=
      bind_eq_ok.2 ⟨offset, hoffset, bind_eq_ok.2 ⟨limit, hlimit, rfl⟩⟩
    have hfound := mapError_eq_ok (f := Error.database).2
      (hselects.sorted limit (if 0 < offset then some offset else none))
    obtain ⟨ids, hids, hpage⟩ := exists_page T hnodup hnonneg
      (.negativeId · (names settings.stem n ix.name).table) hlimit
    rw [← hpage]
    exact queryIndex_of_found hp hix (hplan.trans hpaginate) hfound (fun h => by cases h) hids

end

end RecordStore
