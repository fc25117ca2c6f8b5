import Mathlib
import RecordStore.Proofs.Database.Table
import RecordStore.Proofs.Database.TypeRegistry

/-!
Numbers of rows.  A table keeps its rows by their numbers, of which no two are the same, so a number
for a new row is always found as long as there are fewer rows than words.
-/
namespace RecordStore.Database
open Sql

namespace Table

/-- The rows stand in the order of their numbers, each number once. -/
def Numbered (t : Table) : Prop :=
  t.rows.Pairwise fun a b => a.number.toInt < b.number.toInt

theorem numbered_of_rows_nil {t : Table} (h : t.rows = []) : t.Numbered := by
  rw [Numbered, h]
  exact .nil

theorem pairwise_place {r : Row} {rows : List Row}
    (h : rows.Pairwise fun a b => a.number.toInt < b.number.toInt)
    (hr : ∀ s ∈ rows, s.number ≠ r.number) :
    (place r rows).Pairwise fun a b => a.number.toInt < b.number.toInt := by
  induction rows with
  | nil => exact List.pairwise_singleton _ _
  | cons s rows ih =>
    obtain ⟨hs, hrows⟩ := List.pairwise_cons.1 h
    unfold place
    split
    · next hlt =>
      rw [Int64.lt_iff_toInt_lt] at hlt
      refine List.pairwise_cons.2 ⟨fun u hu => ?_, h⟩
      rcases List.mem_cons.1 hu with rfl | hu
      · exact hlt
      · exact hlt.trans (hs u hu)
    · next hge =>
      rw [Int64.lt_iff_toInt_lt] at hge
      refine List.pairwise_cons.2 ⟨fun u hu => ?_, ih hrows fun u hu => hr u (List.mem_cons_of_mem s hu)⟩
      rcases List.mem_cons.1 ((place_perm r rows).mem_iff.1 hu) with rfl | hu
      · have hne : s.number.toInt ≠ u.number.toInt :=
          fun he => hr s List.mem_cons_self (Int64.toInt_inj.1 he)
        omega
      · exact hs u hu

theorem pairwise_foldr_place {rows : List Row} (h : (rows.map (·.number)).Nodup) :
    (rows.foldr place []).Pairwise fun a b => a.number.toInt < b.number.toInt := by
  induction rows with
  | nil => exact .nil
  | cons r rows ih =>
    rw [List.map_cons, List.nodup_cons] at h
    refine pairwise_place (ih h.2) fun s hs he => h.1 ?_
    rw [← he]
    exact List.mem_map_of_mem ((foldr_place_perm rows).mem_iff.1 hs)

variable {t t' : Table} {uniques : List (List String)}

theorem Numbered.insert {q : Insert} (h : t.Numbered) (hq : t.insert uniques q = .ok t') :
    t'.Numbered := by
  obtain ⟨-, number, rfl, hfree, -⟩ := insert_eq_ok hq
  exact pairwise_place h hfree

theorem Numbered.update {q : Update} (hq : t.update uniques q = .ok t') : t'.Numbered := by
  obtain ⟨rows, -, rfl, hnodup, -⟩ := update_eq_ok hq
  exact pairwise_foldr_place hnodup

theorem Numbered.delete (h : t.Numbered) (q : Delete) : (t.delete q).Numbered :=
  h.sublist List.filter_sublist

theorem Numbered.nodup (h : t.Numbered) : (t.rows.map (·.number)).Nodup := by
  refine List.pairwise_map.2 (h.imp fun {a b} hlt he => ?_)
  rw [he] at hlt
  exact lt_irrefl _ hlt

/-- The last row has the largest number. -/
theorem Numbered.le_getLast? (h : t.Numbered) {last : Row} (hlast : t.rows.getLast? = some last) :
    ∀ r ∈ t.rows, r.number.toInt ≤ last.number.toInt := by
  intro r hr
  obtain ⟨front, hfront⟩ := List.getLast?_eq_some_iff.1 hlast
  rw [hfront] at hr
  rcases List.mem_append.1 hr with hr | hr
  · rw [Numbered, hfront, List.pairwise_append] at h
    exact (h.2.2 r hr last (List.mem_singleton_self last)).le
  · rw [List.mem_singleton.1 hr]

/-- Numbers from the largest one downwards. -/
def downwards (k : Nat) : List Int64 :=
  (List.range k).map fun i => Int64.maxValue - .ofNat i

theorem nodup_downwards {k : Nat} (hk : k ≤ 2 ^ 63) : (downwards k).Nodup := by
  rw [downwards, List.nodup_map_iff_inj_on List.nodup_range]
  intro i hi j hj he
  rw [List.mem_range] at hi hj
  have hword := congrArg Int64.toInt he
  rw [Int64.toInt_sub, Int64.toInt_sub] at hword
  have hint (k : Nat) (hk : k < 2 ^ 63) : (Int64.ofNat k).toInt = k := Int64.toInt_ofNat_of_lt hk
  rw [hint i (by omega), hint j (by omega)] at hword
  have hmax : Int64.maxValue.toInt = 2 ^ 63 - 1 := by decide
  rw [hmax, Int.bmod_eq_of_le (by omega) (by omega), Int.bmod_eq_of_le (by omega) (by omega)] at hword
  omega

/-- As many numbers as there are rows and one more cannot all be in use. -/
theorem exists_free {rows : List Row} (hlength : rows.length < 2 ^ 63) :
    ∃ n ∈ downwards (rows.length + 1), ∀ r ∈ rows, r.number ≠ n := by
  by_contra hnone
  push Not at hnone
  have hsub : downwards (rows.length + 1) ⊆ rows.map (·.number) := by
    intro n hn
    obtain ⟨r, hr, he⟩ := hnone n hn
    exact List.mem_map.2 ⟨r, hr, he⟩
  have hcount := ((nodup_downwards (by omega)).subperm hsub).length_le
  rw [List.length_map, downwards, List.length_map, List.length_range] at hcount
  omega

/-- The number for a new row is not in use. -/
theorem Numbered.nextNumber_ne (h : t.Numbered) (hlength : t.rows.length < 2 ^ 63) :
    ∀ r ∈ t.rows, r.number ≠ t.nextNumber := by
  intro r hr
  unfold nextNumber
  cases hlast : t.rows.getLast? with
  | none =>
    rw [List.getLast?_eq_none_iff.1 hlast] at hr
    cases hr
  | some last =>
    simp only
    split
    · next hlt =>
      have hle := h.le_getLast? hlast r hr
      have hsucc := lt_succ_of_ne_maxWord (n := last.number) fun he => by
        rw [he, maxWord] at hlt
        exact lt_irrefl _ (Int64.lt_iff_toInt_lt.1 hlt)
      rw [Int64.lt_iff_toInt_lt] at hsucc
      intro he
      rw [he] at hle
      omega
    · cases hfind : ((List.range (t.rows.length + 1)).map fun i => Int64.maxValue - .ofNat i).find?
          fun n => t.rows.all (·.number != n) with
      | some n =>
        have hall := List.find?_some hfind
        rw [List.all_eq_true] at hall
        exact bne_iff_ne.1 (hall r hr)
      | none =>
        -- there is one that is free, and the search would have found it
        obtain ⟨n, hn, hfree⟩ := exists_free hlength
        have hmiss := List.find?_eq_none.1 hfind n hn
        refine absurd (List.all_eq_true.2 ?_) hmiss
        intro s hs
        exact bne_iff_ne.2 (hfree s hs)

end Table

end RecordStore.Database
