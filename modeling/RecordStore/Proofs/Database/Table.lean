import Mathlib
import RecordStore.Proofs.Index.Naming
import RecordStore.Proofs.Outcome

/-!
What the statements on one table do to its rows, and that none of them lets two rows share a key that
has to be unique.
-/
namespace RecordStore.Database
open Sql

theorem Cell.same_comm (a b : Cell) : a.same b = b.same a := by
  simp only [Cell.same, Bool.and_comm]

namespace Table

theorem sameKey_comm : ∀ ks ls : List Cell, sameKey ks ls = sameKey ls ks
  | [], [] => rfl
  | [], _ :: _ => rfl
  | _ :: _, [] => rfl
  | a :: ks, b :: ls => by simp only [sameKey, Cell.same_comm a b, sameKey_comm ks ls]

theorem distinctKeys_iff {ks : List (List Cell)} :
    distinctKeys ks = true ↔ ks.Pairwise fun k l => sameKey k l = false := by
  induction ks with
  | nil => simp [distinctKeys]
  | cons k ks ih => simp [distinctKeys, ih]

/-- Whether rows differ in a key does not depend on their order. -/
theorem distinctBy_perm (t : Table) (columns : List String) {rows rows' : List Row}
    (h : rows.Perm rows') : t.distinctBy columns rows = t.distinctBy columns rows' := by
  have hkeys : (t.keys columns rows).Perm (t.keys columns rows') := h.filterMap _
  rw [Bool.eq_iff_iff, distinctBy, distinctBy, distinctKeys_iff, distinctKeys_iff]
  exact hkeys.pairwise_iff fun hkl => by rwa [sameKey_comm]

theorem distinctBy_sublist (t : Table) (columns : List String) {rows rows' : List Row}
    (hs : rows.Sublist rows') (h : t.distinctBy columns rows' = true) :
    t.distinctBy columns rows = true := by
  rw [distinctBy, distinctKeys_iff] at h ⊢
  exact h.sublist (hs.filterMap _)

/-- A row keeps the rows distinct when its key is not taken. -/
theorem distinctBy_cons_iff {t : Table} {columns : List String} {rows : List Row} {r : Row} :
    t.distinctBy columns (r :: rows) = true ↔
      t.taken columns rows r = false ∧ t.distinctBy columns rows = true := by
  rw [distinctBy, distinctBy, distinctKeys_iff, distinctKeys_iff, taken, keys, keys,
    List.filterMap_cons]
  cases uniqueKey? (columns.map t.indexed) r with
  | none => simp
  | some k => simp only [List.pairwise_cons, List.any_eq_false, Bool.not_eq_true]

theorem place_perm (r : Row) (rows : List Row) : (place r rows).Perm (r :: rows) := by
  induction rows with
  | nil => exact .refl _
  | cons s rows ih =>
    unfold place
    split
    · exact .refl _
    · exact (ih.cons s).trans (.swap r s rows)

theorem foldr_place_perm (rows : List Row) : (rows.foldr place []).Perm rows := by
  induction rows with
  | nil => exact .refl _
  | cons r rows ih =>
    rw [List.foldr_cons]
    exact (place_perm r _).trans (ih.cons r)

/-! ### Statements -/

/-- The columns of a table whose keys have to be unique, those of its index objects included. -/
def constraints (t : Table) (uniques : List (List String)) : List (List String) :=
  t.primaryKey :: uniques

/-- Whether no two rows share a key that has to be unique. -/
def Keyed (t : Table) (uniques : List (List String)) : Prop :=
  ∀ cs ∈ t.constraints uniques, t.distinctBy cs t.rows = true

theorem keyed_of_rows_nil {t : Table} (uniques : List (List String)) (h : t.rows = []) :
    t.Keyed uniques := by
  intro cs _
  rw [h]
  rfl

theorem addRow_eq_ok {t t' : Table} {uniques : List (List String)} {r : Row}
    (h : t.addRow uniques r = .ok t') :
    t' = { t with rows := place r t.rows } ∧ (∀ s ∈ t.rows, s.number ≠ r.number) ∧
      ∀ cs ∈ t.constraints uniques, t.taken cs t.rows r = false := by
  unfold addRow at h
  split at h
  · cases h
  · split at h
    · cases h
    · next hfree =>
      obtain rfl := Except.ok.inj h
      simp only [Bool.or_eq_true, not_or, Bool.not_eq_true, List.any_eq_false] at hfree
      exact ⟨rfl, fun s hs => by simpa using hfree.1 s hs,
        fun cs hcs => by simpa using hfree.2 cs hcs⟩

/-- An insertion adds the row of the given values, and that row shares neither its number nor a key
with another. -/
theorem insert_eq_ok {t t' : Table} {uniques : List (List String)} {s : Insert}
    (h : t.insert uniques s = .ok t') :
    t.missing? s.columns = none ∧
      ∃ number, t' = { t with
          rows := place ⟨number, t.newCells (s.columns.zip s.values)⟩ t.rows } ∧
        (∀ row ∈ t.rows, row.number ≠ number) ∧ ∀ cs ∈ t.constraints uniques,
          t.taken cs t.rows ⟨number, t.newCells (s.columns.zip s.values)⟩ = false := by
  unfold insert at h
  split at h
  · cases h
  · next hmissing =>
    obtain ⟨n, -, h⟩ := bind_eq_ok.1 h
    exact ⟨hmissing, _, addRow_eq_ok h⟩

theorem change_eq_ok {t : Table} {assignments : List (String × Value)} {r r' : Row}
    (h : t.change assignments r = .ok r') : r'.cells = t.assign assignments r.cells := by
  unfold change at h
  simp only at h
  split at h
  · obtain ⟨n, -, h⟩ := bind_eq_ok.1 h
    cases n with
    | none => exact absurd h (by nofun)
    | some n =>
      simp only at h
      split at h
      · exact absurd h (by nofun)
      · rw [← Except.ok.inj h]
  · split at h
    · exact absurd h (by nofun)
    · rw [← Except.ok.inj h]

/-- The cells of a row after an update. -/
def updatedCells (t : Table) (s : Update) (r : Row) : List Cell :=
  if t.meets r s.condition then t.assign s.assignments r.cells else r.cells

theorem map_cells_of_change {t : Table} {s : Update} {rs rows : List Row}
    (h : List.Forall₂ (fun r r' =>
      (if t.meets r s.condition then t.change s.assignments r else .ok r) = .ok r') rs rows) :
    rows.map (·.cells) = rs.map (t.updatedCells s) := by
  induction h with
  | nil => rfl
  | cons hr _ ih =>
    rw [List.map_cons, List.map_cons, ih]
    congr 1
    unfold updatedCells
    split at hr
    · next hm => rw [if_pos hm, change_eq_ok hr]
    · next hm => rw [if_neg hm, Except.ok.inj hr]

/-- An update assigns to the rows that meet the condition and leaves the others as they are. -/
theorem update_eq_ok {t t' : Table} {uniques : List (List String)} {s : Update}
    (h : t.update uniques s = .ok t') :
    ∃ rows : List Row, rows.map (·.cells) = t.rows.map (t.updatedCells s) ∧
      t' = { t with rows := rows.foldr place [] } ∧ (rows.map (·.number)).Nodup ∧
        ∀ cs ∈ t.constraints uniques, t.distinctBy cs rows = true := by
  unfold update at h
  split at h
  · cases h
  · split at h
    · cases h
    · obtain ⟨rows, hrows, h⟩ := bind_eq_ok.1 h
      split at h
      · next hkeys =>
        obtain rfl := Except.ok.inj h
        rw [Bool.and_eq_true, decide_eq_true_iff, List.all_eq_true] at hkeys
        exact ⟨rows, map_cells_of_change (mapM_eq_ok.1 hrows), rfl, hkeys⟩
      · cases h

theorem Keyed.insert {t t' : Table} {uniques : List (List String)} {s : Insert}
    (hk : t.Keyed uniques) (h : t.insert uniques s = .ok t') : t'.Keyed uniques := by
  obtain ⟨-, number, rfl, -, hfree⟩ := insert_eq_ok h
  intro cs hcs
  rw [distinctBy_perm _ cs (place_perm _ _)]
  exact (distinctBy_cons_iff (t := t)).2 ⟨hfree cs hcs, hk cs hcs⟩

theorem Keyed.update {t t' : Table} {uniques : List (List String)} {s : Update}
    (h : t.update uniques s = .ok t') : t'.Keyed uniques := by
  obtain ⟨rows, -, rfl, -, hdistinct⟩ := update_eq_ok h
  intro cs hcs
  rw [distinctBy_perm _ cs (foldr_place_perm _)]
  exact hdistinct cs hcs

theorem Keyed.delete {t : Table} {uniques : List (List String)} (s : Delete)
    (hk : t.Keyed uniques) : (t.delete s).Keyed uniques := by
  intro cs hcs
  exact distinctBy_sublist t cs List.filter_sublist (hk cs hcs)

end Table

end RecordStore.Database
