import Mathlib
import RecordStore.Proofs.Database.Statements

/-!
What a statement that reads finds: the rows that meet its conditions, in its order, and of them the
part that its limits leave.  The rows before they are cut depend on the conditions and the order alone.
-/
namespace RecordStore
open Sql

/-- A statement without its limits. -/
def Sql.Select.whole (s : Select) : Select :=
  { s with limit := none, offset := none }

namespace Database

/-- What an offset and a limit leave of a list. -/
def cut {α : Type} (offset limit : Option UInt64) (xs : List α) : List α :=
  let rest := xs.drop (offset.elim 0 UInt64.toNat)
  limit.elim rest fun n => rest.take n.toNat

theorem map_cut {α β : Type} (offset limit : Option UInt64) (f : α → β) (xs : List α) :
    (cut offset limit xs).map f = cut offset limit (xs.map f) := by
  cases limit with
  | none => exact List.map_drop
  | some n => simp only [cut, Option.elim_some, List.map_take, List.map_drop]

theorem cut_nil {α : Type} (offset limit : Option UInt64) : cut offset limit ([] : List α) = [] := by
  cases limit <;> simp [cut]

namespace Table

theorem pick_eq_cut (t : Table) (s : Select) : t.pick s = cut s.offset s.limit (t.pick s.whole) := by
  obtain ⟨column, table, conditions, order, limit, offset⟩ := s
  cases limit <;> cases offset <;> rfl

/-- Without limits all rows that meet the conditions are found. -/
theorem pick_whole_perm (t : Table) (s : Select) :
    (t.pick s.whole).Perm (t.rows.filter fun r => s.conditions.all (t.meets r)) := by
  show (if s.order.isEmpty then _ else _ : List Row).Perm _
  split
  · exact .refl _
  · exact List.mergeSort_perm _ _

theorem length_pick_whole_le (t : Table) (s : Select) : (t.pick s.whole).length ≤ t.rows.length := by
  rw [(t.pick_whole_perm s).length_eq]
  exact List.length_filter_le _ _

/-- A statement picks no rows but those of the table. -/
theorem pick_subset (t : Table) (s : Select) : t.pick s ⊆ t.rows := by
  have hpart : t.pick s ⊆ t.pick s.whole := by
    rw [pick_eq_cut, cut]
    cases s.limit with
    | none => exact List.drop_subset _ _
    | some n => exact fun row hrow => List.drop_subset _ _ (List.take_subset _ _ hrow)
  exact fun r hr => List.mem_of_mem_filter ((t.pick_whole_perm s).subset (hpart hr))

/-- A statement that asks for an order gets no other. -/
theorem ordered_of_order (t : Table) (objects : List CreateIndex) {s : Select}
    (h : s.order.isEmpty = false) : t.ordered objects s = s := by
  unfold ordered
  rw [h]
  rfl

/-- Whatever order is given to a statement, it keeps its limits. -/
theorem limits_ordered (t : Table) (objects : List CreateIndex) (s : Select) :
    (t.ordered objects s).limit = s.limit ∧ (t.ordered objects s).offset = s.offset := by
  unfold ordered
  split
  · exact ⟨rfl, rfl⟩
  · exact ⟨rfl, rfl⟩

end Table

theorem readInteger_eq_ok {c : Cell} {n : Int64} : readInteger c = .ok n ↔ c = .integer n := by
  refine ⟨fun h => ?_, fun h => h ▸ rfl⟩
  cases c with
  | integer m => rw [Except.ok.inj h]
  | _ => cases h

theorem mapM_readInteger (ns : List Int64) : (ns.map Cell.integer).mapM readInteger = .ok ns := by
  rw [mapM_eq_ok, List.forall₂_map_left_iff, List.forall₂_same]
  exact fun _ _ => rfl

theorem mapM_readInteger_eq_ok {cells : List Cell} {ns : List Int64} :
    cells.mapM readInteger = .ok ns ↔ cells = ns.map .integer := by
  refine ⟨fun h => ?_, fun h => h ▸ mapM_readInteger ns⟩
  have hcells := (mapM_eq_ok.1 h).imp fun _ _ => readInteger_eq_ok.1
  rwa [← List.forall₂_map_right_iff, List.forall₂_eq_eq_eq] at hcells

theorem readNames_eq_ok {names : List String} :
    readNames names = .ok () ↔ ∀ n ∈ names, readable n = true := by
  unfold readNames
  cases h : names.find? (!readable ·) with
  | none => simpa using h
  | some n =>
    have hn := List.find?_some h
    have hmem := List.mem_of_find?_eq_some h
    refine ⟨nofun, fun hall => ?_⟩
    rw [hall n hmem] at hn
    cases hn

/-- The names that a statement needs to have read. -/
def namesOf (s : Select) : List String :=
  s.table :: (s.column :: s.conditions.map (·.column) ++ s.order.map (·.column))

theorem column_ordered (t : Table) (objects : List CreateIndex) (s : Select) :
    (t.ordered objects s).column = s.column := by
  unfold Table.ordered
  split <;> rfl

theorem cells_of_table {db : Database} {s : Select} {t : Table}
    (hname : s.table ≠ Scan.recordTable) (ht : db.table? s.table = some t)
    (hread : ∀ n ∈ namesOf s, readable n = true) :
    db.cells s = .ok ((t.pick (t.ordered (db.indexesOf s.table) s)).map (t.source s.column).cell) := by
  have hreach : db.reach s.table
      (s.column :: s.conditions.map (·.column) ++ s.order.map (·.column)) = .ok t := by
    refine bind_eq_ok.2 ⟨(), readNames_eq_ok.2 hread, ?_⟩
    rw [ht]
    rfl
  rw [cells, if_neg hname]
  refine bind_eq_ok.2 ⟨t, hreach, ?_⟩
  show Except.ok (t.select _) = _
  rw [Table.select, column_ordered]

theorem select_eq_ok_iff {db : Database} {s : Select} {ns : List Int64} :
    db.select s = .ok ns ↔ db.cells s = .ok (ns.map .integer) := by
  refine bind_eq_ok.trans ⟨?_, fun h => ⟨_, h, mapM_readInteger ns⟩⟩
  rintro ⟨cells, hcells, hns⟩
  rw [hcells, mapM_readInteger_eq_ok.1 hns]

theorem select_of_table {db : Database} {s : Select} {t : Table} {ns : List Int64}
    (hname : s.table ≠ Scan.recordTable) (ht : db.table? s.table = some t)
    (hread : ∀ n ∈ namesOf s, readable n = true)
    (hcells : (t.pick (t.ordered (db.indexesOf s.table) s)).map (t.source s.column).cell =
      ns.map .integer) : db.select s = .ok ns := by
  rw [select_eq_ok_iff, cells_of_table hname ht hread, hcells]

/-- What a statement finds is in the rows that it picks, unless it is about the table of records. -/
theorem cells_eq_ok {db : Database} {s : Select} {found : List Cell}
    (hname : s.table ≠ Scan.recordTable) (h : db.cells s = .ok found) :
    ∃ t, db.table? s.table = some t ∧
      found = (t.pick (t.ordered (db.indexesOf s.table) s)).map (t.source s.column).cell := by
  rw [cells, if_neg hname] at h
  obtain ⟨t, hreach, hcells⟩ := bind_eq_ok.1 h
  obtain ⟨-, -, hfound⟩ := bind_eq_ok.1 hreach
  refine ⟨t, ?_, ?_⟩
  · cases ht : db.table? s.table with
    | none => rw [ht] at hfound; cases hfound
    | some u => rw [ht] at hfound; rw [Except.ok.inj hfound]
  · rw [← Except.ok.inj hcells, Table.select, column_ordered]

/-- The integers that a statement finds stand in rows of its table. -/
theorem select_eq_ok {db : Database} {s : Select} {ns : List Int64}
    (hname : s.table ≠ Scan.recordTable) (h : db.select s = .ok ns) :
    ∃ t, db.table? s.table = some t ∧
      ∀ n ∈ ns, ∃ row ∈ t.rows, (t.source s.column).cell row = .integer n := by
  obtain ⟨t, ht, hcells⟩ := cells_eq_ok hname (select_eq_ok_iff.1 h)
  refine ⟨t, ht, fun n hn => ?_⟩
  have hcell : Cell.integer n ∈ ns.map Cell.integer := List.mem_map_of_mem hn
  rw [hcells] at hcell
  obtain ⟨row, hrow, hcell⟩ := List.mem_map.1 hcell
  exact ⟨row, t.pick_subset _ hrow, hcell⟩

end Database

end RecordStore
