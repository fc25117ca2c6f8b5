import Mathlib
import RecordStore.Proofs.Query.Terms

/-!
The order of an answer.  Rows that are sorted by the columns of an index stand in the lexicographic
order of the data that their records have there, with the record number last, so that no two records
share a place.
-/
namespace RecordStore
open Sql Database Index

/-! ### Sorting rows by plain cells -/

namespace Database.Table
variable {t : Table} {columns : List String} {a b : Row}

/-- Where a row stands by some columns. -/
def ranks (t : Table) (columns : List String) (row : Row) : List Rank :=
  columns.map fun c => ((t.source c).cell row).rank

/-- Whether a row holds no number with a fraction in some columns. -/
def PlainIn (t : Table) (columns : List String) (row : Row) : Prop :=
  ∀ c ∈ columns, ((t.source c).cell row).Plain

theorem notAfter_ascending (ha : t.PlainIn columns a) (hb : t.PlainIn columns b) :
    t.notAfter (columns.map (⟨·, .ascending⟩)) a b = true ↔ t.ranks columns a ≤ t.ranks columns b := by
  induction columns with
  | nil => simp [notAfter, ranks]
  | cons c columns ih =>
    have hx := ha c List.mem_cons_self
    have hy := hb c List.mem_cons_self
    have hrest := ih (fun d hd => ha d (List.mem_cons_of_mem c hd))
      fun d hd => hb d (List.mem_cons_of_mem c hd)
    simp only [List.map_cons, notAfter, ranks, if_true] at hrest ⊢
    rw [← not_lt, List.cons_lt_cons_iff, not_or, not_and, not_lt]
    split_ifs with hxy hyx
    · have hlt := (Cell.before_iff hx hy).1 hxy
      simp only [true_iff]
      exact ⟨hlt.le, fun he => absurd he hlt.ne'⟩
    · have hlt := (Cell.before_iff hy hx).1 hyx
      simp only [false_iff, not_and]
      intro hle
      exact absurd hle hlt.not_ge
    · have hxy' := mt (Cell.before_iff hx hy).2 hxy
      have hyx' := mt (Cell.before_iff hy hx).2 hyx
      have heq := le_antisymm (not_lt.1 hxy') (not_lt.1 hyx')
      rw [hrest, ← not_lt]
      simp [heq]

theorem notAfter_descending (columns : List String) (a b : Row) :
    t.notAfter (columns.map (⟨·, .descending⟩)) a b =
      t.notAfter (columns.map (⟨·, .ascending⟩)) b a := by
  induction columns with
  | nil => rfl
  | cons c columns ih => simp [notAfter, ih]

end Database.Table

/-- A relation in a direction: as it is, or the other way round. -/
def Direction.toward {α : Type} (d : Direction) (r : α → α → Prop) (a b : α) : Prop :=
  match d with
  | .ascending => r a b
  | .descending => r b a

/-- Rows that are sorted by some columns in one direction stand in the order of their ranks. -/
theorem pairwise_mergeSort_notAfter {t : Table} {columns : List String} {rows : List Row}
    (d : Direction) (h : ∀ row ∈ rows, t.PlainIn columns row) :
    (rows.mergeSort (t.notAfter (columns.map (⟨·, d⟩)))).Pairwise
      (d.toward fun a b => t.ranks columns a ≤ t.ranks columns b) := by
  cases d with
  | ascending =>
    have hmap := List.map_mergeSort (r := t.notAfter (columns.map (⟨·, .ascending⟩)))
      (s := fun x y => decide (x ≤ y)) (f := t.ranks columns) (l := rows) fun a ha b hb => by
        rw [Bool.eq_iff_iff, decide_eq_true_iff]
        exact Table.notAfter_ascending (h a ha) (h b hb)
    have hsorted := List.pairwise_mergeSort' (· ≤ ·) (rows.map (t.ranks columns))
    rw [← hmap, List.pairwise_map] at hsorted
    exact hsorted
  | descending =>
    have hmap := List.map_mergeSort (r := t.notAfter (columns.map (⟨·, .descending⟩)))
      (s := fun x y => decide (x ≥ y)) (f := t.ranks columns) (l := rows) fun a ha b hb => by
        rw [Bool.eq_iff_iff, decide_eq_true_iff, Table.notAfter_descending]
        exact Table.notAfter_ascending (h b hb) (h a ha)
    have hsorted := List.pairwise_mergeSort' (· ≥ ·) (rows.map (t.ranks columns))
    rw [← hmap, List.pairwise_map] at hsorted
    exact hsorted

/-! ### The order of records -/

/-- What records are sorted by on an index: the data in its columns as declared, and the record
number. -/
def sortData (s : Schema) (ix : IndexDefinition) (record : RecordRow) : List (Option Datum) :=
  ix.valueColumns.map (fieldDatum s record.record) ++ [some (.number record.id.toInt)]

/-- Whether a record comes before another on an index. -/
def Precedes (s : Schema) (ix : IndexDefinition) (a b : RecordRow) : Prop :=
  List.Lex Datum.Before (sortData s ix a) (sortData s ix b)

/-- The names of the columns that answers are sorted by. -/
def sortColumns (ix : IndexDefinition) : List String :=
  ix.valueColumns.map (fun c => columnName c.name) ++ [idColumn]

/-- An answer has one direction, whatever the columns declare. -/
theorem sortKeys_eq (ix : IndexDefinition) (d : Direction) :
    Query.sortKeys ix d = (sortColumns ix).map (⟨·, d⟩) := by
  have hdirection (declared : Direction) : Query.sortDirection declared d = d := by
    cases declared <;> cases d <;> rfl
  simp [Query.sortKeys, sortColumns, hdirection]

/-- Two data of one column, either of which may be missing. -/
def Alike (x y : Option Datum) : Prop :=
  ∃ type, (∀ d ∈ x, d.Fits type) ∧ ∀ d ∈ y, d.Fits type

/-- Data that are alike one by one are sorted as their ranks are. -/
theorem lex_before_of_ranks {xs ys : List (Option Datum)} (h : List.Forall₂ Alike xs ys)
    (hlt : xs.map Datum.rank < ys.map Datum.rank) : List.Lex Datum.Before xs ys := by
  induction h with
  | nil => exact absurd hlt (lt_irrefl _)
  | @cons x y xs ys hxy _ ih =>
    obtain ⟨type, hx, hy⟩ := hxy
    rw [List.map_cons, List.map_cons, List.cons_lt_cons_iff] at hlt
    rcases hlt with hlt | ⟨heq, hlt⟩
    · exact .rel ((Datum.rank_lt_iff_before hx hy).1 hlt)
    · obtain rfl := (Datum.rank_eq_iff_eq hx hy).1 heq
      exact .cons (ih hlt)

section
variable {s : Schema} {ix : IndexDefinition} {t : Table} {a b : Row} {x y : RecordRow}

theorem fieldDatum_fits {c : IndexColumn} {k : Attribute}
    (ha : s.attribute? c.name = some k) (r : Record) :
    ∀ d ∈ fieldDatum s r c, d.Fits k.type.columnType := by
  intro d hd
  obtain ⟨v, hv, hd⟩ := Option.bind_eq_some_iff.1 hd
  obtain ⟨k', f, ha', -, hb⟩ := boundValue?_eq_some.1 hv
  obtain rfl := Option.some.inj (ha.symm.trans ha')
  exact coerce_fits hb d hd

theorem sortData_alike (hx : Bound s ix x.record) (y : RecordRow) :
    List.Forall₂ Alike (sortData s ix x) (sortData s ix y) := by
  unfold sortData
  unfold Bound at hx
  generalize ix.valueColumns = cs at hx
  induction cs with
  | nil =>
    refine .cons ⟨.bigInt, ?_, ?_⟩ .nil
    · rintro d ⟨⟩
      trivial
    · rintro d ⟨⟩
      trivial
  | cons c cs ih =>
    obtain ⟨v, hv⟩ := Option.isSome_iff_exists.1 (hx c List.mem_cons_self)
    obtain ⟨k, f, ha, -, -⟩ := boundValue?_eq_some.1 hv
    rw [List.map_cons, List.map_cons, List.cons_append, List.cons_append]
    exact .cons ⟨_, fieldDatum_fits ha x.record, fieldDatum_fits ha y.record⟩
      (ih fun d hd => hx d (List.mem_cons_of_mem c hd))

/-- The row of a record stands where its data do. -/
theorem ranks_entry (hs : Shaped s ix t) (hrow : a.cells = entry s ix x)
    (hx : Bound s ix x.record) :
    t.PlainIn (sortColumns ix) a ∧ t.ranks (sortColumns ix) a = (sortData s ix x).map Datum.rank := by
  have hid := (hs.holds_id hrow).cell
  have hvalue (c : IndexColumn) (hc : c ∈ ix.valueColumns) : ∃ v,
      (t.source (columnName c.name)).cell a = Cell.ofValue v ∧
        fieldDatum s x.record c = v.datum? := by
    obtain ⟨v, hv⟩ := Option.isSome_iff_exists.1 (hx c hc)
    obtain ⟨k, f, ha, -, -⟩ := boundValue?_eq_some.1 hv
    exact ⟨v, (hs.holds_value hrow hc ha hv).cell, by rw [fieldDatum, hv, Option.bind_some]⟩
  constructor
  · intro name hname
    rcases List.mem_append.1 hname with hname | hname
    · obtain ⟨c, hc, rfl⟩ := List.mem_map.1 hname
      obtain ⟨v, hv, -⟩ := hvalue c hc
      rw [hv]
      exact Cell.plain_ofValue v
    · obtain rfl := List.mem_singleton.1 hname
      rw [hid]
      exact Cell.plain_ofValue _
  · rw [Table.ranks, sortColumns, sortData, List.map_append, List.map_append, List.map_map,
      List.map_map]
    congr 1
    · refine List.map_congr_left fun c hc => ?_
      obtain ⟨v, hv, hdatum⟩ := hvalue c hc
      simp only [Function.comp_apply]
      rw [hv, hdatum, Cell.rank_ofValue]
    · simp only [List.map_cons, List.map_nil]
      rw [hid, Cell.rank_ofValue]
      rfl

end

/-- No two records share a place in the order, since no two share a number. -/
theorem precedes_of_ranks {s : Schema} {ix : IndexDefinition} {x y : RecordRow}
    (hx : Bound s ix x.record) (hne : x.id ≠ y.id)
    (hle : (sortData s ix x).map Datum.rank ≤ (sortData s ix y).map Datum.rank) :
    Precedes s ix x y := by
  refine lex_before_of_ranks (sortData_alike hx y) (lt_of_le_of_ne hle fun heq => hne ?_)
  -- equal data end with equal record numbers
  have hlast := congrArg List.getLast? heq
  simp only [sortData, List.map_append, List.map_cons, List.map_nil, List.getLast?_append,
    List.getLast?_singleton, Option.some_or, Option.some.injEq] at hlast
  have hnumber : x.id.toInt = y.id.toInt := by simpa [Datum.rank, Rank.number] using hlast
  exact Int64.toInt_inj.1 hnumber

end RecordStore
