import Mathlib
import RecordStore.Proofs.Query.Order

/-!
Records that are in each other's way.  The rows of a unique index differ in its columns, and a null
keeps a row apart from all others.  So two records conflict when they have the same data in all
columns of a unique index and none of them is null.
-/
namespace RecordStore
open Sql Database

/-- Whether two records have the same data in all columns of an index, none of them null. -/
def sharesKey (s : Schema) (ix : IndexDefinition) (r r' : Record) : Bool :=
  ix.valueColumns.all fun c =>
    (fieldDatum s r c).isSome && fieldDatum s r c == fieldDatum s r' c

theorem sharesKey_iff {s : Schema} {ix : IndexDefinition} {r r' : Record} :
    sharesKey s ix r r' = true ↔
      ∀ c ∈ ix.valueColumns, ∃ d, fieldDatum s r c = some d ∧ fieldDatum s r' c = some d := by
  simp only [sharesKey, List.all_eq_true, Bool.and_eq_true, beq_iff_eq, Option.isSome_iff_exists]
  refine forall₂_congr fun c _ => ⟨?_, ?_⟩
  · rintro ⟨⟨d, hd⟩, he⟩
    exact ⟨d, hd, he ▸ hd⟩
  · rintro ⟨d, hd, hd'⟩
    exact ⟨⟨d, hd⟩, hd.trans hd'.symm⟩

theorem sharesKey_comm (s : Schema) (ix : IndexDefinition) (r r' : Record) :
    sharesKey s ix r r' = sharesKey s ix r' r := by
  rw [Bool.eq_iff_iff, sharesKey_iff, sharesKey_iff]
  exact forall₂_congr fun c _ => exists_congr fun d => And.comm

/-- Whether a record with a number may not enter an index because another record has its key. -/
def blocked (s : Schema) (ix : IndexDefinition) (m : Int64) (r : Record)
    (records : List RecordRow) : Bool :=
  ix.unique && records.any fun x => x.id != m && sharesKey s ix r x.record

theorem blocked_eq_false_iff {s : Schema} {ix : IndexDefinition} {m : Int64} {r : Record}
    {records : List RecordRow} : blocked s ix m r records = false ↔
      (ix.unique = true → ∀ x ∈ records, x.id ≠ m → sharesKey s ix r x.record = false) := by
  rw [blocked]
  cases ix.unique <;> simp

namespace Index

theorem SameFields.fieldDatum {r r' : Record} (h : SameFields r r') (s : Schema) :
    RecordStore.fieldDatum s r = RecordStore.fieldDatum s r' := by
  funext c
  rw [RecordStore.fieldDatum, RecordStore.fieldDatum, h.boundValue? s c]

theorem SameFields.sharesKey {r r' : Record} (h : SameFields r r') (s : Schema)
    (ix : IndexDefinition) (r'' : Record) :
    RecordStore.sharesKey s ix r r'' = RecordStore.sharesKey s ix r' r'' := by
  simp only [RecordStore.sharesKey, h.fieldDatum s]

/-! ### Keys of rows -/

/-- The columns of an index under their names in its table. -/
def valueNames (ix : IndexDefinition) : List String :=
  ix.valueColumns.map fun c => columnName c.name

/-- The columns that the index object of an index keeps unique. -/
def uniquesFor (ix : IndexDefinition) : List (List String) :=
  if ix.unique then [valueNames ix] else []

section
variable {s : Schema} {ix : IndexDefinition} {t : Table} {a b : Row} {x y : RecordRow}

theorem cell_key_iff {c : IndexColumn} {r r' : Record} (hr : (boundValue? s r c).isSome = true)
    (hr' : (boundValue? s r' c).isSome = true) :
    (fieldCell s r c ≠ .null ∧ fieldCell s r' c ≠ .null ∧
        (fieldCell s r c).same (fieldCell s r' c) = true) ↔
      ∃ d, fieldDatum s r c = some d ∧ fieldDatum s r' c = some d := by
  obtain ⟨v, hv⟩ := Option.isSome_iff_exists.1 hr
  obtain ⟨w, hw⟩ := Option.isSome_iff_exists.1 hr'
  obtain ⟨k, f, ha, -, -⟩ := boundValue?_eq_some.1 hv
  have hdatum : fieldDatum s r c = v.datum? := by rw [fieldDatum, hv, Option.bind_some]
  have hdatum' : fieldDatum s r' c = w.datum? := by rw [fieldDatum, hw, Option.bind_some]
  have hfits := fieldDatum_fits ha r
  have hfits' := fieldDatum_fits ha r'
  rw [hdatum] at hfits ⊢
  rw [hdatum'] at hfits' ⊢
  rw [fieldCell, fieldCell, boundValue_of_eq_some hv, boundValue_of_eq_some hw, ne_eq, ne_eq,
    Cell.ofValue_eq_null, Cell.ofValue_eq_null,
    Cell.same_iff (Cell.plain_ofValue v) (Cell.plain_ofValue w), Cell.rank_ofValue,
    Cell.rank_ofValue, Datum.rank_eq_iff_eq hfits hfits']
  constructor
  · rintro ⟨hnull, -, he⟩
    obtain ⟨d, hd⟩ := Option.ne_none_iff_exists'.1 hnull
    exact ⟨d, hd, he ▸ hd⟩
  · rintro ⟨d, hd, hd'⟩
    rw [hd, hd']
    exact ⟨Option.some_ne_none d, Option.some_ne_none d, rfl⟩

/-- Two keys made column by column. -/
theorem sameKey_map {cs : List IndexColumn} {f g : IndexColumn → Cell} :
    Table.sameKey (cs.map f) (cs.map g) = cs.all fun c => (f c).same (g c) := by
  induction cs with
  | nil => rfl
  | cons c cs ih => rw [List.map_cons, List.map_cons, Table.sameKey, ih, List.all_cons]

theorem Shaped.uniqueKey?_values (hs : Shaped s ix t) (ha : a.cells = entry s ix x) :
    Table.uniqueKey? ((valueNames ix).map t.indexed) a =
      if .null ∈ ix.valueColumns.map (fieldCell s x.record) then none
      else some (ix.valueColumns.map (fieldCell s x.record)) := by
  have hcells : ((valueNames ix).map t.indexed).map (·.cell a) =
      ix.valueColumns.map (fieldCell s x.record) := by
    rw [valueNames, List.map_map, List.map_map]
    refine List.map_congr_left fun c hc => ?_
    obtain ⟨before, after, hsplit⟩ := List.append_of_mem hc
    have hcell := (hs.entry_cells ha).2.1 c hc
    rw [source_of_position? (hs.indexed_value hsplit).1] at hcell
    exact hcell
  simp only [Table.uniqueKey?, hcells, List.contains_iff_mem]

/-- The keys of two rows differ, or one of them has a null, unless their records share a key. -/
theorem Shaped.keys_differ_iff (hs : Shaped s ix t) (ha : a.cells = entry s ix x)
    (hb : b.cells = entry s ix y) (hx : Bound s ix x.record) (hy : Bound s ix y.record) :
    (∀ k ∈ Table.uniqueKey? ((valueNames ix).map t.indexed) a,
        ∀ l ∈ Table.uniqueKey? ((valueNames ix).map t.indexed) b, Table.sameKey k l = false) ↔
      sharesKey s ix x.record y.record = false := by
  have hcolumns : (.null ∉ ix.valueColumns.map (fieldCell s x.record) ∧
      .null ∉ ix.valueColumns.map (fieldCell s y.record) ∧
      Table.sameKey (ix.valueColumns.map (fieldCell s x.record))
        (ix.valueColumns.map (fieldCell s y.record)) = true) ↔
      sharesKey s ix x.record y.record = true := by
    rw [sharesKey_iff, sameKey_map, List.all_eq_true]
    simp only [List.mem_map, not_exists, not_and]
    rw [← forall₂_and, ← forall₂_and]
    exact forall₂_congr fun c hc => cell_key_iff (hx c hc) (hy c hc)
  rw [hs.uniqueKey?_values ha, hs.uniqueKey?_values hb, Bool.eq_false_iff, ne_eq, ← hcolumns]
  by_cases hnull : Cell.null ∈ ix.valueColumns.map (fieldCell s x.record)
  · simp [hnull]
  · by_cases hnull' : Cell.null ∈ ix.valueColumns.map (fieldCell s y.record)
    · simp [hnull']
    · simp [hnull, hnull']

end

/-! ### Tables whose rows differ -/

/-- Rows that belong to records one by one, each of which has a value in every column. -/
def RowsOf (s : Schema) (ix : IndexDefinition) (rows : List Row) (ordered : List RecordRow) : Prop :=
  List.Forall₂ (fun row x => row.cells = entry s ix x ∧ Bound s ix x.record) rows ordered

section
variable {s : Schema} {ix : IndexDefinition} {t : Table} {rows : List Row} {ordered : List RecordRow}

theorem distinctBy_iff {columns : List String} :
    t.distinctBy columns rows = true ↔ rows.Pairwise fun a b =>
      ∀ k ∈ Table.uniqueKey? (columns.map t.indexed) a,
        ∀ l ∈ Table.uniqueKey? (columns.map t.indexed) b, Table.sameKey k l = false := by
  rw [Table.distinctBy, Table.distinctKeys_iff, Table.keys, List.pairwise_filterMap]
  rfl

theorem Shaped.distinctBy_values_iff (hs : Shaped s ix t) (hrows : RowsOf s ix rows ordered) :
    t.distinctBy (valueNames ix) rows = true ↔
      ordered.Pairwise fun x y => sharesKey s ix x.record y.record = false := by
  rw [distinctBy_iff]
  exact pairwise_iff_of_forall₂ hrows fun a b x y ha hb => hs.keys_differ_iff ha.1 hb.1 ha.2 hb.2

theorem Shaped.distinctBy_id_iff (hs : Shaped s ix t) (hrows : RowsOf s ix rows ordered) :
    t.distinctBy [idColumn] rows = true ↔ ordered.Pairwise fun x y => x.id ≠ y.id := by
  rw [distinctBy_iff]
  refine pairwise_iff_of_forall₂ hrows fun a b x y ha hb => ?_
  have hhead {row : Row} {record : RecordRow} (h : row.cells = entry s ix record) :
      row.cells.head? = some (.integer record.id) := by
    rw [h]
    rfl
  rw [uniqueKey?_id hs (hhead ha.1), uniqueKey?_id hs (hhead hb.1)]
  simp [Table.sameKey, same_integer]

/-- The rows of a table differ as they have to when no two records have one number, or share a key
while the index is unique. -/
theorem Shaped.distinct_iff (hs : Shaped s ix t) (hrows : RowsOf s ix rows ordered) :
    (∀ cs ∈ t.constraints (uniquesFor ix), t.distinctBy cs rows = true) ↔
      (ordered.Pairwise fun x y => x.id ≠ y.id) ∧
        (ix.unique = true →
          ordered.Pairwise fun x y => sharesKey s ix x.record y.record = false) := by
  rw [Table.constraints, hs.primaryKey, List.forall_mem_cons, hs.distinctBy_id_iff hrows,
    ← hs.distinctBy_values_iff hrows, uniquesFor]
  cases ix.unique <;> simp

end

end Index

end RecordStore
