import Mathlib
import RecordStore.Proofs.Database.Table
import RecordStore.Proofs.Index.Entry
import RecordStore.Proofs.Query.Datum

/-!
The rows of an index table under the statements that keep it in step with the records.  A table is
filled with records when its rows are theirs, in any order; each statement changes the records that a
table is filled with.
-/
namespace RecordStore.Index
open Sql Database

/-! ### Positions of columns -/

/-- The table of an index, as far as its columns are concerned. -/
structure Shaped (s : Schema) (ix : IndexDefinition) (t : Table) : Prop where
  columns : t.definition.columns = columnSpecs s ix
  distinct : (t.definition.columns.map (·.name)).Pairwise fun a b => sameName a b = false

theorem indexed_of_split {t : Table} (before after : List ColumnSpec) (spec : ColumnSpec)
    (hcols : t.definition.columns = before ++ spec :: after)
    (hd : (t.definition.columns.map (·.name)).Pairwise fun a b => sameName a b = false) :
    t.position? spec.name = some before.length ∧
      t.indexed spec.name = .column before.length (affinityOf spec.type) := by
  have hposition : t.position? spec.name = some before.length := by
    have hbefore : before.findIdx? (fun c => sameName c.name spec.name) = none := by
      rw [List.findIdx?_eq_none_iff]
      intro c hc
      rw [hcols, List.map_append, List.pairwise_append] at hd
      exact hd.2.2 c.name (List.mem_map_of_mem hc) spec.name (by simp)
    rw [Table.position?, hcols, List.findIdx?_append, hbefore, List.findIdx?_cons,
      sameName_self]
    simp
  refine ⟨hposition, ?_⟩
  simp only [Table.indexed, hposition, hcols]
  simp

theorem source_of_position? {t : Table} {column : String} {i : Nat}
    (h : t.position? column = some i) : t.source column = t.indexed column := by
  simp [Table.source, Table.namesNumber, h]

namespace Shaped
variable {s : Schema} {ix : IndexDefinition} {t : Table}

theorem columns_names (h : Shaped s ix t) : t.definition.columns.map (·.name) =
    idColumn :: (ix.valueColumns.map (fun c => columnName c.name) ++ [quarantinedColumn]) := by
  rw [h.columns, columnSpecs_names]

theorem primaryKey (h : Shaped s ix t) : t.primaryKey = [idColumn] := by
  have hvalues : (ix.valueColumns.map (valueSpec s)).filter (·.primaryKey) = [] := by
    simp [valueSpec, ColumnSpec.plain]
  simp [Table.primaryKey, h.columns, columnSpecs, idSpec, quarantinedSpec, hvalues]

theorem indexed_id (h : Shaped s ix t) :
    t.position? idColumn = some 0 ∧ t.indexed idColumn = .column 0 .numeric :=
  indexed_of_split [] _ idSpec h.columns h.distinct

theorem source_id (h : Shaped s ix t) : t.source idColumn = .column 0 .numeric := by
  rw [source_of_position? h.indexed_id.1, h.indexed_id.2]

theorem indexed_quarantined (h : Shaped s ix t) :
    t.position? quarantinedColumn = some (ix.valueColumns.length + 1) ∧
      t.indexed quarantinedColumn = .column (ix.valueColumns.length + 1) .text := by
  have := indexed_of_split (idSpec :: ix.valueColumns.map (valueSpec s)) [] quarantinedSpec
    h.columns h.distinct
  simpa [quarantinedSpec, affinityOf] using this

theorem indexed_value (h : Shaped s ix t) {before after : List IndexColumn} {c : IndexColumn}
    (hc : ix.valueColumns = before ++ c :: after) :
    t.position? (columnName c.name) = some (before.length + 1) ∧
      t.indexed (columnName c.name) =
        .column (before.length + 1) (affinityOf (valueSpec s c).type) := by
  have := indexed_of_split (idSpec :: before.map (valueSpec s))
    (after.map (valueSpec s) ++ [quarantinedSpec]) (valueSpec s c)
    (by rw [h.columns, columnSpecs, hc]; simp) h.distinct
  rw [List.length_cons, List.length_map] at this
  exact this

theorem source_value (h : Shaped s ix t) {before after : List IndexColumn} {c : IndexColumn}
    (hc : ix.valueColumns = before ++ c :: after) : t.source (columnName c.name) =
      .column (before.length + 1) (affinityOf (valueSpec s c).type) := by
  rw [source_of_position? (h.indexed_value hc).1, (h.indexed_value hc).2]

theorem source_quarantined (h : Shaped s ix t) :
    t.source quarantinedColumn = .column (ix.valueColumns.length + 1) .text := by
  rw [source_of_position? h.indexed_quarantined.1, h.indexed_quarantined.2]

end Shaped

/-! ### Cells that a column takes as they are -/

theorem affinity_fieldCell {s : Schema} {r : Record} {c : IndexColumn}
    (h : (boundValue? s r c).isSome = true) :
    (affinityOf (valueSpec s c).type).apply (fieldCell s r c) = fieldCell s r c := by
  obtain ⟨v, hv⟩ := Option.isSome_iff_exists.1 h
  obtain ⟨a, f, ha, -, hb⟩ := boundValue?_eq_some.1 hv
  have htype : (valueSpec s c).type = a.type.columnType := by
    simp [valueSpec, ColumnSpec.plain, ha]
  rw [htype, fieldCell, boundValue_of_eq_some hv]
  exact (coerce_fits hb).affinity

/-- Two lists whose items correspond by name, one after the other. -/
theorem map_eq_zipWith {F : ColumnSpec → Cell} {G : ColumnSpec → String × Value → Cell}
    {specs : List ColumnSpec} {given : List (String × Value)}
    (hn : specs.map (·.name) = given.map (·.1))
    (h : ∀ spec, ∀ cv ∈ given, spec.name = cv.1 → F spec = G spec cv) :
    specs.map F = List.zipWith G specs given := by
  induction specs generalizing given with
  | nil => rfl
  | cons spec specs ih =>
    cases given with
    | nil => cases hn
    | cons cv given =>
      obtain ⟨hname, hnames⟩ := List.cons.inj hn
      have hrest := ih hnames fun spec' cv' hcv => h spec' cv' (List.mem_cons_of_mem _ hcv)
      rw [List.map_cons, List.zipWith_cons_cons, hrest, h spec cv List.mem_cons_self hname]

/-- The cells of a new row when a value is given for every column in order. -/
theorem newCells_eq {t : Table} {given : List (String × Value)}
    (hn : t.definition.columns.map (·.name) = given.map (·.1))
    (hd : (t.definition.columns.map (·.name)).Pairwise fun a b => sameName a b = false) :
    t.newCells given = List.zipWith
      (fun spec cv => (affinityOf spec.type).apply (Cell.ofValue cv.2)) t.definition.columns given := by
  have hpairwise : given.Pairwise fun a b => sameName a.1 b.1 = false := by
    rw [hn, List.pairwise_map] at hd
    exact hd
  have hfind : ∀ cv ∈ given, given.find? (fun b => sameName b.1 cv.1) = some cv :=
    fun cv hcv => find?_of_pairwise hpairwise hcv (sameName_self _)
  refine map_eq_zipWith hn fun spec cv hcv hname => ?_
  simp only
  rw [hname, hfind cv hcv]

/-- Assignments to neighbouring columns, in order, replace the cells between what stands before and
behind them. -/
theorem assign_block {t : Table} (specs : List ColumnSpec) :
    ∀ (before after : List ColumnSpec) (values : List Value) (front cells back : List Cell),
      t.definition.columns = before ++ (specs ++ after) →
      (t.definition.columns.map (·.name)).Pairwise (fun a b => sameName a b = false) →
      front.length = before.length → cells.length = specs.length →
      values.length = specs.length →
      t.assign ((specs.map (·.name)).zip values) (front ++ (cells ++ back)) =
        front ++ (List.zipWith (fun spec v => (affinityOf spec.type).apply (Cell.ofValue v))
          specs values ++ back) := by
  induction specs with
  | nil =>
    intro before after values front cells back _ _ _ hcells hvalues
    obtain rfl := List.eq_nil_of_length_eq_zero hcells
    obtain rfl := List.eq_nil_of_length_eq_zero hvalues
    rfl
  | cons spec specs ih =>
    intro before after values front cells back hcols hd hfront hcells hvalues
    obtain ⟨v, values, rfl⟩ := List.exists_cons_of_length_eq_add_one hvalues
    obtain ⟨cell, cells, rfl⟩ := List.exists_cons_of_length_eq_add_one hcells
    have hindexed := (indexed_of_split before (specs ++ after) spec hcols hd).2
    have hrest := ih (before ++ [spec]) after values
      (front ++ [(affinityOf spec.type).apply (Cell.ofValue v)]) cells back
      (by rw [hcols]; simp) hd (by simp [hfront]) (by simpa using hcells) (by simpa using hvalues)
    simp only [Table.assign, List.map_cons, List.zip_cons_cons, List.foldl_cons] at hrest ⊢
    rw [hindexed]
    simp only [List.cons_append]
    rw [List.set_append_right _ _ (by omega), ← hfront, Nat.sub_self, List.set_cons_zero]
    simpa using hrest

/-! ### The row of a record -/

theorem affinity_map_fieldCell {s : Schema} {ix : IndexDefinition} {r : Record}
    (h : Bound s ix r) :
    List.zipWith (fun spec v => (affinityOf spec.type).apply (Cell.ofValue v))
      (ix.valueColumns.map (valueSpec s)) (ix.valueColumns.map (boundValue s r)) =
      ix.valueColumns.map (fieldCell s r) := by
  unfold Bound at h
  generalize ix.valueColumns = cs at h
  induction cs with
  | nil => rfl
  | cons c cs ih =>
    rw [List.map_cons, List.map_cons, List.map_cons, List.zipWith_cons_cons,
      ih fun d hd => h d (by simp [hd])]
    congr 1
    exact affinity_fieldCell (h c (by simp))

theorem newCells_insertRow {s : Schema} {ix : IndexDefinition} {t : Table} (hs : Shaped s ix t)
    {r : Record} (hr : Bound s ix r) (n : Int64) :
    t.newCells ((idColumn, .ofInt n) :: assignments s ix r ++
        [(quarantinedColumn, .ofText flagNo)]) =
      .integer n :: (ix.valueColumns.map (fieldCell s r) ++ [.text flagNo]) := by
  rw [newCells_eq (by simp [hs.columns_names, assignments, Function.comp_def]) hs.distinct,
    hs.columns, columnSpecs, List.cons_append, List.zipWith_cons_cons,
    List.zipWith_append (by simp [assignments])]
  congr 1
  congr 1
  have hvalues := affinity_map_fieldCell hr
  rw [List.zipWith_map] at hvalues
  rw [assignments, List.zipWith_map]
  exact hvalues

theorem assign_updateRow {s : Schema} {ix : IndexDefinition} {t : Table} (hs : Shaped s ix t)
    {r : Record} (hr : Bound s ix r) {id flag : Cell} {cells : List Cell}
    (hl : cells.length = ix.valueColumns.length) :
    t.assign (assignments s ix r) (id :: (cells ++ [flag])) =
      id :: (ix.valueColumns.map (fieldCell s r) ++ [flag]) := by
  have hblock := assign_block (ix.valueColumns.map (valueSpec s)) [idSpec] [quarantinedSpec]
    (ix.valueColumns.map (boundValue s r)) [id] cells [flag] hs.columns hs.distinct rfl
    (by simpa using hl) (by simp)
  have hassign : assignments s ix r = ((ix.valueColumns.map (valueSpec s)).map (·.name)).zip
      (ix.valueColumns.map (boundValue s r)) := by
    rw [assignments, List.map_map]
    exact List.zip_map'.symm
  rw [affinity_map_fieldCell hr, ← hassign] at hblock
  exact hblock

theorem assign_flagRow {s : Schema} {ix : IndexDefinition} {t : Table} (hs : Shaped s ix t)
    {id flag : Cell} {cells : List Cell} (hl : cells.length = ix.valueColumns.length)
    (text : String) :
    t.assign [(quarantinedColumn, .ofText text)] (id :: (cells ++ [flag])) =
      id :: (cells ++ [.text text]) := by
  have hblock := assign_block [quarantinedSpec] (idSpec :: ix.valueColumns.map (valueSpec s)) []
    [.ofText text] (id :: cells) [flag] [] (by rw [hs.columns]; simp [columnSpecs]) hs.distinct
    (by simp [hl]) rfl rfl
  exact hblock

theorem same_integer (m n : Int64) : (Cell.integer m).same (.integer n) = (m == n) := by
  rw [Bool.eq_iff_iff, beq_iff_eq, ← Int64.toInt_inj]
  simp only [Cell.same, Cell.before, Cell.less, Cell.standing?, Bool.and_eq_true,
    Bool.not_eq_true']
  simp
  omega

/-- The condition on the record number looks at the first cell alone. -/
theorem meets_idCondition {s : Schema} {ix : IndexDefinition} {t : Table} (hs : Shaped s ix t)
    {row : Row} {m : Int64} {cells : List Cell} (hrow : row.cells = .integer m :: cells)
    (n : Int64) : t.meets row (idCondition (.ofInt n)) = (m == n) := by
  simp only [Table.meets, idCondition, Condition.column, hs.source_id, Source.cell,
    Source.operand, hrow, List.getD_cons_zero, Value.ofInt, Cell.ofValue, Affinity.apply]
  simp only [Cell.satisfies]
  rw [if_neg (by simp), same_integer]

/-! ### Tables filled with records -/

/-- A table holds the rows of some records and no other rows, in any order. -/
def Filled (s : Schema) (ix : IndexDefinition) (t : Table) (records : List RecordRow) : Prop :=
  (t.rows.map (·.cells)).Perm (records.map (entry s ix))

/-- The records that the rows of a table belong to, in the order of the rows. -/
theorem Filled.exists_ordered {s : Schema} {ix : IndexDefinition} {t : Table}
    {records : List RecordRow} (h : Filled s ix t records) :
    ∃ ordered : List RecordRow, ordered.Perm records ∧ List.Forall₂
      (fun row record => row.cells = entry s ix record ∧ record ∈ records) t.rows ordered := by
  have hcomp := congrFun (congrFun (List.eq_map_comp_perm (entry s ix)) (t.rows.map (·.cells)))
    records
  have hexists : Relation.Comp (· = List.map (entry s ix) ·) List.Perm (t.rows.map (·.cells))
      records := by
    rw [hcomp]
    exact h
  obtain ⟨ordered, hcells, hperm⟩ := hexists
  rw [← List.forall₂_eq_eq_eq, List.forall₂_map_left_iff, List.forall₂_map_right_iff] at hcells
  refine ⟨ordered, hperm, ?_⟩
  obtain ⟨hlength, hzip⟩ := List.forall₂_iff_zip.1 hcells
  refine List.forall₂_iff_zip.2 ⟨hlength, fun {row record} hmem => ⟨hzip hmem, ?_⟩⟩
  exact hperm.subset (List.of_mem_zip hmem).2

theorem length_fields (s : Schema) (ix : IndexDefinition) (r : Record) :
    (ix.valueColumns.map (fieldCell s r)).length = ix.valueColumns.length :=
  List.length_map _

variable {s : Schema} {ix : IndexDefinition} {t t' : Table} {records : List RecordRow}
  {target : Target} {uniques : List (List String)} {id : UInt64} {n : Int64}

theorem Shaped.of_definition_eq (hs : Shaped s ix t) (h : t'.definition = t.definition) :
    Shaped s ix t' :=
  ⟨by rw [h, hs.columns], by rw [h]; exact hs.distinct⟩

/-- What a row of a record holds under the names of the columns. -/
theorem Shaped.entry_cells (hs : Shaped s ix t) {row : Row} {record : RecordRow}
    (hrow : row.cells = entry s ix record) :
    (t.source idColumn).cell row = .integer record.id ∧
      (∀ c ∈ ix.valueColumns,
        (t.source (columnName c.name)).cell row = fieldCell s record.record c) ∧
      (t.source quarantinedColumn).cell row =
        .text (quarantineFlag (record.state == .quarantined)) := by
  refine ⟨?_, fun c hc => ?_, ?_⟩
  · rw [hs.source_id, Source.cell, hrow, entry, List.getD_cons_zero]
  · obtain ⟨before, after, hsplit⟩ := List.append_of_mem hc
    rw [hs.source_value hsplit, Source.cell, hrow, entry, hsplit, List.getD_cons_succ]
    simp
  · rw [hs.source_quarantined, Source.cell, hrow, entry, List.getD_cons_succ]
    simp

/-- An insertion fills the table with one record more, which is not in quarantine. -/
theorem Filled.insert (hf : Filled target.schema target.index t records)
    (hs : Shaped target.schema target.index t) {r : Record} {q : Insert}
    (hq : insertRow target id r = .ok q) (h : t.insert uniques q = .ok t')
    {row : RecordRow} (hid : storedId? id = some row.id) (hstate : row.state = .live)
    (hrecord : SameFields row.record r) :
    Filled target.schema target.index t' (row :: records) := by
  obtain ⟨m, hm, hbound, -, hgiven⟩ := insertRow_eq_ok hq
  obtain rfl : row.id = m := Option.some.inj (hid.symm.trans hm)
  obtain ⟨-, number, rfl, -⟩ := Table.insert_eq_ok h
  rw [hgiven, newCells_insertRow hs hbound]
  have hentry : entry target.schema target.index row = .integer row.id ::
      (target.index.valueColumns.map (fieldCell target.schema r) ++ [.text flagNo]) := by
    rw [entry, hrecord.fieldCell, hstate]
    rfl
  have hplace := (Table.place_perm ⟨number, entry target.schema target.index row⟩ t.rows).map
    (·.cells)
  rw [List.map_cons] at hplace
  rw [Filled, List.map_cons, ← hentry]
  exact hplace.trans (hf.cons _)

/-- What an update does to the cells of a row that meets its condition. -/
theorem Filled.update_of (hf : Filled s ix t records) (hs : Shaped s ix t)
    {assigned : List (String × Value)} {table : String} {change : RecordRow → RecordRow}
    (hassign : ∀ row ∈ records,
      t.assign assigned (entry s ix row) = entry s ix (change row))
    (h : t.update uniques ⟨table, assigned, idCondition (.ofInt n)⟩ = .ok t') :
    Filled s ix t' (records.map fun row => if row.id == n then change row else row) := by
  obtain ⟨rows, hcells, rfl, -⟩ := Table.update_eq_ok h
  -- the change of a row as a function of its cells alone
  let step (cells : List Cell) : List Cell :=
    if t.meets ⟨0, cells⟩ (idCondition (.ofInt n)) then t.assign assigned cells else cells
  have hstep : t.rows.map (t.updatedCells ⟨table, assigned, idCondition (.ofInt n)⟩) =
      (t.rows.map (·.cells)).map step := by
    rw [List.map_map]
    refine List.map_congr_left fun row hrow => ?_
    obtain ⟨record, -, hrecord⟩ := List.mem_map.1 (hf.subset (List.mem_map_of_mem hrow))
    have hcells : (⟨0, row.cells⟩ : Row).cells = entry s ix record := hrecord.symm
    simp only [Table.updatedCells, step, Function.comp_apply]
    rw [meets_idCondition hs hrecord.symm, meets_idCondition hs hcells]
  have hentry : (records.map (entry s ix)).map step =
      (records.map fun row => if row.id == n then change row else row).map (entry s ix) := by
    rw [List.map_map, List.map_map]
    refine List.map_congr_left fun row hrow => ?_
    simp only [Function.comp_apply, step, apply_ite (entry s ix)]
    rw [meets_idCondition hs rfl, hassign row hrow]
  have hperm := (Table.foldr_place_perm rows).map (·.cells)
  rw [hcells, hstep] at hperm
  rw [Filled, ← hentry]
  exact hperm.trans (hf.map step)

theorem Filled.update (hf : Filled target.schema target.index t records)
    (hs : Shaped target.schema target.index t) {r : Record} {q : Update}
    (hq : updateRow target id r = .ok q) (hid : storedId? id = some n)
    (h : t.update uniques q = .ok t') {text : String}
    (hrecord : ∀ row : RecordRow, SameFields { row with text := text }.record r) :
    Filled target.schema target.index t'
      (records.map fun row => if row.id == n then { row with text := text } else row) := by
  obtain ⟨m, hm, hbound, rfl⟩ := updateRow_eq_ok hq
  obtain rfl : n = m := Option.some.inj (hid.symm.trans hm)
  refine hf.update_of hs (fun row _ => ?_) h
  rw [entry, assign_updateRow hs hbound (length_fields _ _ _), entry, (hrecord row).fieldCell]

theorem Filled.flag (hf : Filled target.schema target.index t records)
    (hs : Shaped target.schema target.index t) {quarantined : Bool} {q : Update}
    (hq : flagRow target id quarantined = .ok q) (hid : storedId? id = some n)
    (h : t.update uniques q = .ok t') {state : RecordState}
    (hstate : (state == .quarantined) = quarantined) :
    Filled target.schema target.index t'
      (records.map fun row => if row.id == n then { row with state := state } else row) := by
  obtain ⟨m, hm, rfl⟩ := flagRow_eq_ok hq
  obtain rfl : n = m := Option.some.inj (hid.symm.trans hm)
  refine hf.update_of hs (fun row _ => ?_) h
  rw [entry, assign_flagRow hs (length_fields _ _ _), entry, hstate]
  rfl

theorem Filled.delete (hf : Filled target.schema target.index t records)
    (hs : Shaped target.schema target.index t) {q : Delete}
    (hq : deleteRow target id = .ok q) (hid : storedId? id = some n) :
    Filled target.schema target.index (t.delete q) (records.filter (·.id != n)) := by
  obtain ⟨m, hm, rfl⟩ := deleteRow_eq_ok hq
  obtain rfl : n = m := Option.some.inj (hid.symm.trans hm)
  -- the condition on a row as a condition on its cells alone
  let keep (cells : List Cell) : Bool := !t.meets ⟨0, cells⟩ (idCondition (.ofInt n))
  have hrows : (t.rows.filter fun row => !t.meets row (idCondition (.ofInt n))).map (·.cells) =
      (t.rows.map (·.cells)).filter keep := by
    rw [List.filter_map]
    refine congrArg _ (List.filter_congr fun row hrow => ?_)
    obtain ⟨record, -, hrecord⟩ := List.mem_map.1 (hf.subset (List.mem_map_of_mem hrow))
    have hcells : (⟨0, row.cells⟩ : Row).cells = entry target.schema target.index record :=
      hrecord.symm
    simp only [Function.comp_apply, keep]
    rw [meets_idCondition hs hrecord.symm, meets_idCondition hs hcells]
  have hentry : (records.map (entry target.schema target.index)).filter keep =
      (records.filter (·.id != n)).map (entry target.schema target.index) := by
    rw [List.filter_map]
    refine congrArg _ (List.filter_congr fun row _ => ?_)
    simp only [Function.comp_apply, keep]
    rw [meets_idCondition hs rfl]
    rfl
  show ((t.rows.filter _).map (·.cells)).Perm _
  rw [hrows, ← hentry]
  exact List.Perm.filter keep hf

/-! ### The record number as primary key -/

/-- Whether a table has a row of a record number. -/
def HasId (t : Table) (n : Int64) : Prop :=
  ∃ row ∈ t.rows, row.cells.head? = some (.integer n)

theorem uniqueKey?_id (hs : Shaped s ix t) {row : Row} (h : row.cells.head? = some (.integer n)) :
    Table.uniqueKey? ([idColumn].map t.indexed) row = some [.integer n] := by
  obtain ⟨cells, hcells⟩ : ∃ cells, row.cells = .integer n :: cells := by
    cases hrow : row.cells with
    | nil => rw [hrow] at h; cases h
    | cons c cells =>
      rw [hrow] at h
      exact ⟨cells, by rw [Option.some.inj h]⟩
  simp [Table.uniqueKey?, hs.indexed_id.2, Source.cell, hcells]

/-- A row of a record number goes into a table that has none, whichever index the row is made for. -/
theorem hasId_insert (hs : Shaped s ix t) {r : Record} {q : Insert}
    (hq : insertRow target id r = .ok q) (hid : storedId? id = some n)
    (h : t.insert uniques q = .ok t') : ¬ HasId t n ∧ HasId t' n := by
  obtain ⟨m, hm, -, -, hgiven⟩ := insertRow_eq_ok hq
  obtain rfl : n = m := Option.some.inj (hid.symm.trans hm)
  obtain ⟨-, number, rfl, -, hfree⟩ := Table.insert_eq_ok h
  have hhead : (t.newCells (q.columns.zip q.values)).head? = some (.integer n) := by
    have hfind (rest : List (String × Value)) : ((idColumn, Value.ofInt n) :: rest).find?
        (fun cv => sameName cv.1 idSpec.name) = some (idColumn, .ofInt n) :=
      List.find?_cons_of_pos (sameName_self idColumn)
    rw [hgiven, Table.newCells, hs.columns, columnSpecs, List.map_cons, List.head?_cons,
      List.cons_append, hfind]
    rfl
  have hnew : Table.uniqueKey? ([idColumn].map t.indexed)
      ⟨number, t.newCells (q.columns.zip q.values)⟩ = some [.integer n] := uniqueKey?_id hs hhead
  have htaken := hfree [idColumn] (by rw [Table.constraints, hs.primaryKey]; simp)
  rw [Table.taken, hnew] at htaken
  simp only [List.any_eq_false] at htaken
  constructor
  · rintro ⟨row, hrow, hn⟩
    refine htaken [.integer n] (List.mem_filterMap.2 ⟨row, hrow, uniqueKey?_id hs hn⟩) ?_
    simp [Table.sameKey, same_integer]
  · exact ⟨_, (Table.place_perm _ _).mem_iff.2 List.mem_cons_self, hhead⟩

end RecordStore.Index
