import Mathlib
import RecordStore.Proofs.Database.Selection
import RecordStore.Proofs.Index.Conflict
import RecordStore.Proofs.Store.RowLoop

/-!
When the statements on the row of a record can be run.  The table of an index is ready when it holds
the rows of some records and keeps unique what it has to; a statement for a record that has a value in
every column then fails for one reason only, which is that another record shares its key.
-/
namespace RecordStore
open Sql Database Transaction

namespace Index

/-! ### Columns that are there -/

section
variable {t : Table} {name : String}

theorem position?_of_mem (h : name ∈ t.definition.columns.map (·.name)) :
    (t.position? name).isSome = true := by
  obtain ⟨c, hc, rfl⟩ := List.mem_map.1 h
  rw [Table.position?, List.findIdx?_isSome, List.any_eq_true]
  exact ⟨c, hc, sameName_self _⟩

/-- A column is never taken for the number of a row. -/
theorem namesNumber_eq_false (h : name ∈ t.definition.columns.map (·.name)) :
    t.namesNumber name = false := by
  obtain ⟨i, hi⟩ := Option.isSome_iff_exists.1 (position?_of_mem h)
  simp [Table.namesNumber, hi]

theorem missing?_eq_none {names : List String}
    (h : ∀ c ∈ names, c ∈ t.definition.columns.map (·.name)) : t.missing? names = none := by
  refine List.find?_eq_none.2 fun c hc => ?_
  obtain ⟨i, hi⟩ := Option.isSome_iff_exists.1 (position?_of_mem (h c hc))
  simp [hi]

theorem askedNumber_eq_none {given : List (String × Value)}
    (h : ∀ cv ∈ given, cv.1 ∈ t.definition.columns.map (·.name)) :
    t.askedNumber given = .ok none := by
  have hnone : given.filter (fun cv => t.namesNumber cv.1) = [] :=
    List.filter_eq_nil_iff.2 fun cv hcv => by simp [namesNumber_eq_false (h cv hcv)]
  rw [Table.askedNumber, hnone]
  rfl

end

section
variable {s : Schema} {ix : IndexDefinition} {t : Table}

theorem assignments_names (s : Schema) (ix : IndexDefinition) (r : Record) :
    (assignments s ix r).map (·.1) = valueNames ix := by
  simp [assignments, valueNames]

theorem mem_columnNames {name : String} : name ∈ (columnSpecs s ix).map (·.name) ↔
    name = idColumn ∨ name ∈ valueNames ix ∨ name = quarantinedColumn := by
  rw [columnSpecs_names, List.mem_cons, List.mem_append, List.mem_singleton, valueNames]

/-- No column but those of the record number and the flag has to have a value. -/
theorem Shaped.missingValue?_eq_none (hs : Shaped s ix t) {id flag : Cell} {cells : List Cell}
    (hl : cells.length = ix.valueColumns.length) (hid : id ≠ .null) (hflag : flag ≠ .null) :
    t.missingValue? (id :: (cells ++ [flag])) = none := by
  rw [Table.missingValue?, Option.map_eq_none_iff, List.find?_eq_none, hs.columns, columnSpecs,
    List.zip_cons_cons, List.zip_append (by simp [hl])]
  rintro ⟨spec, cell⟩ hmem
  rcases List.mem_cons.1 hmem with hmem | hmem
  · obtain ⟨rfl, rfl⟩ := Prod.mk.inj hmem
    simp [hid]
  rcases List.mem_append.1 hmem with hmem | hmem
  · obtain ⟨c, -, rfl⟩ := List.mem_map.1 (List.of_mem_zip hmem).1
    simp [valueSpec, ColumnSpec.plain]
  · obtain ⟨rfl, rfl⟩ := Prod.mk.inj (List.mem_singleton.1 hmem)
    simp [hflag]

/-! ### Statements that can be made -/

variable {target : Target} {id : UInt64} {m : Int64} {r : Record}

theorem idValue_of_storedId? (hid : storedId? id = some m) : idValue id = .ok (.ofInt m) :=
  idValue_eq_ok.2 ⟨m, hid, rfl⟩

theorem insertRow_of_bound (hid : storedId? id = some m) (hb : Bound target.schema target.index r) :
    insertRow target id r = .ok ⟨target.names.table,
      idColumn :: (valueNames target.index ++ [quarantinedColumn]),
      .ofInt m :: (target.index.valueColumns.map (boundValue target.schema r) ++
        [.ofText flagNo])⟩ := by
  have hvalues : (assignments target.schema target.index r).map (·.2) =
      target.index.valueColumns.map (boundValue target.schema r) := by
    simp [assignments]
  refine bind_eq_ok.2 ⟨_, idValue_of_storedId? hid, bind_eq_ok.2 ⟨_, rowValues_eq_ok.2 ⟨hb, rfl⟩, ?_⟩⟩
  rw [assignments_names, hvalues, insertInto, if_pos (by simp [valueNames])]
  rfl

theorem updateRow_of_bound (hid : storedId? id = some m) (hb : Bound target.schema target.index r) :
    updateRow target id r = .ok ⟨target.names.table, assignments target.schema target.index r,
      idCondition (.ofInt m)⟩ :=
  bind_eq_ok.2 ⟨_, rowValues_eq_ok.2 ⟨hb, rfl⟩, bind_eq_ok.2 ⟨_, idValue_of_storedId? hid, rfl⟩⟩

theorem flagRow_of_storedId? (hid : storedId? id = some m) (quarantined : Bool) :
    flagRow target id quarantined = .ok ⟨target.names.table,
      [(quarantinedColumn, .ofText (quarantineFlag quarantined))], idCondition (.ofInt m)⟩ :=
  bind_eq_ok.2 ⟨_, idValue_of_storedId? hid, rfl⟩

theorem deleteRow_of_storedId? (hid : storedId? id = some m) :
    deleteRow target id = .ok ⟨target.names.table, idCondition (.ofInt m)⟩ :=
  bind_eq_ok.2 ⟨_, idValue_of_storedId? hid, rfl⟩

/-! ### Statements on a table -/

/-- An insertion of a row with a value for every column fails only where the row is taken for one that
is there. -/
theorem Shaped.insert_eq (hs : Shaped s ix t) (hn : t.Numbered) (hlength : t.rows.length < 2 ^ 63)
    (hb : Bound s ix r) (uniques : List (List String)) (table : String) {row : Row}
    (hrow : row = ⟨t.nextNumber, .integer m :: (ix.valueColumns.map (fieldCell s r) ++
      [.text flagNo])⟩) :
    t.insert uniques ⟨table, idColumn :: (valueNames ix ++ [quarantinedColumn]),
        .ofInt m :: (ix.valueColumns.map (boundValue s r) ++ [.ofText flagNo])⟩ =
      if (t.constraints uniques).any fun cs => t.taken cs t.rows row then .error .uniqueViolation
      else .ok { t with rows := Table.place row t.rows } := by
  have hgiven : (idColumn :: (valueNames ix ++ [quarantinedColumn])).zip
      (Value.ofInt m :: (ix.valueColumns.map (boundValue s r) ++ [.ofText flagNo])) =
      (idColumn, .ofInt m) :: assignments s ix r ++ [(quarantinedColumn, .ofText flagNo)] := by
    rw [List.zip_cons_cons, List.zip_append (by simp [valueNames]), valueNames, List.zip_map']
    rfl
  have hnames : ∀ c ∈ idColumn :: (valueNames ix ++ [quarantinedColumn]),
      c ∈ t.definition.columns.map (·.name) := by
    rw [hs.columns_names]
    exact fun c hc => hc
  have hasked : t.askedNumber ((idColumn, .ofInt m) :: assignments s ix r ++
      [(quarantinedColumn, .ofText flagNo)]) = .ok none := by
    refine askedNumber_eq_none fun cv hcv => hnames cv.1 ?_
    rw [← hgiven] at hcv
    exact (List.of_mem_zip hcv).1
  have hfree : (t.rows.any fun row => row.number == t.nextNumber) = false :=
    List.any_eq_false.2 fun row hmem => by simpa using hn.nextNumber_ne hlength row hmem
  have hmissing : t.missingValue? row.cells = none := by
    rw [hrow]
    exact hs.missingValue?_eq_none (length_fields s ix r) (by simp) (by simp)
  rw [Table.insert, missing?_eq_none hnames]
  simp only [hgiven, hasked]
  show t.addRow uniques _ = _
  rw [newCells_insertRow hs hb, Option.getD_none, ← hrow, Table.addRow, hmissing]
  simp only
  rw [hrow, hfree, Bool.false_or]
  rfl

/-- An update that leaves no column without the value it needs fails only where the rows do not differ
afterwards. -/
theorem update_of_names (hn : t.Numbered) (uniques : List (List String))
    (table : String) {assigned : List (String × Value)} (hne : assigned ≠ [])
    (hnames : ∀ cv ∈ assigned, cv.1 ∈ t.definition.columns.map (·.name)) (condition : Condition)
    (hcells : ∀ row ∈ t.rows, t.missingValue? (t.assign assigned row.cells) = none) :
    let rows := t.rows.map fun row =>
      if t.meets row condition then { row with cells := t.assign assigned row.cells } else row
    t.update uniques ⟨table, assigned, condition⟩ =
      if ∀ cs ∈ t.constraints uniques, t.distinctBy cs rows = true then
        .ok { t with rows := rows.foldr Table.place [] }
      else .error .uniqueViolation := by
  intro rows
  have hchange : ∀ row ∈ t.rows, t.change assigned row =
      .ok { row with cells := t.assign assigned row.cells } := by
    intro row hrow
    have hany : (assigned.any fun cv => t.namesNumber cv.1) = false :=
      List.any_eq_false.2 fun cv hcv => by simp [namesNumber_eq_false (hnames cv hcv)]
    simp only [Table.change, hany, hcells row hrow]
    rfl
  have hrows : t.rows.mapM (fun row =>
      if t.meets row condition then t.change assigned row else .ok row) = .ok rows := by
    refine mapM_eq_ok.2 (List.forall₂_map_right_iff.2 (List.forall₂_same.2 fun row hrow => ?_))
    split
    · exact hchange row hrow
    · rfl
  have hnumbers : rows.map (·.number) = t.rows.map (·.number) := by
    rw [List.map_map]
    refine List.map_congr_left fun row _ => ?_
    simp only [Function.comp_apply]
    split <;> rfl
  have hmissing : t.missing? (assigned.map (·.1)) = none := by
    refine missing?_eq_none fun c hc => ?_
    obtain ⟨cv, hcv, rfl⟩ := List.mem_map.1 hc
    exact hnames cv hcv
  rw [Table.update, if_neg (by simpa using hne), hmissing]
  simp only [hrows]
  show (if (rows.map (·.number)).Nodup && (t.constraints uniques).all _ then _ else _ :
    Except DatabaseFault Table) = _
  rw [hnumbers, decide_eq_true hn.nodup, Bool.true_and]
  simp only [List.all_eq_true]
  rfl

end

/-! ### Statements on a table of records -/

section
variable {s : Schema} {ix : IndexDefinition} {t : Table} {records ordered : List RecordRow}
  {m : Int64} {r : Record}

theorem Filled.exists_rowsOf (hf : Filled s ix t records)
    (hbound : ∀ x ∈ records, Bound s ix x.record) :
    ∃ ordered, ordered.Perm records ∧ RowsOf s ix t.rows ordered := by
  obtain ⟨ordered, hperm, hrows⟩ := hf.exists_ordered
  exact ⟨ordered, hperm, hrows.imp fun row x h => ⟨h.1, hbound x h.2⟩⟩

theorem entry_of_live {row : RecordRow} (hstate : row.state = .live)
    (hrecord : SameFields row.record r) : entry s ix row =
      .integer row.id :: (ix.valueColumns.map (fieldCell s r) ++ [.text flagNo]) := by
  rw [entry, hrecord.fieldCell, hstate]
  rfl

/-- A new row is taken for another one exactly when its record is blocked, that is, when the records do
not differ any more. -/
theorem Shaped.not_taken_iff (hs : Shaped s ix t) (hk : t.Keyed (uniquesFor ix))
    (hrows : RowsOf s ix t.rows ordered) (hperm : ordered.Perm records) (hb : Bound s ix r)
    {new : RecordRow} (hrecord : SameFields new.record r) (hfree : ∀ x ∈ records, x.id ≠ new.id) :
    (∀ cs ∈ t.constraints (uniquesFor ix),
        t.taken cs t.rows ⟨t.nextNumber, entry s ix new⟩ = false) ↔
      blocked s ix new.id r records = false := by
  have hrows' : RowsOf s ix (⟨t.nextNumber, entry s ix new⟩ :: t.rows) (new :: ordered) :=
    .cons ⟨rfl, (hrecord.bound s ix).2 hb⟩ hrows
  have hold := (hs.distinct_iff hrows).1 hk
  have hcons : (∀ cs ∈ t.constraints (uniquesFor ix),
      t.taken cs t.rows ⟨t.nextNumber, entry s ix new⟩ = false) ↔
      ∀ cs ∈ t.constraints (uniquesFor ix),
        t.distinctBy cs (⟨t.nextNumber, entry s ix new⟩ :: t.rows) = true :=
    forall₂_congr fun cs hcs => by
      rw [Table.distinctBy_cons_iff, and_iff_left (hk cs hcs)]
  rw [hcons, hs.distinct_iff hrows', blocked_eq_false_iff, List.pairwise_cons, List.pairwise_cons]
  constructor
  · rintro ⟨-, hkeys⟩ hunique x hx -
    rw [← hrecord.sharesKey]
    exact (hkeys hunique).1 x (hperm.mem_iff.2 hx)
  · intro hkeys
    refine ⟨⟨fun x hx => (hfree x (hperm.mem_iff.1 hx)).symm, hold.1⟩, fun hunique =>
      ⟨fun x hx => ?_, hold.2 hunique⟩⟩
    rw [hrecord.sharesKey]
    exact hkeys hunique x (hperm.mem_iff.1 hx) (hfree x (hperm.mem_iff.1 hx))

/-- A row goes into a table unless its record is blocked by another one. -/
theorem Filled.insert_outcome (hf : Filled s ix t records) (hs : Shaped s ix t) (hn : t.Numbered)
    (hk : t.Keyed (uniquesFor ix)) (hbound : ∀ x ∈ records, Bound s ix x.record)
    (hlength : records.length < 2 ^ 63) (hb : Bound s ix r) {new : RecordRow}
    (hstate : new.state = .live) (hrecord : SameFields new.record r)
    (hfree : ∀ x ∈ records, x.id ≠ new.id) (table : String) :
    let q : Insert := ⟨table, idColumn :: (valueNames ix ++ [quarantinedColumn]),
      .ofInt new.id :: (ix.valueColumns.map (boundValue s r) ++ [.ofText flagNo])⟩
    (blocked s ix new.id r records = true → t.insert (uniquesFor ix) q = .error .uniqueViolation) ∧
      (blocked s ix new.id r records = false → ∃ t', t.insert (uniquesFor ix) q = .ok t') := by
  intro q
  obtain ⟨ordered, hperm, hrows⟩ := hf.exists_rowsOf hbound
  have hcount : t.rows.length < 2 ^ 63 := by
    rw [hrows.length_eq, hperm.length_eq]
    exact hlength
  have hinsert := hs.insert_eq (m := new.id) hn hcount hb (uniquesFor ix) table rfl
  rw [← entry_of_live hstate hrecord] at hinsert
  have hdistinct := hs.not_taken_iff hk hrows hperm hb hrecord hfree
  constructor
  · intro hblocked
    rw [hinsert, if_pos]
    by_contra hany
    rw [Bool.not_eq_true, List.any_eq_false] at hany
    rw [hdistinct.1 fun cs hcs => by simpa using hany cs hcs] at hblocked
    cases hblocked
  · intro hclear
    rw [hinsert, if_neg]
    · exact ⟨_, rfl⟩
    · rw [Bool.not_eq_true, List.any_eq_false]
      exact fun cs hcs => by simp [hdistinct.2 hclear cs hcs]

/-- A change of the cells of one record's row. -/
theorem RowsOf.update (hrows : RowsOf s ix t.rows ordered) (hs : Shaped s ix t)
    {assigned : List (String × Value)} {change : RecordRow → RecordRow}
    (hchange : ∀ x : RecordRow, Bound s ix x.record →
      t.assign assigned (entry s ix x) = entry s ix (change x) ∧ Bound s ix (change x).record) :
    RowsOf s ix
      (t.rows.map fun row => if t.meets row (idCondition (.ofInt m)) then
        { row with cells := t.assign assigned row.cells } else row)
      (ordered.map fun x => if x.id == m then change x else x) := by
  refine List.forall₂_map_left_iff.2 (List.forall₂_map_right_iff.2 (hrows.imp ?_))
  rintro row x ⟨hcells, hbound⟩
  rw [meets_idCondition hs hcells]
  split
  · rw [hcells]
    exact hchange x hbound
  · exact ⟨hcells, hbound⟩

/-- An update of one record's row runs unless the rows do not differ afterwards. -/
theorem RowsOf.update_outcome (hrows : RowsOf s ix t.rows ordered) (hs : Shaped s ix t)
    (hn : t.Numbered) {assigned : List (String × Value)} {change : RecordRow → RecordRow}
    (hne : assigned ≠ []) (hnames : ∀ cv ∈ assigned, cv.1 ∈ t.definition.columns.map (·.name))
    (hchange : ∀ x : RecordRow, Bound s ix x.record →
      t.assign assigned (entry s ix x) = entry s ix (change x) ∧ Bound s ix (change x).record)
    (hid : ∀ x, (change x).id = x.id) (hk : t.Keyed (uniquesFor ix)) (table : String) :
    let q : Update := ⟨table, assigned, idCondition (.ofInt m)⟩
    let apart := ix.unique = true → (ordered.map fun x => if x.id == m then change x else x).Pairwise
      fun x y => sharesKey s ix x.record y.record = false
    (¬ apart → t.update (uniquesFor ix) q = .error .uniqueViolation) ∧
      (apart → ∃ t', t.update (uniquesFor ix) q = .ok t') := by
  intro q apart
  have hcells : ∀ row ∈ t.rows, t.missingValue? (t.assign assigned row.cells) = none := by
    intro row hrow
    obtain ⟨x, -, hx, hbound⟩ := exists_of_mem_right hrows.flip hrow
    rw [hx, (hchange x hbound).1]
    exact hs.missingValue?_eq_none (length_fields s ix _) (by simp) (by simp)
  have hupdate := update_of_names hn (uniquesFor ix) table hne hnames
    (idCondition (.ofInt m)) hcells
  simp only at hupdate
  have hdistinct := hs.distinct_iff (hrows.update (m := m) hs hchange)
  have hids : (ordered.map fun x => if x.id == m then change x else x).Pairwise
      fun x y => x.id ≠ y.id := by
    rw [List.pairwise_map]
    refine (((hs.distinct_iff hrows).1 hk).1).imp fun {x y} hxy => ?_
    have hsame (z : RecordRow) : (if z.id == m then change z else z).id = z.id := by
      split
      · exact hid z
      · rfl
    rwa [hsame, hsame]
  rw [and_iff_right hids] at hdistinct
  constructor
  · intro hnot
    rw [hupdate, if_neg (mt hdistinct.1 hnot)]
  · intro hapart
    rw [hupdate, if_pos (hdistinct.2 hapart)]
    exact ⟨_, rfl⟩

/-- When the record of a number changes, it shares no key with the others exactly when none of them
blocks it. -/
theorem pairwise_change_iff {change : RecordRow → RecordRow}
    (hrecord : ∀ x, SameFields (change x).record r) (hids : ordered.Pairwise fun x y => x.id ≠ y.id)
    (hold : ordered.Pairwise fun x y => sharesKey s ix x.record y.record = false)
    (hmem : ∃ x ∈ ordered, x.id = m) :
    ((ordered.map fun x => if x.id == m then change x else x).Pairwise
        fun x y => sharesKey s ix x.record y.record = false) ↔
      ∀ x ∈ ordered, x.id ≠ m → sharesKey s ix r x.record = false := by
  rw [List.pairwise_map]
  constructor
  · intro hpairs x hx hne
    obtain ⟨z, hz, hzm⟩ := hmem
    have : Std.Symm fun x y : RecordRow =>
        sharesKey s ix (if x.id == m then change x else x).record
          (if y.id == m then change y else y).record = false :=
      ⟨fun x y h => by rwa [sharesKey_comm]⟩
    have hzx := List.Pairwise.forall hpairs hz hx fun he => hne (he ▸ hzm)
    rw [if_pos (beq_iff_eq.2 hzm), if_neg (by simpa using hne), (hrecord z).sharesKey] at hzx
    exact hzx
  · intro hall
    refine (hids.and hold).imp_of_mem fun {x y} hx hy hxy => ?_
    by_cases hxm : x.id = m
    · have hym : y.id ≠ m := fun he => hxy.1 (hxm.trans he.symm)
      rw [if_pos (beq_iff_eq.2 hxm), if_neg (by simpa using hym), (hrecord x).sharesKey]
      exact hall y hy hym
    · rw [if_neg (by simpa using hxm)]
      split
      · rw [sharesKey_comm, (hrecord y).sharesKey]
        exact hall x hx hxm
      · exact hxy.2

/-- The row of a record takes on new values unless the record is blocked by another one. -/
theorem Filled.update_outcome (hf : Filled s ix t records) (hs : Shaped s ix t) (hn : t.Numbered)
    (hk : t.Keyed (uniquesFor ix)) (hbound : ∀ x ∈ records, Bound s ix x.record)
    (hvalues : ix.valueColumns ≠ []) (hb : Bound s ix r) (hmem : ∃ x ∈ records, x.id = m)
    {text : String} (hrecord : ∀ x : RecordRow, SameFields { x with text := text }.record r)
    (table : String) :
    let q : Update := ⟨table, assignments s ix r, idCondition (.ofInt m)⟩
    (blocked s ix m r records = true → t.update (uniquesFor ix) q = .error .uniqueViolation) ∧
      (blocked s ix m r records = false → ∃ t', t.update (uniquesFor ix) q = .ok t') := by
  intro q
  obtain ⟨ordered, hperm, hrows⟩ := hf.exists_rowsOf hbound
  have hchange : ∀ x : RecordRow, Bound s ix x.record →
      t.assign (assignments s ix r) (entry s ix x) = entry s ix { x with text := text } ∧
        Bound s ix { x with text := text }.record := by
    intro x _
    rw [entry, assign_updateRow hs hb (length_fields _ _ _), entry, (hrecord x).fieldCell]
    exact ⟨rfl, ((hrecord x).bound s ix).2 hb⟩
  have hnames : ∀ cv ∈ assignments s ix r, cv.1 ∈ t.definition.columns.map (·.name) := by
    intro cv hcv
    rw [hs.columns, mem_columnNames, ← assignments_names s ix r]
    refine .inr (.inl ?_)
    exact List.mem_map_of_mem hcv
  have houtcome := hrows.update_outcome (m := m) hs hn (by simpa [assignments] using hvalues) hnames
    hchange (fun _ => rfl) hk table
  have hdistinct := (hs.distinct_iff hrows).1 hk
  have hmem' : ∃ x ∈ ordered, x.id = m := by
    obtain ⟨x, hx, hxm⟩ := hmem
    exact ⟨x, hperm.mem_iff.2 hx, hxm⟩
  have happart : (ix.unique = true →
      (ordered.map fun x => if x.id == m then { x with text := text } else x).Pairwise
        fun x y => sharesKey s ix x.record y.record = false) ↔ blocked s ix m r records = false := by
    rw [blocked_eq_false_iff]
    refine imp_congr_right fun hunique => ?_
    rw [pairwise_change_iff hrecord hdistinct.1 (hdistinct.2 hunique) hmem']
    exact forall_congr' fun x => by rw [hperm.mem_iff]
  simp only [happart, Bool.not_eq_false] at houtcome
  exact houtcome

/-- The quarantine flag of a record can always be set. -/
theorem Filled.flag_outcome (hf : Filled s ix t records) (hs : Shaped s ix t) (hn : t.Numbered)
    (hk : t.Keyed (uniquesFor ix)) (hbound : ∀ x ∈ records, Bound s ix x.record)
    (quarantined : Bool) (table : String) : ∃ t', t.update (uniquesFor ix)
      ⟨table, [(quarantinedColumn, .ofText (quarantineFlag quarantined))],
        idCondition (.ofInt m)⟩ = .ok t' := by
  obtain ⟨ordered, hperm, hrows⟩ := hf.exists_rowsOf hbound
  have hchange : ∀ x : RecordRow, Bound s ix x.record →
      t.assign [(quarantinedColumn, .ofText (quarantineFlag quarantined))] (entry s ix x) =
          entry s ix { x with state := if quarantined then .quarantined else .live } ∧
        Bound s ix { x with state := if quarantined then .quarantined else .live }.record := by
    intro x hx
    rw [entry, assign_flagRow hs (length_fields _ _ _), entry]
    refine ⟨?_, hx⟩
    cases quarantined <;> rfl
  have hnames : ∀ cv ∈ [(quarantinedColumn, Value.ofText (quarantineFlag quarantined))],
      cv.1 ∈ t.definition.columns.map (·.name) := by
    intro cv hcv
    rw [List.mem_singleton.1 hcv, hs.columns, mem_columnNames]
    exact .inr (.inr rfl)
  refine (hrows.update_outcome (m := m) hs hn (List.cons_ne_nil _ _) hnames hchange (fun _ => rfl) hk
    table).2 fun hunique => ?_
  -- no column of the key has changed
  rw [List.pairwise_map]
  refine (((hs.distinct_iff hrows).1 hk).2 hunique).imp fun {x y} hxy => ?_
  have hsame (z : RecordRow) : (if z.id == m then
      { z with state := if quarantined then .quarantined else .live } else z).record = z.record := by
    split <;> rfl
  rwa [hsame, hsame]

end

end Index

end RecordStore
