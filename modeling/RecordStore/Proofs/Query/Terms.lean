import Mathlib
import RecordStore.Database.Basic
import RecordStore.Proofs.Index.Rows

/-!
What the terms of a query say of a record, and that the conditions of the compiled statement say the
same of its row in the table of the index.  A term speaks of the record alone: of the datum that a
field has after both transforms, or of the record number.
-/
namespace RecordStore
open Sql Database Index

/-! ### Terms on records -/

/-- The datum that a record has in a column; nothing when its field is null. -/
def fieldDatum (s : Schema) (r : Record) (c : IndexColumn) : Option Datum :=
  (boundValue? s r c).bind Value.datum?

/-- The datum that a scalar stands for in a column. -/
def scalarDatum (s : Schema) (c : IndexColumn) (v : FieldValue) : Option Datum :=
  (s.attribute? c.name).bind fun a => (bindColumn a c v).toOption.bind Value.datum?

/-- The record number that a scalar stands for, as a datum. -/
def numberDatum (typeName : String) (v : FieldValue) : Option Datum :=
  (v.recordId? typeName).map fun id => .number id.toNat

namespace Term

/-- What a term says of the datum that it is about.  A null is equal to null alone, and whatever is
not null differs from it. -/
def Asks (t : Term) (field : Option Datum) (reading : FieldValue → Option Datum) : Prop :=
  match t.operand with
  | .scalar v =>
    if v = .null then t.operator = .eq ∧ field = none ∨ t.operator = .ne ∧ field ≠ none
    else ∃ x ∈ field, ∃ y ∈ reading v, t.operator.Relates x y
  | .list vs => t.operator = .within ∧ ∃ x ∈ field, ∃ v ∈ vs, reading v = some x

/-- Whether a record satisfies a term on an index of its type. -/
def Satisfied (typeName : String) (s : Schema) (ix : IndexDefinition) (row : RecordRow) (t : Term) :
    Prop :=
  if t.field = idAttribute then t.Asks (some (.number row.id.toInt)) (numberDatum typeName)
  else ∃ c ∈ ix.valueColumns, c.name = t.field ∧
    t.Asks (fieldDatum s row.record c) (scalarDatum s c)

end Term

/-! ### Columns in a row -/

/-- A column holds a value in a row, and values of its type are compared with it as they are. -/
structure ColumnHolds (t : Table) (row : Row) (column : String) (type : ColumnType) (v : Value) :
    Prop where
  cell : (t.source column).cell row = Cell.ofValue v
  fits : v.Fits type
  operand : ∀ w, w.Fits type → (t.source column).operand w = Cell.ofValue w

section
variable {typeName : String} {s : Schema} {ix : IndexDefinition} {t : Table} {row : Row}
  {record : RecordRow} {column : String} {type : ColumnType} {v : Value}

theorem ColumnHolds.meets_compare (h : ColumnHolds t row column type v) {o : Operator}
    {op : Comparison} (ho : Query.comparison? o = some op) {w : Value} (hw : w.Fits type) :
    t.meets row (.compare column op w) = true ↔
      ∃ x ∈ v.datum?, ∃ y ∈ w.datum?, o.Relates x y := by
  have hmeets : t.meets row (.compare column op w) =
      (Cell.ofValue v).satisfies op (Cell.ofValue w) := by
    simp only [Table.meets, Condition.column]
    rw [h.cell, h.operand w hw]
  rw [hmeets, h.fits.satisfies_iff hw ho]
  constructor
  · rintro ⟨x, y, hx, hy, hr⟩
    exact ⟨x, hx, y, hy, hr⟩
  · rintro ⟨x, hx, y, hy, hr⟩
    exact ⟨x, y, hx, hy, hr⟩

theorem ColumnHolds.meets_within (h : ColumnHolds t row column type v) {ws : List Value}
    (hws : ∀ w ∈ ws, w.Fits type) : t.meets row (.within column ws) = true ↔
      ∃ x ∈ v.datum?, ∃ w ∈ ws, w.datum? = some x := by
  have heach (w : Value) (hw : w ∈ ws) :
      ((t.source column).cell row).satisfies .eq ((t.source column).operand w) = true ↔
        ∃ x ∈ v.datum?, w.datum? = some x := by
    rw [h.cell, h.operand w (hws w hw), h.fits.satisfies_iff (o := .eq) (hws w hw) rfl]
    constructor
    · rintro ⟨x, y, hx, hy, rfl⟩
      exact ⟨x, hx, hy⟩
    · rintro ⟨x, hx, hw⟩
      exact ⟨x, x, hx, hw, rfl⟩
  simp only [Table.meets, Condition.column, List.any_eq_true]
  constructor
  · rintro ⟨w, hw, hsame⟩
    obtain ⟨x, hx, hwx⟩ := (heach w hw).1 hsame
    exact ⟨x, hx, w, hw, hwx⟩
  · rintro ⟨x, hx, w, hw, hwx⟩
    exact ⟨w, hw, (heach w hw).2 ⟨x, hx, hwx⟩⟩

theorem ColumnHolds.meets_isNull (h : ColumnHolds t row column type v) :
    (t.meets row (.isNull column) = true ↔ v.datum? = none) ∧
      (t.meets row (.isNotNull column) = true ↔ v.datum? ≠ none) := by
  simp only [Table.meets, Condition.column, h.cell, beq_iff_eq, bne_iff_ne, ne_eq,
    Cell.ofValue_eq_null, and_self]

/-! ### The columns of a row of a record -/

theorem Index.Shaped.holds_id (hs : Shaped s ix t) (hrow : row.cells = entry s ix record) :
    ColumnHolds t row idColumn .bigInt (.ofInt record.id) where
  cell := (hs.entry_cells hrow).1
  fits := by
    rintro x ⟨⟩
    trivial
  operand w hw := by
    rw [hs.source_id]
    exact hw.affinity

theorem Index.Shaped.holds_value (hs : Shaped s ix t) (hrow : row.cells = entry s ix record)
    {c : IndexColumn} (hc : c ∈ ix.valueColumns) {a : Attribute}
    (ha : s.attribute? c.name = some a) (hv : boundValue? s record.record c = some v) :
    ColumnHolds t row (columnName c.name) a.type.columnType v where
  cell := by rw [(hs.entry_cells hrow).2.1 c hc, fieldCell, boundValue_of_eq_some hv]
  fits := by
    obtain ⟨b, f, hb, -, hbind⟩ := boundValue?_eq_some.1 hv
    obtain rfl := Option.some.inj (ha.symm.trans hb)
    exact coerce_fits hbind
  operand w hw := by
    obtain ⟨before, after, hsplit⟩ := List.append_of_mem hc
    have htype : (valueSpec s c).type = a.type.columnType := by
      simp [valueSpec, ColumnSpec.plain, ha]
    rw [hs.source_value hsplit, htype]
    exact hw.affinity

theorem Index.Shaped.holds_quarantined (hs : Shaped s ix t)
    (hrow : row.cells = entry s ix record) :
    ColumnHolds t row quarantinedColumn .character
      (.ofText (quarantineFlag (record.state == .quarantined))) where
  cell := (hs.entry_cells hrow).2.2
  fits := by
    rintro x ⟨⟩
    trivial
  operand w hw := by
    rw [hs.source_quarantined]
    exact hw.affinity

/-- The filter of a query lets a row pass unless it is that of a quarantined record. -/
theorem meets_quarantineFilter (hs : Shaped s ix t) (hrow : row.cells = entry s ix record)
    (includeQuarantined : Bool) :
    (Query.quarantineFilter includeQuarantined).all (t.meets row) = true ↔
      (includeQuarantined = true ∨ record.state ≠ .quarantined) := by
  cases includeQuarantined with
  | true => simp [Query.quarantineFilter]
  | false =>
    have hmeets := (hs.holds_quarantined hrow).meets_compare (o := .eq) rfl (w := .ofText flagNo)
      (by rintro x ⟨⟩; trivial)
    simp only [Query.quarantineFilter, Bool.false_eq_true, if_false, List.all_cons, List.all_nil,
      Bool.and_true, false_or]
    rw [hmeets]
    cases hq : record.state == .quarantined <;>
      simp_all [Value.ofText, Value.datum?, Operator.Relates, quarantineFlag, flagNo, flagYes]

/-! ### Compiled conditions -/

/-- What a record has under a column, the record number included. -/
def columnDatum (s : Schema) (record : RecordRow) (c : IndexColumn) : Option Datum :=
  if c.isId then some (.number record.id.toInt) else fieldDatum s record.record c

/-- What a scalar stands for under a column. -/
def columnReading (typeName : String) (s : Schema) (c : IndexColumn) : FieldValue → Option Datum :=
  if c.isId then numberDatum typeName else scalarDatum s c

theorem bindId_eq_ok {f : FieldValue} {b : Value} (h : bindId typeName f = .ok b) :
    b.Fits .bigInt ∧ b.datum? = numberDatum typeName f := by
  unfold bindId at h
  split at h
  · next n hn =>
    obtain ⟨id, hid, hstored⟩ := Option.bind_eq_some_iff.1 hn
    obtain rfl := Except.ok.inj h
    refine ⟨by rintro x ⟨⟩; trivial, ?_⟩
    simp only [numberDatum, hid, Option.map_some, Value.ofInt, Value.datum?,
      (storedId?_eq_some hstored).2.1]
  · cases h

theorem bindTerm_eq_ok {c : IndexColumn} {field : String} {f : FieldValue} {b : Value}
    (h : Query.bindTerm typeName s c field f = .ok b) :
    b.datum? = columnReading typeName s c f ∧
      (c.isId = true → b.Fits .bigInt) ∧
      (c.isId = false → ∀ a, s.attribute? c.name = some a → b.Fits a.type.columnType) := by
  unfold Query.bindTerm at h
  unfold columnReading
  cases hid : c.isId with
  | true =>
    simp only [hid, if_true] at h ⊢
    split at h
    · next w hw =>
      obtain rfl := Except.ok.inj h
      obtain ⟨hfits, hdatum⟩ := bindId_eq_ok hw
      exact ⟨hdatum, fun _ => hfits, nofun⟩
    · cases h
  | false =>
    simp only [hid, Bool.false_eq_true, if_false] at h ⊢
    obtain ⟨a, ha, h⟩ := bind_eq_ok.1 h
    split at h
    · next w hw =>
      obtain rfl := Except.ok.inj h
      have ha' : s.attribute? c.name = some a := by
        unfold Schema.requireAttribute at ha
        split at ha
        · next a' ha' => rw [ha', Except.ok.inj ha]
        · cases ha
      refine ⟨by simp [scalarDatum, ha', hw, Except.toOption], nofun, fun _ a' h' => ?_⟩
      obtain rfl := Option.some.inj (ha'.symm.trans h')
      exact coerce_fits hw
    · cases h

theorem mem_conditionColumns {c : IndexColumn} :
    c ∈ Query.conditionColumns ix → c.isId = true ∨ c ∈ ix.valueColumns := by
  have hdeclared (h : c ∈ ix.columns) : c.isId = true ∨ c ∈ ix.valueColumns := by
    cases hid : c.isId with
    | true => exact .inl rfl
    | false => exact .inr (List.mem_filter.2 ⟨h, by rw [hid]; rfl⟩)
  unfold Query.conditionColumns
  split
  · intro h
    rcases List.mem_append.1 h with h | h
    · exact hdeclared h
    · obtain rfl := List.mem_singleton.1 h
      exact .inl rfl
  · exact hdeclared

/-- The column that a condition is about, and how it is compared. -/
theorem holds_physicalColumn (typeName : String) (hs : Shaped s ix t) (hrow : row.cells = entry s ix record)
    (hbound : Bound s ix record.record) {c : IndexColumn} (hc : c ∈ Query.conditionColumns ix) :
    ∃ type v, ColumnHolds t row (Query.physicalColumn c) type v ∧
      v.datum? = columnDatum s record c ∧
      ∀ field f b, Query.bindTerm typeName s c field f = .ok b → b.Fits type := by
  unfold Query.physicalColumn columnDatum
  rcases mem_conditionColumns hc with hid | hvalue
  · rw [if_pos hid, if_pos hid]
    exact ⟨.bigInt, .ofInt record.id, hs.holds_id hrow, rfl,
      fun field f b hb => (bindTerm_eq_ok hb).2.1 hid⟩
  · have hid : c.isId = false := by simpa using (List.mem_filter.1 hvalue).2
    obtain ⟨v, hv⟩ := Option.isSome_iff_exists.1 (hbound c hvalue)
    obtain ⟨a, f, ha, -, -⟩ := boundValue?_eq_some.1 hv
    rw [if_neg (by simp [hid]), if_neg (by simp [hid])]
    refine ⟨a.type.columnType, v, hs.holds_value hrow hvalue ha hv, ?_, fun field f b hb => ?_⟩
    · simp [fieldDatum, hv]
    · exact (bindTerm_eq_ok hb).2.2 hid a ha

/-- The values of a list stand for the same data as its scalars. -/
theorem map_datum?_of_bound {c : IndexColumn} {field : String} {fs : List FieldValue}
    {ws : List Value} (h : fs.mapM (Query.bindTerm typeName s c field) = .ok ws) :
    ws.map Value.datum? = fs.map (columnReading typeName s c) := by
  have hall := mapM_eq_ok.1 h
  clear h
  induction hall with
  | nil => rfl
  | cons hf _ ih => rw [List.map_cons, List.map_cons, ih, (bindTerm_eq_ok hf).1]

theorem fits_of_bound {c : IndexColumn} {field : String} {fs : List FieldValue} {ws : List Value}
    (h : fs.mapM (Query.bindTerm typeName s c field) = .ok ws)
    (hfits : ∀ f b, Query.bindTerm typeName s c field f = .ok b → b.Fits type) :
    ∀ w ∈ ws, w.Fits type := by
  have hall := mapM_eq_ok.1 h
  clear h
  induction hall with
  | nil => simp
  | cons hf _ ih =>
    intro w hw
    rcases List.mem_cons.1 hw with rfl | hw
    · exact hfits _ _ hf
    · exact ih w hw

/-- The condition of a scalar that is not null is a comparison with the value it stands for. -/
theorem condition_of_scalar {c : IndexColumn} {field : String} {f : FieldValue} (hf : f ≠ .null)
    {o : Operator} {op : Comparison} (ho : Query.comparison? o = some op) {condition : Condition}
    (h : Query.condition typeName s c ⟨field, o, .scalar f⟩ = .ok condition) :
    ∃ b, Query.bindTerm typeName s c field f = .ok b ∧
      condition = .compare (Query.physicalColumn c) op b := by
  simp only [Query.condition, ho] at h
  split at h
  · next hop _ => cases hop
  · next hop _ => cases hop
  · next hlist => cases hlist
  · next hnull => exact absurd (Operand.scalar.inj hnull) hf
  · next hnull => exact absurd (Operand.scalar.inj hnull) hf
  · next hnull => exact absurd (Operand.scalar.inj hnull) hf
  · next hop hscalar =>
    obtain rfl := Option.some.inj hop
    obtain rfl := Operand.scalar.inj hscalar
    obtain ⟨b, hb, h⟩ := bind_eq_ok.1 h
    exact ⟨b, hb, (Except.ok.inj h).symm⟩

theorem meets_scalar (hholds : ColumnHolds t row column type v) {c : IndexColumn}
    {field : String} {f : FieldValue} {b : Value}
    (hb : Query.bindTerm typeName s c field f = .ok b) (hfits : b.Fits type) {o : Operator}
    {op : Comparison} (ho : Query.comparison? o = some op) :
    t.meets row (.compare column op b) = true ↔
      ∃ x ∈ v.datum?, ∃ y ∈ columnReading typeName s c f, o.Relates x y := by
  rw [hholds.meets_compare ho hfits, (bindTerm_eq_ok hb).1]

/-- A row of a record meets the condition of a term when the record has what the term asks for. -/
theorem meets_condition (hs : Shaped s ix t) (hrow : row.cells = entry s ix record)
    (hbound : Bound s ix record.record) {c : IndexColumn} (hc : c ∈ Query.conditionColumns ix)
    {term : Term} {condition : Condition}
    (h : Query.condition typeName s c term = .ok condition) :
    t.meets row condition = true ↔
      term.Asks (columnDatum s record c) (columnReading typeName s c) := by
  obtain ⟨type, v, hholds, hdatum, hfits⟩ :=
    holds_physicalColumn typeName hs hrow hbound hc
  obtain ⟨field, operator, operand⟩ := term
  rw [← hdatum]
  cases operand with
  | list fs =>
    cases operator with
    | within =>
      simp only [Query.condition, Query.comparison?] at h
      split at h
      · cases h
      · obtain ⟨ws, hws, h⟩ := bind_eq_ok.1 h
        obtain rfl := Except.ok.inj h
        have hmem (x : Datum) : (∃ w ∈ ws, w.datum? = some x) ↔
            ∃ f ∈ fs, columnReading typeName s c f = some x := by
          rw [← List.mem_map, map_datum?_of_bound hws, List.mem_map]
        rw [hholds.meets_within (fits_of_bound hws (hfits field))]
        simp only [hmem, Term.Asks, true_and]
    | _ => cases h
  | scalar f =>
    cases hf : f.isNull with
    | true =>
      have hnull : f = .null := by cases f <;> first | rfl | cases hf
      subst hnull
      obtain ⟨hisNull, hisNotNull⟩ := hholds.meets_isNull
      cases operator with
      | eq =>
        obtain rfl := Except.ok.inj h
        simp [hisNull, Term.Asks]
      | ne =>
        obtain rfl := Except.ok.inj h
        simp [hisNotNull, Term.Asks]
      | _ => cases h
    | false =>
      have hne : f ≠ .null := by rintro rfl; cases hf
      cases ho : Query.comparison? operator with
      | none =>
        simp only [Query.condition, ho] at h
        cases h
      | some op =>
        obtain ⟨b, hb, rfl⟩ := condition_of_scalar hne ho h
        rw [meets_scalar hholds hb (hfits field f b hb) ho, Term.Asks]
        simp only [hne, if_false]

/-! ### All terms of a query -/

theorem mem_termPairs {terms : List Term} {c : IndexColumn} {term : Term} :
    (c, term) ∈ (Query.conditionColumns ix).flatMap
        (fun c => (Query.termsFor terms c.name).map (c, ·)) ↔
      c ∈ Query.conditionColumns ix ∧ term ∈ terms ∧ term.field = c.name := by
  simp only [List.mem_flatMap, List.mem_map, Query.termsFor, List.mem_filter, beq_iff_eq]
  constructor
  · rintro ⟨d, hd, u, ⟨hu, hfield⟩, he⟩
    obtain ⟨rfl, rfl⟩ := Prod.mk.inj he
    exact ⟨hd, hu, hfield⟩
  · rintro ⟨hc, hterm, hfield⟩
    exact ⟨c, hc, term, ⟨hterm, hfield⟩, rfl⟩

/-- A condition about the record number is compiled whether the index declares it or not. -/
theorem exists_idColumn (ix : IndexDefinition) :
    ∃ c ∈ Query.conditionColumns ix, c.name = idAttribute := by
  unfold Query.conditionColumns
  split
  · exact ⟨.id, by simp, rfl⟩
  · next h =>
    obtain ⟨c, hc⟩ := Option.ne_none_iff_exists'.1 (by simpa using h)
    exact ⟨c, List.mem_of_find?_eq_some hc, by simpa using List.find?_some hc⟩

theorem mem_conditionColumns_of_mem {c : IndexColumn} (hc : c ∈ ix.columns) :
    c ∈ Query.conditionColumns ix := by
  unfold Query.conditionColumns
  split
  · exact List.mem_append_left _ hc
  · exact hc

theorem asks_idColumn_iff {c : IndexColumn} (hc : c.name = idAttribute) {term : Term} :
    term.Asks (columnDatum s record c) (columnReading typeName s c) ↔
      term.Asks (some (.number record.id.toInt)) (numberDatum typeName) := by
  have hid : c.isId = true := by simp [IndexColumn.isId, hc]
  rw [columnDatum, columnReading, if_pos hid, if_pos hid]

theorem asks_valueColumn_iff {c : IndexColumn} (hc : c ∈ ix.valueColumns) {term : Term} :
    term.Asks (columnDatum s record c) (columnReading typeName s c) ↔
      term.Asks (fieldDatum s record.record c) (scalarDatum s c) := by
  have hid : ¬ c.isId = true := by simpa using (List.mem_filter.1 hc).2
  rw [columnDatum, columnReading, if_neg hid, if_neg hid]

/-- A term that is not stray is about one column of the index. -/
theorem satisfied_iff (hn : (ix.columns.map (·.name)).Nodup) {terms : List Term}
    (hstray : Query.strayTerm? ix terms = none) {term : Term} (hterm : term ∈ terms) :
    term.Satisfied typeName s ix record ↔
      ∀ c ∈ Query.conditionColumns ix, term.field = c.name →
        term.Asks (columnDatum s record c) (columnReading typeName s c) := by
  unfold Term.Satisfied
  by_cases hfield : term.field = idAttribute
  · rw [if_pos hfield]
    constructor
    · intro h c _ hname
      exact (asks_idColumn_iff (hname.symm.trans hfield)).2 h
    · intro h
      obtain ⟨c, hc, hname⟩ := exists_idColumn ix
      exact (asks_idColumn_iff hname).1 (h c hc (hfield.trans hname.symm))
  · rw [if_neg hfield]
    constructor
    · rintro ⟨d, hd, hname, h⟩ c hc hname'
      have hvalue : c ∈ ix.valueColumns := by
        rcases mem_conditionColumns hc with hid | hvalue
        · exact absurd (hname'.trans (by simpa [IndexColumn.isId] using hid)) hfield
        · exact hvalue
      obtain rfl : d = c := List.inj_on_of_nodup_map hn (List.mem_of_mem_filter hd)
        (List.mem_of_mem_filter hvalue) (hname.trans hname')
      exact (asks_valueColumn_iff hd).2 h
    · intro h
      have hcolumn : ix.column? term.field ≠ none := by
        have := List.find?_eq_none.1 hstray term hterm
        simpa [hfield] using this
      obtain ⟨c, hfind⟩ := Option.ne_none_iff_exists'.1 hcolumn
      have hname : c.name = term.field := by simpa using List.find?_some hfind
      have hmem : c ∈ ix.columns := List.mem_of_find?_eq_some hfind
      have hvalue : c ∈ ix.valueColumns :=
        List.mem_filter.2 ⟨hmem, by simpa [IndexColumn.isId, hname] using hfield⟩
      have hasks := h c (mem_conditionColumns_of_mem hmem) hname.symm
      exact ⟨c, hvalue, hname, (asks_valueColumn_iff hvalue).1 hasks⟩

/-- The row of a record meets the compiled conditions when the record satisfies all terms. -/
theorem meets_conditions (hs : Shaped s ix t) (hrow : row.cells = entry s ix record)
    (hbound : Bound s ix record.record) (hn : (ix.columns.map (·.name)).Nodup) {names : Names}
    {q : Query} (hstray : Query.strayTerm? ix q.terms = none) {cs : List Condition}
    (h : q.conditions ⟨typeName, s, ix, names⟩ = .ok cs) :
    cs.all (t.meets row) = true ↔ ∀ term ∈ q.terms, term.Satisfied typeName s ix record := by
  have hpairs := forall_mem_iff_of_forall₂ (mapM_eq_ok.1 h)
    (P := fun p => p.2.Asks (columnDatum s record p.1) (columnReading typeName s p.1))
    (Q := fun c => t.meets row c = true) fun p hp c hc => by
      obtain ⟨hcolumn, -, -⟩ := mem_termPairs.1 hp
      exact (meets_condition hs hrow hbound hcolumn hc).symm
  rw [List.all_eq_true, ← hpairs]
  constructor
  · intro hall term hterm
    refine (satisfied_iff hn hstray hterm).2 fun c hc hfield => ?_
    exact hall (c, term) (mem_termPairs.2 ⟨hc, hterm, hfield⟩)
  · rintro hall ⟨c, term⟩ hp
    obtain ⟨hc, hterm, hfield⟩ := mem_termPairs.1 hp
    exact (satisfied_iff hn hstray hterm).1 (hall term hterm) c hc hfield

end

end RecordStore
