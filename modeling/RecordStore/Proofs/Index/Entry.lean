import Mathlib
import RecordStore.Store.Transaction
import RecordStore.Proofs.Outcome
import RecordStore.Proofs.Json.RoundTrip
import RecordStore.Proofs.Schema.Sound

/-!
The row that a record has in an index table, and the statements that write it.  The row is a function
of the stored record alone: its number, the value of each column and the quarantine flag.
-/
namespace RecordStore

theorem isNull_apply (t : Transform) (f : FieldValue) : (t.apply f).isNull = f.isNull := by
  cases f <;> rfl

namespace Index
open Sql Database

/-! ### Values of columns -/

/-- The scalar of a member; a missing one counts as null. -/
def fieldScalar? (name : String) (r : Record) : Option FieldValue :=
  match Json.member? name r with
  | none => some .null
  | some v => FieldValue.ofJson? v

/-- The value that a record has in a column, unless its member does not fit. -/
def boundValue? (s : Schema) (r : Record) (c : IndexColumn) : Option Value :=
  (s.attribute? c.name).bind fun a =>
    (fieldScalar? c.name r).bind fun f => (bindColumn a c f).toOption

/-- Whether a record has a value in every column of an index. -/
def Bound (s : Schema) (ix : IndexDefinition) (r : Record) : Prop :=
  ∀ c ∈ ix.valueColumns, (boundValue? s r c).isSome = true

instance (s : Schema) (ix : IndexDefinition) (r : Record) : Decidable (Bound s ix r) :=
  inferInstanceAs (Decidable (∀ c ∈ ix.valueColumns, (boundValue? s r c).isSome = true))

/-- The value that a record has in a column, or some null. -/
def boundValue (s : Schema) (r : Record) (c : IndexColumn) : Value :=
  (boundValue? s r c).getD (.bool none)

/-- The cell that a record has in a column. -/
def fieldCell (s : Schema) (r : Record) (c : IndexColumn) : Cell :=
  Cell.ofValue (boundValue s r c)

theorem boundValue?_eq_some {s : Schema} {r : Record} {c : IndexColumn} {v : Value} :
    boundValue? s r c = some v ↔ ∃ a f, s.attribute? c.name = some a ∧
      fieldScalar? c.name r = some f ∧ bindColumn a c f = .ok v := by
  simp only [boundValue?, Option.bind_eq_some_iff]
  constructor
  · rintro ⟨a, ha, f, hf, hv⟩
    refine ⟨a, f, ha, hf, ?_⟩
    cases hb : bindColumn a c f with
    | error e => rw [hb] at hv; cases hv
    | ok w => rw [hb] at hv; rw [Option.some.inj hv]
  · rintro ⟨a, f, ha, hf, hv⟩
    exact ⟨a, ha, f, hf, by rw [hv]; rfl⟩

theorem boundValue_of_eq_some {s : Schema} {r : Record} {c : IndexColumn} {v : Value}
    (h : boundValue? s r c = some v) : boundValue s r c = v := by
  simp [boundValue, h]

theorem columnValue_eq_ok {t : Target} {r : Record} {c : IndexColumn} {p : String × Value} :
    columnValue t r c = .ok p ↔
      ∃ v, boundValue? t.schema r c = some v ∧ p = (columnName c.name, v) := by
  have hscalar : ∀ f, columnScalar t c r = .ok f ↔ fieldScalar? c.name r = some f := by
    intro f
    unfold columnScalar fieldScalar?
    cases Json.member? c.name r with
    | none => simp
    | some v =>
      simp only
      cases FieldValue.ofJson? v <;> simp
  have hattribute : ∀ a, t.schema.requireAttribute c.name = .ok a ↔
      t.schema.attribute? c.name = some a := by
    intro a
    unfold Schema.requireAttribute
    cases t.schema.attribute? c.name <;> simp
  unfold columnValue
  rw [bind_eq_ok]
  constructor
  · rintro ⟨a, ha, h⟩
    obtain ⟨f, hf, h⟩ := bind_eq_ok.1 h
    split at h
    · next v hv =>
      exact ⟨v, boundValue?_eq_some.2 ⟨a, f, (hattribute a).1 ha, (hscalar f).1 hf, hv⟩,
        (Except.ok.inj h).symm⟩
    · cases h
  · rintro ⟨v, hv, rfl⟩
    obtain ⟨a, f, ha, hf, hb⟩ := boundValue?_eq_some.1 hv
    refine ⟨a, (hattribute a).2 ha, bind_eq_ok.2 ⟨f, (hscalar f).2 hf, ?_⟩⟩
    rw [hb]
    rfl

/-- The columns and values of a record that has them all. -/
def assignments (s : Schema) (ix : IndexDefinition) (r : Record) : List (String × Value) :=
  ix.valueColumns.map fun c => (columnName c.name, boundValue s r c)

theorem rowValues_eq_ok {t : Target} {r : Record} {row : List (String × Value)} :
    rowValues t r = .ok row ↔ Bound t.schema t.index r ∧ row = assignments t.schema t.index r := by
  unfold rowValues Bound assignments
  rw [mapM_eq_ok]
  generalize t.index.valueColumns = cs
  induction cs generalizing row with
  | nil =>
    constructor
    · intro h
      cases h
      exact ⟨by simp, rfl⟩
    · rintro ⟨-, rfl⟩
      exact .nil
  | cons c cs ih =>
    constructor
    · intro h
      cases h with
      | cons hc hcs =>
        obtain ⟨v, hv, rfl⟩ := columnValue_eq_ok.1 hc
        obtain ⟨hbound, rfl⟩ := ih.1 hcs
        refine ⟨?_, by rw [List.map_cons, boundValue_of_eq_some hv]⟩
        intro d hd
        rcases List.mem_cons.1 hd with rfl | hd
        · rw [hv]; rfl
        · exact hbound d hd
    · rintro ⟨hbound, rfl⟩
      obtain ⟨v, hv⟩ := Option.isSome_iff_exists.1 (hbound c (by simp))
      refine .cons (columnValue_eq_ok.2 ⟨v, hv, by simp only [boundValue_of_eq_some hv]⟩) ?_
      exact ih.2 ⟨fun d hd => hbound d (by simp [hd]), rfl⟩

theorem idValue_eq_ok {id : UInt64} {v : Value} :
    idValue id = .ok v ↔ ∃ n, storedId? id = some n ∧ v = .ofInt n := by
  unfold idValue
  cases storedId? id with
  | none => simp
  | some n => simp [eq_comm]

theorem storedId?_eq_some {id : UInt64} {n : Int64} (h : storedId? id = some n) :
    0 ≤ n.toInt ∧ n.toInt = id.toNat ∧ id = UInt64.ofNat n.toInt.toNat := by
  unfold storedId? at h
  split at h
  · next hlt =>
    obtain rfl := Option.some.inj h
    have htoInt : (Int64.ofInt id.toNat).toInt = id.toNat :=
      Int64.toInt_ofInt_of_le (by omega) (by omega)
    refine ⟨by omega, htoInt, ?_⟩
    rw [htoInt, Int.toNat_natCast, UInt64.ofNat_toNat]
  · cases h

/-- A number that is not negative is stored as itself. -/
theorem storedId?_ofNat {m : Int64} (h : 0 ≤ m.toInt) :
    storedId? (UInt64.ofNat m.toInt.toNat) = some m := by
  have hle : m.toInt ≤ 0x7fffffffffffffff := m.toInt_le
  have hsmall : m.toInt.toNat < 2 ^ 64 := by omega
  have hto : (UInt64.ofNat m.toInt.toNat).toNat = m.toInt.toNat :=
    UInt64.toNat_ofNat_of_lt' hsmall
  have hlt : m.toInt.toNat < 0x8000000000000000 := by omega
  rw [storedId?, hto, if_pos hlt, Int.toNat_of_nonneg h, Int64.ofInt_toInt]

theorem zip_fst_snd (row : List (String × Value)) : (row.map (·.1)).zip (row.map (·.2)) = row := by
  induction row with
  | nil => rfl
  | cons p row ih => simp only [List.map_cons, List.zip_cons_cons, ih]

/-! ### Statements on the row of a record -/

theorem insertRow_eq {t : Target} {id : UInt64} {r : Record} {q : Insert}
    (h : insertRow t id r = .ok q) :
    ∃ n, storedId? id = some n ∧ Bound t.schema t.index r ∧ q = ⟨t.names.table,
      idColumn :: (assignments t.schema t.index r).map (·.1) ++ [quarantinedColumn],
      .ofInt n :: (assignments t.schema t.index r).map (·.2) ++ [.ofText flagNo]⟩ := by
  obtain ⟨v, hv, k₁⟩ := bind_eq_ok.1 h
  obtain ⟨n, hn, rfl⟩ := idValue_eq_ok.1 hv
  obtain ⟨row, hrow, k₂⟩ := bind_eq_ok.1 k₁
  obtain ⟨hbound, rfl⟩ := rowValues_eq_ok.1 hrow
  unfold insertInto at k₂
  split at k₂
  · exact ⟨n, hn, hbound, (Except.ok.inj k₂).symm⟩
  · cases k₂

theorem insertRow_eq_ok {t : Target} {id : UInt64} {r : Record} {q : Insert}
    (h : insertRow t id r = .ok q) :
    ∃ n, storedId? id = some n ∧ Bound t.schema t.index r ∧ q.table = t.names.table ∧
      q.columns.zip q.values = (idColumn, .ofInt n) :: assignments t.schema t.index r ++
        [(quarantinedColumn, .ofText flagNo)] := by
  obtain ⟨n, hn, hbound, rfl⟩ := insertRow_eq h
  refine ⟨n, hn, hbound, rfl, ?_⟩
  simp only [List.cons_append, List.zip_cons_cons]
  rw [List.zip_append (by simp), zip_fst_snd]
  rfl

theorem updateRow_eq_ok {t : Target} {id : UInt64} {r : Record} {q : Update}
    (h : updateRow t id r = .ok q) :
    ∃ n, storedId? id = some n ∧ Bound t.schema t.index r ∧
      q = ⟨t.names.table, assignments t.schema t.index r, idCondition (.ofInt n)⟩ := by
  obtain ⟨row, hrow, k₁⟩ := bind_eq_ok.1 h
  obtain ⟨hbound, rfl⟩ := rowValues_eq_ok.1 hrow
  obtain ⟨v, hv, k₂⟩ := bind_eq_ok.1 k₁
  obtain ⟨n, hn, rfl⟩ := idValue_eq_ok.1 hv
  exact ⟨n, hn, hbound, (Except.ok.inj k₂).symm⟩

theorem deleteRow_eq_ok {t : Target} {id : UInt64} {q : Delete} (h : deleteRow t id = .ok q) :
    ∃ n, storedId? id = some n ∧ q = ⟨t.names.table, idCondition (.ofInt n)⟩ := by
  obtain ⟨v, hv, k⟩ := bind_eq_ok.1 h
  obtain ⟨n, hn, rfl⟩ := idValue_eq_ok.1 hv
  exact ⟨n, hn, (Except.ok.inj k).symm⟩

theorem flagRow_eq_ok {t : Target} {id : UInt64} {quarantined : Bool} {q : Update}
    (h : flagRow t id quarantined = .ok q) :
    ∃ n, storedId? id = some n ∧ q = ⟨t.names.table,
      [(quarantinedColumn, .ofText (quarantineFlag quarantined))], idCondition (.ofInt n)⟩ := by
  obtain ⟨v, hv, k⟩ := bind_eq_ok.1 h
  obtain ⟨n, hn, rfl⟩ := idValue_eq_ok.1 hv
  exact ⟨n, hn, (Except.ok.inj k).symm⟩

/-! ### Tables and index objects -/

/-- The specification of the column of an attribute. -/
def valueSpec (s : Schema) (c : IndexColumn) : ColumnSpec :=
  .plain (columnName c.name) (((s.attribute? c.name).map (·.type.columnType)).getD .text)

/-- The columns of the table of an index. -/
def columnSpecs (s : Schema) (ix : IndexDefinition) : List ColumnSpec :=
  idSpec :: (ix.valueColumns.map (valueSpec s) ++ [quarantinedSpec])

theorem columnSpecs_names (s : Schema) (ix : IndexDefinition) :
    (columnSpecs s ix).map (·.name) =
      idColumn :: (ix.valueColumns.map (fun c => columnName c.name) ++ [quarantinedColumn]) := by
  simp [columnSpecs, idSpec, quarantinedSpec, valueSpec, ColumnSpec.plain, Function.comp_def]

theorem createTable_eq_ok {names : Names} {ix : IndexDefinition} {s : Schema} {d : CreateTable}
    (h : createTable names ix s = .ok d) : d = ⟨names.table, columnSpecs s ix, []⟩ := by
  obtain ⟨specs, hspecs, k⟩ := bind_eq_ok.1 h
  obtain rfl := Except.ok.inj k
  rw [eq_map_of_mapM_eq_ok hspecs (g := valueSpec s)]
  · rfl
  · intro c spec hc
    obtain ⟨a, ha, hc⟩ := bind_eq_ok.1 hc
    obtain rfl := Except.ok.inj hc
    unfold Schema.requireAttribute at ha
    cases hfind : s.attribute? c.name with
    | none => rw [hfind] at ha; cases ha
    | some b =>
      rw [hfind] at ha
      obtain rfl := Except.ok.inj ha
      simp [valueSpec, hfind]

/-- The columns of the index object of an index. -/
def indexKeys (ix : IndexDefinition) : List SortKey :=
  let keys := ix.valueColumns.map fun c => ⟨columnName c.name, c.direction⟩
  if ix.unique then keys else keys ++ [⟨idColumn, idDirection ix⟩]

theorem createIndex_eq_ok {names : Names} {ix : IndexDefinition} {s : Schema} {o : CreateIndex}
    (h : createIndex names ix s = .ok o) : o = ⟨names.index, names.table, ix.unique, indexKeys ix⟩ := by
  obtain ⟨keys, hkeys, k⟩ := bind_eq_ok.1 h
  obtain rfl := Except.ok.inj k
  rw [eq_map_of_mapM_eq_ok hkeys (g := fun c => ⟨columnName c.name, c.direction⟩)]
  · rfl
  · intro c key hc
    obtain ⟨a, -, hc⟩ := bind_eq_ok.1 hc
    exact (Except.ok.inj hc).symm

/-! ### The row of a stored record -/

end Index

/-- The object that the text of a stored record denotes, however deep it nests. -/
def RecordRow.record (row : RecordRow) : Record :=
  ((Json.denoted? row.text).bind Json.record?).getD []

namespace Index
open Sql Database

/-- The cells of a record in the table of an index. -/
def entry (s : Schema) (ix : IndexDefinition) (row : RecordRow) : List Cell :=
  .integer row.id :: (ix.valueColumns.map (fieldCell s row.record) ++
    [.text (quarantineFlag (row.state == .quarantined))])

/-- Reading a written record gives the same scalars. -/
theorem ofJson?_reread (v : Json) : FieldValue.ofJson? v.reread = FieldValue.ofJson? v := by
  cases v <;> rfl

/-- Whether two records have the same scalars, so that no column can tell them apart. -/
def SameFields (r r' : Record) : Prop :=
  ∀ name, fieldScalar? name r = fieldScalar? name r'

theorem sameFields_reread (r : Record) : SameFields (Json.rereadMembers r) r := by
  intro name
  unfold fieldScalar?
  rw [Json.member?_rereadMembers]
  cases Json.member? name r with
  | none => rfl
  | some v => exact ofJson?_reread v

namespace SameFields
variable {r r' : Record} (h : SameFields r r')
include h

theorem boundValue? (s : Schema) (c : IndexColumn) :
    Index.boundValue? s r c = Index.boundValue? s r' c := by
  simp only [Index.boundValue?, h c.name]

theorem fieldCell (s : Schema) : Index.fieldCell s r = Index.fieldCell s r' := by
  funext c
  simp only [Index.fieldCell, boundValue, h.boundValue? s c]

theorem bound (s : Schema) (ix : IndexDefinition) : Bound s ix r ↔ Bound s ix r' := by
  simp only [Bound, h.boundValue? s]

end SameFields

end Index

/-- Whether a value fits an attribute does not depend on the last bit of a double. -/
theorem Attribute.fieldFault?_reread (a : Attribute) (v : Option Json) :
    a.fieldFault? (v.map Json.reread) = a.fieldFault? v := by
  cases v with
  | none => rfl
  | some v =>
    have hvalue : a.valueFault? v.reread = a.valueFault? v := by
      unfold valueFault?
      cases v <;> cases a.type <;> rfl
    cases v with
    | null => rfl
    | _ => exact hvalue

theorem Schema.recordFault?_reread (s : Schema) (r : Record) :
    s.recordFault? (Json.rereadMembers r) = s.recordFault? r := by
  unfold recordFault?
  congr 1
  funext a
  rw [Json.member?_rereadMembers, Attribute.fieldFault?_reread]

/-- The record of a row is the one that was stored, read back. -/
theorem RecordRow.record_of_text {row : RecordRow} {r : Record}
    (hr : (Json.object r).WellFormed) (h : row.text = (Json.object r).text) :
    row.record = Json.rereadMembers r := by
  unfold record
  rw [h, Json.denoted?_text hr]
  rfl

theorem storedRecord_eq_ok {row : RecordRow} {r r' : Record} (hr : (Json.object r).WellFormed)
    (h : row.text = (Json.object r).text) (hs : storedRecord row.text = .ok r') :
    r' = row.record := by
  rw [row.record_of_text hr h]
  unfold storedRecord at hs
  split at hs
  · cases hs
  · next v hv =>
    rw [h] at hv
    rw [Json.eq_reread_of_parse? hr hv] at hs
    exact (Except.ok.inj hs).symm

theorem storedRecord_of_depth {row : RecordRow} {r : Record} (hr : (Json.object r).WellFormed)
    (hd : (Json.object r).depth ≤ Json.maxDepth) (h : row.text = (Json.object r).text) :
    storedRecord row.text = .ok row.record := by
  rw [row.record_of_text hr h]
  unfold storedRecord
  rw [h, Json.parse?_text hr hd]
  rfl

end RecordStore
