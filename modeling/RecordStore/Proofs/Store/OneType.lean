import Mathlib
import RecordStore.Proofs.Store.Counted

/-!
What a transaction for one type leaves alone: the schemas and records of other types, and the tables and
index objects whose names do not have its number.
-/
namespace RecordStore
open Database Transaction Sql Index

attribute [local irreducible] tableName indexName

/-- Whether a name is that of no index table of a type. -/
def Outside (stem : String) (n : UInt32) (x : String) : Prop :=
  ∀ index, sameName (tableName stem n index) x = false

/-- The tables of other types have other names, whatever the hashes of index names are. -/
theorem outside_tableName (stem : String) {n m : UInt32} (h : m ≠ n) (index : String) :
    Outside stem n (tableName stem m index) :=
  fun other => sameName_tableName_of_type_ne h.symm other index

/-- Nothing but index tables and index objects of one type differs. -/
structure TablesWithin (stem : String) (n : UInt32) (db db' : Database) : Prop
    extends OnlyTables db db' where
  table : ∀ x, Outside stem n x → db'.table? x = db.table? x
  objects : ∀ x, Outside stem n x → db'.indexesOf x = db.indexesOf x

theorem composes_tablesWithin (stem : String) (n : UInt32) : Composes (TablesWithin stem n) where
  refl db := ⟨composes_onlyTables.refl db, fun _ _ => rfl, fun _ _ => rfl⟩
  trans h h' := ⟨composes_onlyTables.trans h.toOnlyTables h'.toOnlyTables,
    fun x hx => (h'.table x hx).trans (h.table x hx),
    fun x hx => (h'.objects x hx).trans (h.objects x hx)⟩

/-- Nothing but what belongs to one type differs. -/
structure WithinType (stem : String) (n : UInt32) (T : String) (db db' : Database) : Prop where
  types : db'.types = db.types
  schemas : ∀ T', T' ≠ T →
    db'.schemas.filter (·.typeName == T') = db.schemas.filter (·.typeName == T')
  records : ∀ w, w ≠ typeWord n →
    db'.records.filter (·.typeId == w) = db.records.filter (·.typeId == w)
  table : ∀ x, Outside stem n x → db'.table? x = db.table? x
  objects : ∀ x, Outside stem n x → db'.indexesOf x = db.indexesOf x

section
variable {stem : String} {n : UInt32} {T : String} {db db' : Database}

theorem composes_withinType : Composes (WithinType stem n T) where
  refl _ := ⟨rfl, fun _ _ => rfl, fun _ _ => rfl, fun _ _ => rfl, fun _ _ => rfl⟩
  trans h h' := ⟨h'.types.trans h.types, fun U hU => (h'.schemas U hU).trans (h.schemas U hU),
    fun w hw => (h'.records w hw).trans (h.records w hw),
    fun x hx => (h'.table x hx).trans (h.table x hx),
    fun x hx => (h'.objects x hx).trans (h.objects x hx)⟩

theorem TablesWithin.withinType (h : TablesWithin stem n db db') : WithinType stem n T db db' :=
  ⟨h.types, fun _ _ => by rw [h.schemas], fun _ _ => by rw [h.records], h.table, h.objects⟩

theorem withinType_of_records {records : List RecordRow} (hrecords : ∀ w, w ≠ typeWord n →
      records.filter (·.typeId == w) = db.records.filter (·.typeId == w)) :
    WithinType stem n T db { db with records := records } :=
  ⟨rfl, fun _ _ => rfl, hrecords, fun _ _ => rfl, fun _ _ => rfl⟩

theorem withinType_of_schemas {schemas : List SchemaRow} (hschemas : ∀ T', T' ≠ T →
      schemas.filter (·.typeName == T') = db.schemas.filter (·.typeName == T')) :
    WithinType stem n T db { db with schemas := schemas } :=
  ⟨rfl, hschemas, fun _ _ => rfl, fun _ _ => rfl, fun _ _ => rfl⟩

/-! ### Steps on index tables -/

theorem RowStep.tablesWithin {index : String} {R : Table → Table → Prop}
    (h : RowStep (tableName stem n index) R db db') : TablesWithin stem n db db' := by
  have hother (x : String) (hx : Outside stem n x) : db'.table? x = db.table? x :=
    h.table?_other (hx index)
  obtain ⟨t, t', -, -, -, rfl⟩ := h
  exact ⟨⟨⟨rfl, rfl⟩, rfl⟩, hother, fun _ _ => rfl⟩

namespace IndexedType
variable {t : IndexedType} {s : StoreSettings}

/-- A loop whose turns write to the table of an index each. -/
theorem turns_within {α : Type} (make : Index.Target → Except Error α)
    (run : Database → α → Except DatabaseFault Database) {acts : α → Table → Table → Prop}
    (hrun : ∀ ix q db db', make (t.target s ix) = .ok q → run db q = .ok db' →
      RowStep (tableName s.stem t.typeId ix.name) (acts q) db db') (ixs : List IndexDefinition) :
    Ensures (TablesWithin s.stem t.typeId) (ixs.forM (t.turn s make run)) := by
  refine ensures_forM (composes_tablesWithin s.stem t.typeId) fun ix _ db u db' h => ?_
  obtain ⟨q, hq, hstep⟩ := turn_eq_ok h
  exact (hrun ix q db db' hq hstep).tablesWithin

variable (t s)

theorem insertRows_within (id : UInt64) (r : Record) :
    Ensures (TablesWithin s.stem t.typeId) (t.insertRows s id r) :=
  turns_within (Index.insertRow · id r) (fun db q => db.insert q) rowStep_insertRow _

theorem updateRows_within (id : UInt64) (r : Record) :
    Ensures (TablesWithin s.stem t.typeId) (t.updateRows s id r) :=
  turns_within (Index.updateRow · id r) (fun db q => db.update q) rowStep_updateRow _

theorem flagRows_within (id : UInt64) (quarantined : Bool) :
    Ensures (TablesWithin s.stem t.typeId) (t.flagRows s id quarantined) :=
  turns_within (Index.flagRow · id quarantined) (fun db q => db.update q) rowStep_flagRow _

theorem deleteRows_within (id : UInt64) :
    Ensures (TablesWithin s.stem t.typeId) (t.deleteRows s id) :=
  turns_within (Index.deleteRow · id) (fun db q => db.delete q) rowStep_deleteRow _

theorem backfill_within (row : RecordRow) :
    Ensures (TablesWithin s.stem t.typeId) (t.backfill s row) :=
  ensures_backfill_of (composes_tablesWithin s.stem t.typeId) t s row (insertRows_within t s)
    fun id => flagRows_within t s id true

variable {t s}

theorem truncateAll_within {owner : UInt32 → String → Prop} {u : Unit} (hk : db.Keyed)
    (ho : Owned s.stem owner db) (h : t.truncateAll s db = .ok (u, db')) :
    TablesWithin s.stem t.typeId db db' := by
  obtain ⟨honly, -, htables⟩ := forM_truncate hk ho h
  refine ⟨⟨⟨honly.types, honly.schemas⟩, honly.records⟩, fun x hx => ?_,
    fun x _ => indexesOf_congr_objects honly.indexObjects x⟩
  have hany : t.schema.indexes.any (fun ix => sameName (tableName s.stem t.typeId ix.name) x) =
      false :=
    List.any_eq_false.2 fun ix _ => Bool.eq_false_iff.1 (hx ix.name)
  rw [htables, hany]
  simp

end IndexedType

theorem IndexesCreated.tablesWithin {S : Schema} {owner : UInt32 → String → Prop}
    (h : IndexesCreated stem n S S.indexes owner db db') : TablesWithin stem n db db' :=
  ⟨⟨⟨h.types, h.schemas⟩, h.records⟩, fun _ hx => h.table?_other fun ix _ => hx ix.name,
    fun x hx => h.otherObjects x fun ix _ => hx ix.name⟩

theorem withoutIndexes_within (stem : String) (n : UInt32) (ixs : List IndexDefinition)
    (db : Database) : TablesWithin stem n db (withoutIndexes stem n ixs db) :=
  ⟨⟨⟨rfl, rfl⟩, rfl⟩, fun _ hx => table?_withoutIndexes db fun ix _ => hx ix.name,
    fun _ hx => indexesOf_withoutIndexes db fun ix _ => hx ix.name⟩

/-! ### Transactions -/

variable {s : StoreSettings} {key : Key} {r : Record} {b : Bool} {u : Unit}

theorem addRecord_within (h : addRecord s n key r db = .ok (u, db')) :
    WithinType s.stem n key.typeName db db' := by
  obtain ⟨schema, m, -, -, -, -, hfollows⟩ := addRecord_eq_ok h
  have hrows : TablesWithin s.stem n _ db' := hfollows.ensures (composes_tablesWithin s.stem n)
    fun S => IndexedType.insertRows_within ⟨n, key.typeName, S⟩ s key.id r
  refine composes_withinType.trans (withinType_of_records fun w hw => ?_) hrows.withinType
  have hnew : (typeWord n == w) = false := beq_eq_false_iff_ne.2 hw.symm
  simp [hnew]

/-- A change of one record, whatever rows are changed with it. -/
theorem withinType_of_change {m : Int64} {allowed : RecordState → Bool}
    {change : RecordRow → RecordRow} {schema : Option Schema} {rows : Schema → Transaction Unit}
    {db₁ : Database} (hchange : db.changeRecord? (typeWord n) m allowed change = some db₁)
    (htype : ∀ row, (change row).typeId = row.typeId) (hfollows : Follows schema rows db₁ db')
    (hrows : ∀ S, Ensures (TablesWithin s.stem n) (rows S)) : WithinType s.stem n T db db' := by
  obtain ⟨-, rfl⟩ := changeRecord?_eq_some hchange
  have hfollowed := hfollows.ensures (composes_tablesWithin s.stem n) hrows
  refine composes_withinType.trans (withinType_of_records fun w hw => ?_) hfollowed.withinType
  have hsame (row : RecordRow) : (if row.typeId == typeWord n && row.id == m && allowed row.state then
      change row else row).typeId = row.typeId := by
    split
    · exact htype row
    · rfl
  -- records of another type are not hit, and no record gets another type
  refine filter_map_of_fixed (fun row => by rw [hsame]) (fun row hrow => ?_) _
  have hrow' : row.typeId = w := beq_iff_eq.1 hrow
  have hne : (row.typeId == typeWord n) = false := beq_eq_false_iff_ne.2 (hrow' ▸ hw)
  rw [if_neg (by simp [hne])]

theorem replaceRecord_within (h : replaceRecord s n key r db = .ok (b, db')) :
    WithinType s.stem n key.typeName db db' := by
  obtain ⟨schema, m, -, -, -, ⟨-, rfl, -⟩ | ⟨-, db₁, hchange, hfollows⟩⟩ := replaceRecord_eq_ok h
  · exact composes_withinType.refl _
  · exact withinType_of_change hchange (fun _ => rfl) hfollows fun S =>
      IndexedType.updateRows_within ⟨n, key.typeName, S⟩ s key.id r

theorem deleteRecord_within (h : deleteRecord s n key db = .ok (b, db')) :
    WithinType s.stem n key.typeName db db' := by
  obtain ⟨schema, m, -, -, ⟨-, rfl, -⟩ | ⟨-, db₁, hchange, hfollows⟩⟩ := deleteRecord_eq_ok h
  · exact composes_withinType.refl _
  · exact withinType_of_change hchange (fun _ => rfl) hfollows fun S =>
      IndexedType.deleteRows_within ⟨n, key.typeName, S⟩ s key.id

theorem moveRecord_within {quarantined : Bool}
    (h : moveRecord s n key quarantined db = .ok (b, db')) :
    WithinType s.stem n key.typeName db db' := by
  obtain ⟨schema, m, -, -, ⟨-, rfl, -⟩ | ⟨-, db₁, hchange, hfollows⟩⟩ := moveRecord_eq_ok h
  · exact composes_withinType.refl _
  · exact withinType_of_change hchange (fun _ => rfl) hfollows fun S =>
      IndexedType.flagRows_within ⟨n, key.typeName, S⟩ s key.id quarantined

variable {accepted : Record → Prop}

theorem clearType_within (hc : Coherent s.stem accepted db) {k : Nat}
    (h : clearType s n T db = .ok (k, db')) : WithinType s.stem n T db db' := by
  obtain ⟨schema, -, -, hfollows⟩ := clearType_eq_ok h
  have hcleared : WithinType s.stem n T db (db.clearRecords (typeWord n)).2 := by
    refine withinType_of_records fun w hw => ?_
    rw [List.filter_filter]
    refine List.filter_congr fun row _ => ?_
    cases hrow : row.typeId == w with
    | false => rfl
    | true => simpa [beq_iff_eq.1 hrow] using hw
  rcases hfollows with ⟨-, rfl⟩ | ⟨S, -, htruncate⟩
  · exact hcleared
  · have howned : Owned s.stem (IndexPublished db) (db.clearRecords (typeWord n)).2 :=
      ⟨hc.owned.tables, hc.owned.objects⟩
    exact composes_withinType.trans hcleared
      (IndexedType.truncateAll_within (hc.keyed.withRecords _) howned htruncate).withinType

theorem publish_within {t : IndexedType} (hc : Coherent s.stem accepted db)
    (h : t.publish s db = .ok (u, db')) : WithinType s.stem t.typeId t.typeName db db' := by
  obtain ⟨-, db₁, hcreate, hfill⟩ := publish_eq_ok h
  have hkeyed : Keyed { db with schemas := db.schemas ++ [⟨t.typeName, t.schema.text⟩] } :=
    ⟨hc.keyed.names, hc.keyed.keys, hc.keyed.numbered⟩
  have howned : Owned s.stem (IndexPublished db)
      { db with schemas := db.schemas ++ [⟨t.typeName, t.schema.text⟩] } :=
    ⟨hc.owned.tables, hc.owned.objects⟩
  have hcreated := (indexesCreated_of_forM (fun _ hix => hix) hkeyed howned hcreate).tablesWithin
  -- the schema is stored first, then the tables are made, and then the records are entered
  have hfilled := ensures_forM (composes_tablesWithin s.stem t.typeId)
    (fun row _ => IndexedType.backfill_within t s row) _ _ _ hfill
  refine composes_withinType.trans (withinType_of_schemas fun T' hT' => ?_)
    (composes_withinType.trans hcreated.withinType hfilled.withinType)
  have hnew : (t.typeName == T') = false := beq_eq_false_iff_ne.2 hT'.symm
  simp [hnew]

theorem unpublish_within (hc : Coherent s.stem accepted db)
    (h : unpublish s n T db = .ok (b, db')) : WithinType s.stem n T db db' := by
  obtain ⟨schema, -, ⟨-, -, rfl⟩ | ⟨-, S, -, hdrop⟩⟩ := unpublish_eq_ok h
  · exact composes_withinType.refl _
  have howned : Owned s.stem (IndexPublished db) (db.removeSchema T) :=
    ⟨hc.owned.tables, hc.owned.objects⟩
  obtain rfl := forM_dropIndexTable_eq_ok howned hdrop
  refine composes_withinType.trans (withinType_of_schemas fun T' hT' => ?_)
    (withoutIndexes_within s.stem n S.indexes _).withinType
  rw [List.filter_filter]
  refine List.filter_congr fun row _ => ?_
  cases hrow : row.typeName == T' with
  | false => rfl
  | true => simpa [beq_iff_eq.1 hrow] using hT'

end

end RecordStore
