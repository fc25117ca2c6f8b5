import Mathlib
import RecordStore.Proofs.Index.Columns
import RecordStore.Proofs.Sql.Requests

/-!
All statements on an index agree with the table that is made for it.  A row has every column of the
table, in the order of the table; whatever changes or finds rows names columns of the table and nothing
else; and what a statement can be refused for is in the record or in the query, never in the index.
-/
namespace RecordStore
open Sql Index

namespace Sql.Statement

/-- The table that a statement is on. -/
def table : Statement → String
  | select s => s.table
  | insert s => s.table
  | update s => s.table
  | delete s => s.table

/-- The columns that a statement is about. -/
def columns : Statement → List String
  | select s => s.column :: (s.conditions.map (·.column) ++ s.order.map (·.column))
  | insert s => s.columns
  | update s => s.assignments.map (·.1) ++ [s.condition.column]
  | delete s => [s.condition.column]

/-- The text of a statement has the names that it is about and no others. -/
theorem identifiers?_prepared (d : Dialect) (s : Statement) :
    identifiers? d (s.prepared d).1 = some s.names :=
  (identifiers?_render (.of_legible s.writes.legible) d).trans (congrArg some s.writes.names)

end Sql.Statement

namespace Request

variable {t : Target} {r : Request} {s : Statement}

/-- The index that a request is on. -/
def target? : Request → Option Target
  | query t _ _ | insert t _ _ | update t _ _ | delete t _ | flag t _ _ => some t
  | scan _ _ _ _ _ => none

/-- The columns after the table of a query are columns of its index. -/
theorem mem_columnNames_of_query {q : Query} {name : String}
    (h : name ∈ (if q.includeQuarantined then [] else [quarantinedColumn]) ++
      termColumns t.index q.terms ++
        if t.index.unique && q.token.isNone && Query.bindsAll t.index q.terms then []
        else valueNames t.index ++ [idColumn]) :
    name ∈ (columnSpecs t.schema t.index).map (·.name) := by
  rcases List.mem_append.1 h with h | h
  · rcases List.mem_append.1 h with hflag | hterm
    · have hname : name = quarantinedColumn := by
        split at hflag
        · cases hflag
        · exact List.mem_singleton.1 hflag
      exact mem_columnNames.2 (.inr (.inr hname))
    · obtain ⟨c, hc, hterm⟩ := List.mem_flatMap.1 hterm
      obtain ⟨-, -, rfl⟩ := List.mem_map.1 hterm
      exact physicalColumn_mem t.schema hc
  · split at h
    · cases h
    · rcases List.mem_append.1 h with hvalue | hid
      · exact mem_columnNames.2 (.inr (.inl hvalue))
      · exact mem_columnNames.2 (.inl (List.mem_singleton.1 hid))

/-- A request on an index makes a statement on the table of the index, about columns of it. -/
theorem columns_of_statement (ht : r.target? = some t) (h : r.statement = .ok s) :
    s.table = t.names.table ∧
      ∀ c ∈ s.columns, c ∈ (columnSpecs t.schema t.index).map (·.name) := by
  have hid : idColumn ∈ (columnSpecs t.schema t.index).map (·.name) := mem_columnNames.2 (.inl rfl)
  have hvalue : ∀ c ∈ valueNames t.index, c ∈ (columnSpecs t.schema t.index).map (·.name) :=
    fun c hc => mem_columnNames.2 (.inr (.inl hc))
  have hflag : quarantinedColumn ∈ (columnSpecs t.schema t.index).map (·.name) :=
    mem_columnNames.2 (.inr (.inr rfl))
  -- a statement on rows names its table first
  have hrow {s : Statement} {columns : List String}
      (hnames : s.table :: s.columns = t.names.table :: columns)
      (hcolumns : ∀ c ∈ columns, c ∈ (columnSpecs t.schema t.index).map (·.name)) :
      s.table = t.names.table ∧ ∀ c ∈ s.columns, c ∈ (columnSpecs t.schema t.index).map (·.name) := by
    obtain ⟨htable, rfl⟩ := List.cons.inj hnames
    exact ⟨htable, hcolumns⟩
  have hnames := names_of_statement h
  cases r with
  | scan _ _ _ _ _ => cases ht
  | query _ q limit =>
    obtain rfl := Option.some.inj ht
    obtain ⟨plan, -, rfl⟩ := map_eq_ok.1 h
    obtain ⟨hcolumn, hrest⟩ := List.cons.inj hnames
    obtain ⟨htable, hrest⟩ := List.cons.inj hrest
    refine ⟨htable, List.forall_mem_cons.2 ⟨hcolumn ▸ hid, fun c hc => ?_⟩⟩
    exact mem_columnNames_of_query (hrest ▸ hc)
  | insert _ id record =>
    obtain rfl := Option.some.inj ht
    obtain ⟨p, -, rfl⟩ := map_eq_ok.1 h
    refine hrow hnames (List.forall_mem_cons.2 ⟨hid, fun c hc => ?_⟩)
    exact (List.mem_append.1 hc).elim (hvalue c) fun hc => List.mem_singleton.1 hc ▸ hflag
  | update _ id record =>
    obtain rfl := Option.some.inj ht
    obtain ⟨p, -, rfl⟩ := map_eq_ok.1 h
    refine hrow hnames fun c hc => ?_
    exact (List.mem_append.1 hc).elim (hvalue c) fun hc => List.mem_singleton.1 hc ▸ hid
  | delete _ id =>
    obtain rfl := Option.some.inj ht
    obtain ⟨p, -, rfl⟩ := map_eq_ok.1 h
    exact hrow hnames (List.forall_mem_singleton.2 hid)
  | flag _ id quarantined =>
    obtain rfl := Option.some.inj ht
    obtain ⟨p, -, rfl⟩ := map_eq_ok.1 h
    exact hrow hnames (List.forall_mem_cons.2 ⟨hflag, List.forall_mem_singleton.2 hid⟩)

end Request

namespace Index

/-- The statements on an index agree with its table and its index object, and none of them fails for
what only the index decides. -/
structure Agreement (t : Target) (table : CreateTable) (object : CreateIndex) : Prop where
  distinct : (table.columns.map (·.name)).Nodup
  /-- In any dialect the text that makes the table names it and its columns. -/
  text : ∀ d, identifiers? d (render d (table.fragments d)) =
    some (table.table :: table.columns.map (·.name))
  object_table : object.table = table.table
  object_columns : ∀ k ∈ object.columns, k.column ∈ table.columns.map (·.name)
  /-- A row has a value for each column of the table, in the order of the table. -/
  row : ∀ id r q, insertRow t id r = .ok q → q.table = table.table ∧
    q.columns = table.columns.map (·.name) ∧ q.values.length = q.columns.length
  /-- Whatever is done on the index is done on its table and its columns, and in any dialect no other
  names are in the text of it. -/
  statement : ∀ (r : Request) s, r.target? = some t → r.statement = .ok s →
    s.table = table.table ∧ (∀ c ∈ s.columns, c ∈ table.columns.map (·.name)) ∧
      ∀ d, identifiers? d (s.prepared d).1 = some s.names
  insert_fails : ∀ id r,
    FailsOnly (fun e => NumberError id e ∨ FieldError t r e) (insertRow t id r)
  update_fails : ∀ id r,
    FailsOnly (fun e => NumberError id e ∨ FieldError t r e) (updateRow t id r)
  delete_fails : ∀ id, FailsOnly (NumberError id) (deleteRow t id)
  flag_fails : ∀ id quarantined, FailsOnly (NumberError id) (flagRow t id quarantined)
  query_fails : ∀ (q : Query) limit, FailsOnly (Query.CompileError q) (q.compile t limit)

/-- For every index of a schema a table and an index object can be made, and all statements on the
index agree with them. -/
theorem statements_agree {t : Target} (hix : t.index ∈ t.schema.indexes) :
    ∃ table object, createTable t.names t.index t.schema = .ok table ∧
      createIndex t.names t.index t.schema = .ok object ∧ Agreement t table object := by
  refine ⟨_, _, createTable_of_mem hix t.names, createIndex_of_mem hix t.names, ?_⟩
  exact {
    distinct := columnNames_nodup hix
    text := identifiers?_createTable t.schema t.index t.names.table
    object_table := rfl
    object_columns := indexKeys_subset t.schema t.index
    row := fun id r q hq => by
      obtain ⟨n, -, -, rfl⟩ := insertRow_eq hq
      refine ⟨rfl, ?_, by simp⟩
      rw [columnSpecs_names, assignments_names]
      rfl
    statement := fun r s ht hs =>
      have hcolumns := Request.columns_of_statement ht hs
      ⟨hcolumns.1, hcolumns.2, fun d => s.identifiers?_prepared d⟩
    insert_fails := failsOnly_insertRow hix
    update_fails := failsOnly_updateRow hix
    delete_fails := failsOnly_deleteRow t
    flag_fails := failsOnly_flagRow t
    query_fails := Query.failsOnly_compile hix }

/-- An attribute whose name has quote marks and blanks is a column like any other. -/
theorem statements_agree_quoted : ∃ table object,
    createTable quotedTarget.names quotedTarget.index quotedTarget.schema = .ok table ∧
      createIndex quotedTarget.names quotedTarget.index quotedTarget.schema = .ok object ∧
      table.columns.map (·.name) = ["_id", "_" ++ quotedName, "quarantined"] ∧
      Agreement quotedTarget table object := by
  obtain ⟨table, object, htable, hobject, hagrees⟩ :=
    statements_agree (t := quotedTarget) (by decide +kernel)
  refine ⟨table, object, htable, hobject, ?_, hagrees⟩
  rw [createTable_eq_ok htable]
  decide +kernel

end Index

end RecordStore
