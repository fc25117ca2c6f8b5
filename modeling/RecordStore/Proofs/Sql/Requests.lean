import Mathlib
import RecordStore.Proofs.Query.Pages
import RecordStore.Proofs.Sql.Statements

/-!
What the store sends to a database.  Queries, scans and the statements that keep index tables in step
with records come out the same in all dialects, whatever attributes and tables are called.
-/
namespace RecordStore
open Sql Index

/-- What the store makes a statement on rows for. -/
inductive Request
  | query (t : Target) (q : Query) (limit : UInt64)
  | scan (typeId : UInt32) (direction : Direction) (token : Option String)
      (pageSize : Option UInt64) (includeQuarantined : Bool)
  | insert (t : Target) (id : UInt64) (r : Record)
  | update (t : Target) (id : UInt64) (r : Record)
  | delete (t : Target) (id : UInt64)
  | flag (t : Target) (id : UInt64) (quarantined : Bool)

namespace Request

/-- The statement for a request, if it can be made. -/
def statement : Request → Except Error Statement
  | query t q limit => (q.compile t limit).map fun p => .select p.select
  | scan n direction token size includeQuarantined =>
    (Scan.compile n direction token size includeQuarantined).map fun p => .select p.select
  | insert t id r => (insertRow t id r).map .insert
  | update t id r => (updateRow t id r).map .update
  | delete t id => (deleteRow t id).map .delete
  | flag t id quarantined => (flagRow t id quarantined).map .update

/-- The columns that the terms of a query are about, in the order of the index. -/
def termColumns (ix : IndexDefinition) (terms : List Term) : List String :=
  (Query.conditionColumns ix).flatMap fun c =>
    (Query.termsFor terms c.name).map fun _ => Query.physicalColumn c

/-- The tables and columns that a request is about, in the order in which its statement has to name
them. -/
def names : Request → List String
  | query t q _ =>
    idColumn :: t.names.table ::
      ((if q.includeQuarantined then [] else [quarantinedColumn]) ++ termColumns t.index q.terms ++
        if t.index.unique && q.token.isNone && Query.bindsAll t.index q.terms then []
        else valueNames t.index ++ [idColumn])
  | scan _ _ _ _ _ =>
    [Scan.keyColumn, Scan.recordTable, Scan.typeColumn, Scan.stateColumn, Scan.keyColumn]
  | insert t _ _ => t.names.table :: idColumn :: (valueNames t.index ++ [quarantinedColumn])
  | update t _ _ => t.names.table :: (valueNames t.index ++ [idColumn])
  | delete t _ => [t.names.table, idColumn]
  | flag t _ _ => [t.names.table, quarantinedColumn, idColumn]

theorem columns_of_conditions {t : Target} {q : Query} {cs : List Condition}
    (h : q.conditions t = .ok cs) : cs.map (·.column) = termColumns t.index q.terms := by
  have hcolumns {pairs : List (IndexColumn × Term)} {cs : List Condition}
      (h : List.Forall₂ (fun p c => Query.condition t.typeName t.schema p.1 p.2 = .ok c) pairs cs) :
      cs.map (·.column) = pairs.map fun p => Query.physicalColumn p.1 := by
    induction h with
    | nil => rfl
    | cons hc _ ih => rw [List.map_cons, List.map_cons, condition_column hc, ih]
  rw [hcolumns (mapM_eq_ok.1 h), List.map_flatMap, termColumns]
  simp only [List.map_map, Function.comp_def]

theorem names_of_compile {t : Target} {q : Query} {limit : UInt64} {plan : Plan}
    (h : q.compile t limit = .ok plan) : plan.select.names = (query t q limit).names := by
  obtain ⟨cs, hq, -⟩ := compile_eq_ok h
  have hfilter : (Query.quarantineFilter q.includeQuarantined).map (·.column) =
      if q.includeQuarantined then [] else [quarantinedColumn] := by
    unfold Query.quarantineFilter
    split <;> rfl
  have hconditions : (q.base t cs).conditions.map (·.column) =
      (if q.includeQuarantined then [] else [quarantinedColumn]) ++ termColumns t.index q.terms := by
    rw [Query.base, List.map_append, hfilter, columns_of_conditions hq.conditions]
  rw [hq.compile] at h
  rw [names]
  split at h
  · next hlookup =>
    rw [if_pos hlookup, List.append_nil, ← hconditions, ← Except.ok.inj h]
    simp only [Select.names, Query.base, List.map_nil, List.append_nil]
  · next hlookup =>
    obtain ⟨offset, limit, -, -, rfl⟩ := paginate_eq_ok h
    have horder : (Query.sortKeys t.index q.direction).map (·.column) =
        valueNames t.index ++ [idColumn] := by
      simp [Query.sortKeys, valueNames, Function.comp_def]
    rw [if_neg hlookup, ← hconditions, ← horder]
    rfl

/-- A statement names the tables and columns that its request is about. -/
theorem names_of_statement {r : Request} {s : Statement} (h : r.statement = .ok s) :
    s.names = r.names := by
  cases r with
  | query t q limit =>
    obtain ⟨plan, hplan, rfl⟩ := map_eq_ok.1 h
    exact names_of_compile hplan
  | scan n direction token size includeQuarantined =>
    obtain ⟨plan, hplan, rfl⟩ := map_eq_ok.1 h
    obtain ⟨offset, limit, -, -, rfl⟩ := paginate_eq_ok hplan
    cases includeQuarantined <;> rfl
  | insert t id r =>
    obtain ⟨q, hq, rfl⟩ := map_eq_ok.1 h
    obtain ⟨n, -, -, rfl⟩ := insertRow_eq hq
    rw [assignments_names]
    rfl
  | update t id r =>
    obtain ⟨q, hq, rfl⟩ := map_eq_ok.1 h
    obtain ⟨n, -, -, rfl⟩ := updateRow_eq_ok hq
    show Update.names _ = _
    rw [Update.names, assignments_names]
    rfl
  | delete t id =>
    obtain ⟨q, hq, rfl⟩ := map_eq_ok.1 h
    obtain ⟨n, -, rfl⟩ := deleteRow_eq_ok hq
    rfl
  | flag t id quarantined =>
    obtain ⟨q, hq, rfl⟩ := map_eq_ok.1 h
    obtain ⟨n, -, rfl⟩ := flagRow_eq_ok hq
    rfl

end Request

/-- Whatever its names and values are, the statement for a request is read as the same tokens in all
dialects: its names are the tables and columns that it is meant for, its place holders are numbered
from one in the order of its values, and outside of its names the text is that of a statement without
names and values. -/
theorem statement_reads {r : Request} {s : Statement} (h : r.statement = .ok s) : ∃ tokens,
    (∀ d, read? d (s.prepared d).1 = some tokens) ∧ tokens.filterMap Token.name? = r.names ∧
      tokens.filterMap Token.number? = List.range' 1 s.values.length ∧
      (∀ d, outside d (s.prepared d).1 = outside d (s.blank.prepared d).1) ∧
      ∀ d, (s.prepared d).2 = s.values := by
  obtain ⟨tokens, hread, hnames, hrest⟩ := s.reads
  exact ⟨tokens, hread, hnames.trans (Request.names_of_statement h), hrest⟩

/-- An attribute and a table prefix that would end a name, were their quote marks not doubled. -/
def quotedName : String := "a\" = ?1 -- \x60 OR $1"

def quotedSchema : Schema where
  attributes := [⟨quotedName, .smallString, none, true, .unchanged⟩]
  indexes := [⟨"by_a", [⟨quotedName, .descending, .lowercase⟩], false⟩]
  sound := by decide

def quotedTarget : Target :=
  ⟨"t", quotedSchema, quotedSchema.indexes[0], ⟨quotedName ++ "_table", quotedName ++ "_index"⟩⟩

/-- A page of the records with one of two values that are greater than a third. -/
def quotedQuery : Query :=
  ⟨[⟨quotedName, .within, .list [.text "x", .text "'; --"]⟩, ⟨quotedName, .gt, .scalar (.text "?")⟩,
    ⟨"id", .ge, .scalar (.int 7)⟩], .ascending, none, some 10, false⟩

theorem statement_reads_quoted : ∃ s tokens,
    (Request.query quotedTarget quotedQuery 10).statement = .ok s ∧
      (∀ d, read? d (s.prepared d).1 = some tokens) ∧
      tokens.filterMap Token.name? = ["_id", quotedName ++ "_table", "quarantined",
        "_" ++ quotedName, "_" ++ quotedName, "_id", "_" ++ quotedName, "_id"] ∧
      tokens.filterMap Token.number? = [1, 2, 3, 4, 5, 6] := by
  let s : Statement := .select ⟨idColumn, quotedName ++ "_table",
    [.compare quarantinedColumn .eq (.ofText flagNo),
      .within ("_" ++ quotedName) [.ofText "x", .ofText "'; --"],
      .compare ("_" ++ quotedName) .gt (.ofText "?"), .compare idColumn .ge (.ofInt 7)],
    [⟨"_" ++ quotedName, .ascending⟩, ⟨idColumn, .ascending⟩], some 11, none⟩
  have hs : (Request.query quotedTarget quotedQuery 10).statement = .ok s := by decide +kernel
  obtain ⟨tokens, hread, hnames, hnumbers, -⟩ := statement_reads hs
  exact ⟨s, tokens, hs, hread, hnames.trans (by decide +kernel), hnumbers.trans (by decide +kernel)⟩

end RecordStore
