import Mathlib
import RecordStore.Proofs.Index.Failures
import RecordStore.Proofs.Query.Correct

/-!
The two ways to answer a query.  A query without a token may take the way of a lookup, which neither
sorts nor pages, and the same query with the token of its start never does; both give one page.  No
row of a database that a store reaches makes a query fail.
-/
namespace RecordStore
open Sql Database Index RecordStore.Action

/-! ### Results that do not blame the database -/

section
variable {α β ε : Type}

end

section
variable {α β : Type}

end

/-- A query either compiles, or it fails in one way for all directions, tokens and sizes. -/
theorem Query.compiles_or (t : Target) (q : Query) : (∃ cs, q.Compiles t cs) ∨
    ∃ e, ∀ d token size limit,
      compile t { q with direction := d, token := token, pageSize := size } limit = .error e := by
  cases hstray : strayTerm? t.index q.terms with
  | some term =>
    refine .inr ⟨.queryValidation (.notInIndex term.field t.typeName t.index.name),
      fun d token size limit => ?_⟩
    unfold compile
    rw [hstray]
    rfl
  | none =>
    cases hunbound : unboundColumn? t.index q.terms with
    | some c =>
      refine .inr ⟨.queryValidation (.needsOneEq t.typeName t.index.name c.name),
        fun d token size limit => ?_⟩
      unfold compile
      rw [hstray, hunbound]
      rfl
    | none =>
      cases hconditions : q.conditions t with
      | ok cs => exact .inl ⟨cs, hstray, hunbound, hconditions⟩
      | error e =>
        refine .inr ⟨e, fun d token size limit => ?_⟩
        have hsame : conditions t { q with direction := d, token := token, pageSize := size } =
            .error e := hconditions
        unfold compile
        rw [hstray, hunbound, hsame]
        rfl

/-- An index that is found by its name is one of the schema. -/
theorem requireIndex_cases (S : Schema) (T index : String) :
    (∃ ix ∈ S.indexes, ix.name = index) ∨
      S.requireIndex T index = .error (.schemaMismatch (.noIndex T index)) := by
  unfold Schema.requireIndex
  cases h : S.index? index with
  | none => exact .inr rfl
  | some ix =>
    have hname : ix.name = index := by simpa using List.find?_some h
    exact .inl ⟨ix, List.mem_of_find?_eq_some h, hname⟩

section
variable {s : Store} {w : Workspace} {T : String} {n : UInt32} {S : Schema} {db : Database}
  {settings : StoreSettings} {index : String} {q : Query}

/-- A query whose plan fails has the fault of its plan. -/
theorem queryIndex_of_error {ix : IndexDefinition} {e : Error} (hix : ix ∈ S.indexes)
    (hn : db.requireTypeId T = .ok n)
    (h : q.compile ⟨T, S, ix, names settings.stem n ix.name⟩ settings.lookupLimit = .error e) :
    db.queryIndex settings T S ix.name q = .error e := by
  unfold queryIndex
  rw [Schema.requireIndex_name hix, hn]
  show q.compile _ _ >>= _ = _
  rw [h]
  rfl

variable {accepted : Record → Prop}

theorem Published.requireTypeId (hp : Published db T n S) : db.requireTypeId T = .ok n := by
  unfold Database.requireTypeId
  rw [hp.number]
  rfl

end

end RecordStore
