import Mathlib
import RecordStore.Proofs.Index.Rejection
import RecordStore.Proofs.Query.Terms

/-!
Why a statement on an index is not made.  When the index is one of its schema, no attribute is unknown
and none has a type that no column can hold; what is left are record numbers that are too large, fields
without a value, and queries that ask for what they should not.
-/
namespace RecordStore
open Sql Index

/-- A value of a type that a column can hold is never refused for its type. -/
theorem coerce_ne_unindexable {a : Attribute} (ha : a.type.indexable = true) (v : FieldValue)
    (type : AttributeType) : coerce a v ≠ .error (.unindexable type) := by
  intro h
  by_cases hnull : v.isNull = true
  · rw [coerce, if_pos hnull] at h
    cases h
  rw [coerce, if_neg hnull] at h
  cases htype : a.type <;> rw [htype] at ha h <;> simp only [AttributeType.integerRange?] at h
  case any | array | map => cases ha
  all_goals
    repeat' split at h
    all_goals cases h

theorem requireAttribute_of_column {s : Schema} {ix : IndexDefinition} {c : IndexColumn}
    (hix : ix ∈ s.indexes) (hc : c ∈ ix.valueColumns) :
    ∃ a, s.requireAttribute c.name = .ok a ∧ s.attribute? c.name = some a ∧
      a.type.indexable = true := by
  obtain ⟨a, ha, hindexable, -⟩ := exists_attribute_of_column hix hc
  refine ⟨a, ?_, ha, hindexable⟩
  rw [Schema.requireAttribute, ha]

/-! ### Rows -/

namespace Index

/-- The number of a record is too large. -/
inductive NumberError (id : UInt64) : Error → Prop
  | intro : 2 ^ 63 ≤ id.toNat → NumberError id (.invalidKey (.unstorableId id))

/-- A record has no value in a column of an index. -/
inductive FieldError (t : Target) (r : Record) : Error → Prop
  | notScalar {c : IndexColumn} : c ∈ t.index.valueColumns → boundValue? t.schema r c = none →
      FieldError t r (.schemaMismatch (.notScalar t.typeName c.name))
  | refused {c : IndexColumn} {x : Refusal} : c ∈ t.index.valueColumns →
      boundValue? t.schema r c = none → (∀ type, x ≠ .unindexable type) →
      FieldError t r (.schemaMismatch (.field t.typeName c.name (.refused x)))

variable {t : Target} {id : UInt64} {r : Record}

theorem failsOnly_idValue (id : UInt64) : FailsOnly (NumberError id) (idValue id) := by
  unfold idValue storedId?
  split
  · exact failsOnly_ok _
  · next hnone =>
    refine failsOnly_error (.intro ?_)
    by_contra hsmall
    rw [if_pos (by omega)] at hnone
    cases hnone

theorem failsOnly_columnValue (hix : t.index ∈ t.schema.indexes) (r : Record) {c : IndexColumn}
    (hc : c ∈ t.index.valueColumns) : FailsOnly (FieldError t r) (columnValue t r c) := by
  obtain ⟨a, ha, hattribute, hindexable⟩ := requireAttribute_of_column hix hc
  intro e he
  -- a column that a value is bound for makes no error
  have hnone : boundValue? t.schema r c = none := by
    cases hvalue : boundValue? t.schema r c with
    | none => rfl
    | some v =>
      rw [columnValue_eq_ok.2 ⟨v, hvalue, rfl⟩] at he
      cases he
  cases hf : fieldScalar? c.name r with
  | none =>
    have hscalar : columnScalar t c r = .error (.schemaMismatch (.notScalar t.typeName c.name)) := by
      unfold fieldScalar? at hf
      unfold columnScalar
      cases hmember : Json.member? c.name r with
      | none => rw [hmember] at hf; cases hf
      | some v => rw [hmember] at hf; simp only [hf]
    have hvalue : columnValue t r c = .error (.schemaMismatch (.notScalar t.typeName c.name)) := by
      rw [columnValue, ha]
      show columnScalar t c r >>= _ = _
      rw [hscalar]
      rfl
    obtain rfl := Except.error.inj (hvalue.symm.trans he)
    exact .notScalar hc hnone
  | some f =>
    rw [columnValue_of_field hattribute hf] at he
    cases hbind : bindColumn a c f with
    | ok v =>
      rw [hbind] at he
      cases he
    | error x =>
      rw [hbind] at he
      obtain rfl := Except.error.inj he
      refine .refused hc hnone ?_
      rintro type rfl
      exact coerce_ne_unindexable hindexable _ type hbind

theorem failsOnly_rowValues (hix : t.index ∈ t.schema.indexes) (r : Record) :
    FailsOnly (FieldError t r) (rowValues t r) :=
  failsOnly_mapM fun _ hc => failsOnly_columnValue hix r hc

/-- A row always has as many values as columns. -/
theorem failsOnly_insertRow (hix : t.index ∈ t.schema.indexes) (id : UInt64) (r : Record) :
    FailsOnly (fun e => NumberError id e ∨ FieldError t r e) (insertRow t id r) := by
  refine failsOnly_bind ((failsOnly_idValue id).imp fun _ => .inl) fun n _ => ?_
  refine failsOnly_bind ((failsOnly_rowValues hix r).imp fun _ => .inr) fun row _ => ?_
  rw [insertInto, if_pos (by simp)]
  exact failsOnly_ok _

theorem failsOnly_updateRow (hix : t.index ∈ t.schema.indexes) (id : UInt64) (r : Record) :
    FailsOnly (fun e => NumberError id e ∨ FieldError t r e) (updateRow t id r) := by
  refine failsOnly_bind ((failsOnly_rowValues hix r).imp fun _ => .inr) fun row _ => ?_
  exact failsOnly_bind ((failsOnly_idValue id).imp fun _ => .inl) fun n _ => failsOnly_ok _

theorem failsOnly_deleteRow (t : Target) (id : UInt64) :
    FailsOnly (NumberError id) (deleteRow t id) :=
  failsOnly_bind (failsOnly_idValue id) fun _ _ => failsOnly_ok _

theorem failsOnly_flagRow (t : Target) (id : UInt64) (quarantined : Bool) :
    FailsOnly (NumberError id) (flagRow t id quarantined) :=
  failsOnly_bind (failsOnly_idValue id) fun _ _ => failsOnly_ok _

end Index

/-! ### Queries -/

namespace Query

/-- A query asks for what it should not, or its token is none. -/
inductive CompileError (q : Query) : Error → Prop
  | query {fault : QueryFault} : (∀ field type, fault ≠ .term field (.refused (.unindexable type))) →
      CompileError q (.queryValidation fault)
  | cursor {token : String} : q.token = some token → CompileError q (.invalidCursor token)

variable {t : Target} {q : Query} {c : IndexColumn}

theorem failsOnly_term {α : Type} {fault : TermFault} (field : String)
    (h : ∀ type, fault ≠ .refused (.unindexable type)) :
    FailsOnly (CompileError q) (.error (.queryValidation (.term field fault)) : Except Error α) :=
  failsOnly_error (.query fun _ type heq => h type (QueryFault.term.inj heq).2)

theorem failsOnly_bindTerm (hix : t.index ∈ t.schema.indexes)
    (hc : c ∈ conditionColumns t.index) (field : String) (v : FieldValue) :
    FailsOnly (CompileError q) (bindTerm t.typeName t.schema c field v) := by
  unfold bindTerm
  split
  · cases hbind : bindId t.typeName v with
    | ok b => exact failsOnly_ok b
    | error e =>
      refine failsOnly_term field fun type heq => ?_
      obtain rfl := TermFault.refused.inj heq
      unfold bindId at hbind
      split at hbind <;> cases hbind
  · next hid =>
    -- any column but that of the record number has an attribute of a type that can be bound
    obtain ⟨a, ha, -, hindexable⟩ :=
      requireAttribute_of_column hix ((mem_conditionColumns hc).resolve_left hid)
    refine failsOnly_bind (ha ▸ failsOnly_ok a) fun a' ha' => ?_
    obtain rfl := Except.ok.inj (ha.symm.trans ha')
    cases hbind : bindColumn a c v with
    | ok b => exact failsOnly_ok b
    | error e =>
      refine failsOnly_term field fun type heq => ?_
      obtain rfl := TermFault.refused.inj heq
      exact coerce_ne_unindexable hindexable _ type hbind

theorem failsOnly_condition (hix : t.index ∈ t.schema.indexes)
    (hc : c ∈ conditionColumns t.index) (term : Term) :
    FailsOnly (CompileError q) (condition t.typeName t.schema c term) := by
  unfold condition
  simp only
  split
  · split
    · exact failsOnly_term _ nofun
    · exact failsOnly_bind (failsOnly_mapM fun v _ => failsOnly_bindTerm hix hc _ v) fun _ _ =>
        failsOnly_ok _
  · exact failsOnly_term _ nofun
  · exact failsOnly_term _ nofun
  · exact failsOnly_ok _
  · exact failsOnly_ok _
  · exact failsOnly_term _ nofun
  · exact failsOnly_bind (failsOnly_bindTerm hix hc _ _) fun _ _ => failsOnly_ok _

theorem failsOnly_paginate (select : Select) :
    FailsOnly (CompileError q) (paginate select q.token q.pageSize) := by
  refine failsOnly_bind ?_ fun offset _ => failsOnly_bind ?_ fun limit _ => failsOnly_ok _
  · unfold offsetOf
    split
    · exact failsOnly_ok 0
    · next token htoken =>
      split
      · exact failsOnly_ok _
      · exact failsOnly_error (.cursor htoken)
  · unfold pageLimit
    split
    · split
      · exact failsOnly_error (.query nofun)
      · split
        · exact failsOnly_error (.query nofun)
        · exact failsOnly_ok _
    · exact failsOnly_ok _

theorem failsOnly_compile (hix : t.index ∈ t.schema.indexes) (q : Query) (limit : UInt64) :
    FailsOnly (CompileError q) (q.compile t limit) := by
  unfold compile
  cases strayTerm? t.index q.terms with
  | some term => exact failsOnly_error (.query nofun)
  | none =>
  cases unboundColumn? t.index q.terms with
  | some c => exact failsOnly_error (.query nofun)
  | none =>
  have hconditions : FailsOnly (CompileError q) (q.conditions t) :=
    failsOnly_mapM fun p hp => failsOnly_condition hix (mem_termPairs.1 hp).1 p.2
  refine failsOnly_bind hconditions fun cs _ => ?_
  simp only
  split
  · exact failsOnly_ok _
  · exact failsOnly_paginate _

end Query

end RecordStore
