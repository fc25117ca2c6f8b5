import Mathlib
import RecordStore.Proofs.Index.Integers
import RecordStore.Proofs.Query.Arrangement

/-!
Integers on their way into statements that read, and the counts of rows that come with them.  What a term
is given is bound as it is in rows.  Limits and offsets are words without a sign that are bound as signed
ones, so they have to be in the lower half of all words: tokens and sizes that go beyond are refused, and
the limit of a lookup is held below.
-/
namespace RecordStore
open Sql Database Index

/-! ### Terms -/

/-- The scalars of a term that its condition is given values for; a null has words of its own. -/
def Term.given : Term → List FieldValue
  | ⟨_, _, .scalar v⟩ => if v = .null then [] else [v]
  | ⟨_, _, .list vs⟩ => vs

namespace Query

/-- What a statement is given for a scalar of a term on a column. -/
def Stands (T : String) (s : Schema) (c : IndexColumn) (v : FieldValue) (b : Value) : Prop :=
  if c.isId then ∃ id : Nat, NamesRecord T v id ∧ b.Holds id
  else ∃ a, s.attribute? c.name = some a ∧ Exact a c v b

/-- A term on a column becomes a condition that is given what its scalars stand for. -/
def Gives (T : String) (s : Schema) (c : IndexColumn) (t : Term) (condition : Condition) : Prop :=
  condition.column = physicalColumn c ∧
    List.Forall₂ (Stands T s c) t.given condition.values

section
variable {T : String} {s : Schema} {c : IndexColumn}

theorem stands_of_bindTerm {field : String} {v : FieldValue} {b : Value}
    (h : bindTerm T s c field v = .ok b) : Stands T s c v b := by
  unfold bindTerm at h
  unfold Stands
  split_ifs at h ⊢ with hid
  · split at h
    · next w hw =>
      obtain rfl := Except.ok.inj h
      exact bindId_eq_ok_iff.1 hw
    · cases h
  · obtain ⟨a, ha, h⟩ := bind_eq_ok.1 h
    split at h
    · next w hw =>
      obtain rfl := Except.ok.inj h
      unfold Schema.requireAttribute at ha
      split at ha
      · next a' ha' =>
        obtain rfl := Except.ok.inj ha
        exact ⟨a', ha', exact_of_bindColumn hw⟩
      · cases ha
    · cases h

theorem gives_of_condition {t : Term} {condition : Condition}
    (h : Query.condition T s c t = .ok condition) : Gives T s c t condition := by
  refine ⟨condition_column h, ?_⟩
  cases conjunct_of_condition h with
  | isNull field => exact .nil
  | isNotNull field => exact .nil
  | compare hv ho hb =>
    rw [Term.given, if_neg hv]
    exact .cons (stands_of_bindTerm hb) .nil
  | within hne hnull hbs => exact hbs.imp fun v b => stands_of_bindTerm

theorem Stands.kept {v : FieldValue} {b : Value} (h : Stands T s c v b) : b.Kept := by
  unfold Stands at h
  split_ifs at h
  · obtain ⟨id, -, hholds⟩ := h
    exact hholds.kept
  · obtain ⟨a, -, hexact⟩ := h
    exact hexact.kept

theorem Gives.kept {t : Term} {condition : Condition} (h : Gives T s c t condition) :
    ∀ b ∈ condition.values, b.Kept := by
  intro b hb
  obtain ⟨v, -, hstands⟩ := exists_of_mem_right h.2 hb
  exact hstands.kept

/-- The conditions of a query, each with the column and the term that it is from. -/
theorem Compiles.gives {t : Target} {q : Query} {cs : List Condition} (h : q.Compiles t cs) :
    List.Forall₂ (fun (p : IndexColumn × Term) condition =>
      Gives t.typeName t.schema p.1 p.2 condition)
      ((conditionColumns t.index).flatMap fun c => (termsFor q.terms c.name).map (c, ·)) cs :=
  (mapM_eq_ok.1 h.conditions).imp fun _ _ => gives_of_condition

end

end Query

/-! ### Counts -/

/-- The counts of a plan: limits and offsets can be bound, a page has one row more fetched than it shows, and
the offset behind it is the sum of its own and its size. -/
structure Plan.Counts (plan : Plan) (token : Option String) (pageSize : Option UInt64) : Prop where
  limit_le : ∀ l ∈ plan.select.limit, l.toNat ≤ 2 ^ 63 - 1
  offset_le : ∀ o ∈ plan.select.offset, o.toNat ≤ 2 ^ 63 - 1
  skipped : plan.select.offset.elim 0 UInt64.toNat = plan.offset.toNat
  paged : plan.lookup = false → Query.offsetOf token = .ok plan.offset ∧ plan.pageSize = pageSize
  single : plan.lookup = true → token = none ∧ plan.offset = 0 ∧ plan.pageSize = none
  fetched : ∀ size ∈ plan.pageSize, ∃ l ∈ plan.select.limit, l.toNat = size.toNat + 1
  sum : ∀ size ∈ plan.pageSize,
    (Page.addSaturating plan.offset size).toNat = plan.offset.toNat + size.toNat

theorem lookupLimit_le (bound : UInt64) : (Query.lookupLimit bound).toNat ≤ 2 ^ 63 - 1 := by
  unfold Query.lookupLimit
  split_ifs with hzero hle
  · decide
  · exact UInt64.le_iff_toNat_le.1 hle
  · decide

theorem offset_lt_of_offsetOf {token : Option String} {offset : UInt64}
    (h : Query.offsetOf token = .ok offset) : offset.toNat < 2 ^ 63 := by
  cases token with
  | none =>
    obtain rfl := Except.ok.inj h
    decide
  | some t => exact (Query.offsetOf_eq_ok_iff.1 h).1

theorem pageLimit_le {offset : UInt64} {size limit : Option UInt64}
    (h : Query.pageLimit offset size = .ok limit) : ∀ l ∈ limit, l.toNat ≤ 2 ^ 63 - 1 := by
  rintro l rfl
  cases size with
  | none =>
    -- an offset alone comes with the largest limit
    unfold Query.pageLimit at h
    simp only [Except.ok.injEq] at h
    split_ifs at h
    obtain rfl := Option.some.inj h
    decide
  | some size =>
    obtain ⟨-, hlt, hl⟩ := pageLimit_some_eq_ok.1 h
    obtain rfl := Option.some.inj hl
    rw [UInt64.toNat_add, UInt64.toNat_one]
    omega

theorem counts_of_paginate {select : Select} {token : Option String} {pageSize : Option UInt64}
    {plan : Plan} (h : Query.paginate select token pageSize = .ok plan) :
    plan.Counts token pageSize := by
  obtain ⟨offset, limit, hoffset, hlimit, rfl⟩ := paginate_eq_ok h
  have hsmall := offset_lt_of_offsetOf hoffset
  refine ⟨pageLimit_le hlimit, ?_, toNat_elim_ite offset, fun _ => ⟨hoffset, rfl⟩, nofun, ?_, ?_⟩
  · intro o ho
    simp only at ho
    split_ifs at ho
    · obtain rfl := Option.some.inj ho
      omega
    · cases ho
  · rintro size rfl
    obtain ⟨-, hlt, rfl⟩ := pageLimit_some_eq_ok.1 hlimit
    refine ⟨size + 1, rfl, ?_⟩
    rw [UInt64.toNat_add, UInt64.toNat_one]
    omega
  · rintro size rfl
    obtain ⟨-, hlt, -⟩ := pageLimit_some_eq_ok.1 hlimit
    -- neither is as large as half of all words
    have hsum : offset.toNat + size.toNat < 0x10000000000000000 := by omega
    show (Page.addSaturating offset size).toNat = offset.toNat + size.toNat
    rw [Page.addSaturating, if_pos hsum, UInt64.toNat_add, Nat.mod_eq_of_lt hsum]

/-- A compiled query reads the record numbers in the table of its index, whatever page it is for. -/
theorem exists_base_of_compile {t : Target} {q : Query} {limit : UInt64} {plan : Plan}
    (h : q.compile t limit = .ok plan) : ∃ cs, q.Compiles t cs ∧
      plan.select.column = idColumn ∧ plan.select.table = t.names.table ∧
      plan.select.conditions = Query.quarantineFilter q.includeQuarantined ++ cs := by
  obtain ⟨cs, hq, ⟨-, -, -, rfl⟩ | hpaginate⟩ := compile_eq_ok h
  · exact ⟨cs, hq, rfl, rfl, rfl⟩
  · obtain ⟨offset, limit, -, -, rfl⟩ := paginate_eq_ok hpaginate
    exact ⟨cs, hq, rfl, rfl, rfl⟩

theorem counts_of_compile {t : Target} {q : Query} {limit : UInt64} {plan : Plan}
    (h : q.compile t limit = .ok plan) : plan.Counts q.token q.pageSize := by
  obtain ⟨cs, -, ⟨-, -, htoken, rfl⟩ | hpaginate⟩ := compile_eq_ok h
  · refine ⟨?_, nofun, rfl, nofun, fun _ => ⟨htoken, rfl, rfl⟩, nofun, nofun⟩
    rintro l hl
    obtain rfl := Option.some.inj hl
    exact lookupLimit_le limit
  · exact counts_of_paginate hpaginate

/-- A statement keeps its integers when its conditions do and its counts can be bound. -/
theorem Plan.Counts.kept {plan : Plan} {token : Option String} {pageSize : Option UInt64}
    (h : plan.Counts token pageSize)
    (hconditions : ∀ condition ∈ plan.select.conditions, ∀ b ∈ condition.values, b.Kept) :
    Statement.Kept (.select plan.select) := by
  have hcount {count : Option UInt64} (hle : ∀ k ∈ count, k.toNat ≤ 2 ^ 63 - 1) :
      ∀ b ∈ countValues count, b.Kept := by
    intro b hb
    obtain ⟨k, hk, rfl⟩ := List.mem_map.1 hb
    exact Value.kept_bigUnsigned_iff.2 (hle k (Option.mem_toList.1 hk))
  intro d b hb
  rw [Statement.prepared, (Statement.select plan.select).writes.values] at hb
  -- what is bound are the values of the conditions, the limit and the offset
  rcases List.mem_append.1 hb with hb | hb
  · rcases List.mem_append.1 hb with hb | hb
    · obtain ⟨condition, hcondition, hb⟩ := List.mem_flatMap.1 hb
      exact hconditions condition hcondition b hb
    · exact hcount h.limit_le b hb
  · exact hcount h.offset_le b hb

theorem kept_of_compile {t : Target} {q : Query} {limit : UInt64} {plan : Plan}
    (h : q.compile t limit = .ok plan) : Statement.Kept (.select plan.select) := by
  obtain ⟨cs, hq, -, -, hconditions⟩ := exists_base_of_compile h
  refine (counts_of_compile h).kept fun condition hcondition => ?_
  rw [hconditions] at hcondition
  rcases List.mem_append.1 hcondition with hfilter | hcondition
  · unfold Query.quarantineFilter at hfilter
    split at hfilter
    · cases hfilter
    · rw [List.mem_singleton.1 hfilter]
      intro b hb
      rw [List.mem_singleton.1 hb]
      exact kept_ofText flagNo
  · obtain ⟨p, -, hgives⟩ := exists_of_mem_right hq.gives hcondition
    exact hgives.kept

theorem kept_of_scan {n : UInt32} {d : Direction} {token : Option String} {pageSize : Option UInt64}
    {includeQuarantined : Bool} {plan : Plan}
    (h : Scan.compile n d token pageSize includeQuarantined = .ok plan) :
    Statement.Kept (.select plan.select) := by
  have hcounts := counts_of_paginate h
  obtain ⟨offset, limit, -, -, rfl⟩ := paginate_eq_ok h
  refine hcounts.kept fun condition hcondition => ?_
  -- the number of the type has no sign, but a signed word holds every word of 32 bits
  have htype : (Value.unsigned (some n)).Kept := Value.kept_of_signed nofun
  rcases List.mem_cons.1 hcondition with rfl | hcondition
  · intro b hb
    rwa [List.mem_singleton.1 hb]
  · rw [List.mem_singleton.1 hcondition]
    intro b hb
    split at hb
    · rw [List.mem_singleton.1 hb]
      exact kept_ofText flagYes
    · rw [List.mem_singleton.1 hb]
      exact kept_ofText flagNo

end RecordStore
