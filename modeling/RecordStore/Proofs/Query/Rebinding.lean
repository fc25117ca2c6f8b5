import Mathlib
import RecordStore.Proofs.Index.Failures
import RecordStore.Proofs.Query.Arrangement
import RecordStore.Proofs.Query.Paths

/-!
Queries whose record numbers are bound alike.  Of a scalar that stands for a record number a query only
takes the value that it is bound as, so a term can be exchanged for another with the same bound values;
and a query with a scalar that is bound as none is refused.
-/
namespace RecordStore
open Sql Database Index

/-- Terms that are the same, or ask for the record number with scalars that are related. -/
inductive Term.Related (R : FieldValue → FieldValue → Prop) : Term → Term → Prop
  | refl (t : Term) : Related R t t
  | scalar {o : Operator} {v u : FieldValue} : R v u →
    Related R ⟨idAttribute, o, .scalar v⟩ ⟨idAttribute, o, .scalar u⟩
  | list {o : Operator} {vs us : List FieldValue} : List.Forall₂ R vs us →
    Related R ⟨idAttribute, o, .list vs⟩ ⟨idAttribute, o, .list us⟩

/-- The scalars of an operand. -/
def Operand.values : Operand → List FieldValue
  | .scalar v => [v]
  | .list vs => vs

/-- Scalars that are bound alike as record numbers. -/
def BoundAlike (T : String) (v u : FieldValue) : Prop :=
  v.isNull = u.isNull ∧ bindId T v = bindId T u

theorem FieldValue.isNull_eq_true {v : FieldValue} : v.isNull = true ↔ v = .null := by
  cases v <;> simp [isNull]

section
variable {R : FieldValue → FieldValue → Prop} {t t' : Term}

theorem Term.Related.field_eq (h : t.Related R t') : t.field = t'.field := by
  cases h <;> rfl

theorem Term.Related.operator_eq (h : t.Related R t') : t.operator = t'.operator := by
  cases h <;> rfl

end

/-! ### Terms that are bound alike -/

namespace Query
variable {T : String} {S : Schema} {c : IndexColumn} {t t' : Term} {ts us : List Term}
  {ix : IndexDefinition}

theorem bindTerm_congr (hc : c.isId = true) {field : String} {v u : FieldValue}
    (h : BoundAlike T v u) : bindTerm T S c field v = bindTerm T S c field u := by
  rw [bindTerm, bindTerm, if_pos hc, if_pos hc, h.2]

theorem any_isNull_congr {vs us : List FieldValue} (h : List.Forall₂ (BoundAlike T) vs us) :
    vs.any FieldValue.isNull = us.any FieldValue.isNull := by
  induction h with
  | nil => rfl
  | cons h _ ih => rw [List.any_cons, List.any_cons, h.1, ih]

theorem condition_eq_of_scalar {field : String} {o : Operator} {v : FieldValue}
    (hv : v.isNull = false) : Query.condition T S c ⟨field, o, .scalar v⟩ =
      match comparison? o with
      | none => .error (.queryValidation (.term field .malformedList))
      | some op => do
        let b ← bindTerm T S c field v
        return .compare (physicalColumn c) op b := by
  cases v with
  | null => cases hv
  | _ => cases o <;> rfl

/-- Terms that are bound alike have one condition. -/
theorem condition_congr (hc : c.name = t.field) (h : t.Related (BoundAlike T) t') :
    Query.condition T S c t = Query.condition T S c t' := by
  cases h with
  | refl => rfl
  | @scalar o v u h =>
    have hid : c.isId = true := beq_iff_eq.2 hc
    -- a null is never bound; of anything else only the bound value is left in the condition
    cases hv : v.isNull with
    | true =>
      rw [FieldValue.isNull_eq_true.1 hv, FieldValue.isNull_eq_true.1 (h.1.symm.trans hv)]
    | false =>
      rw [condition_eq_of_scalar hv, condition_eq_of_scalar (h.1.symm.trans hv),
        bindTerm_congr hid h]
  | @list o vs us h =>
    have hid : c.isId = true := beq_iff_eq.2 hc
    have hempty : vs.isEmpty = us.isEmpty := by cases h <;> rfl
    have hnull := any_isNull_congr h
    have hbound : vs.mapM (bindTerm T S c idAttribute) = us.mapM (bindTerm T S c idAttribute) :=
      mapM_congr_of_forall₂ (h.imp fun _ _ => bindTerm_congr hid)
    cases o with
    | within => simp only [Query.condition, comparison?, hempty, hnull, hbound]
    | _ => rfl

theorem bindsValue_congr (h : t.Related (BoundAlike T) t') : t.bindsValue = t'.bindsValue := by
  cases h with
  | refl => rfl
  | @scalar o v u h => cases o <;> simp [Term.bindsValue, h.1]
  | @list o vs us h => cases o <;> rfl

/-- Terms on one field are related to those on the same field. -/
theorem forall₂_termsFor {R : FieldValue → FieldValue → Prop}
    (h : List.Forall₂ (Term.Related R) ts us) (field : String) :
    List.Forall₂ (fun t u => t.field = field ∧ t.Related R u) (termsFor ts field)
      (termsFor us field) := by
  induction h with
  | nil => exact .nil
  | @cons t u ts us h _ ih =>
    -- related terms are on one field, so the filter keeps both of them or none
    have hfield := h.field_eq
    unfold termsFor at ih ⊢
    by_cases hname : t.field = field
    · rw [List.filter_cons_of_pos (by simpa using hname),
        List.filter_cons_of_pos (by simpa [hfield] using hname)]
      exact .cons ⟨hname, h⟩ ih
    · rw [List.filter_cons_of_neg (by simpa using hname),
        List.filter_cons_of_neg (by simpa [hfield] using hname)]
      exact ih

theorem strayTerm?_congr {R : FieldValue → FieldValue → Prop}
    (h : List.Forall₂ (Term.Related R) ts us) :
    (strayTerm? ix ts).map (·.field) = (strayTerm? ix us).map (·.field) := by
  induction h with
  | nil => rfl
  | @cons t u ts us h _ ih =>
    have hfield := h.field_eq
    unfold strayTerm? at ih ⊢
    rw [List.find?_cons, List.find?_cons, hfield]
    split
    · simp [hfield]
    · exact ih

theorem unboundColumn?_congr {R : FieldValue → FieldValue → Prop}
    (h : List.Forall₂ (Term.Related R) ts us) : unboundColumn? ix ts = unboundColumn? ix us := by
  have hcount (field : String) : (termsFor ts field).countP (·.operator == .eq) =
      (termsFor us field).countP (·.operator == .eq) := by
    have hall := forall₂_termsFor h field
    generalize termsFor ts field = xs at hall
    generalize termsFor us field = ys at hall
    induction hall with
    | nil => rfl
    | cons h _ ih => rw [List.countP_cons, List.countP_cons, ih, h.2.operator_eq]
  unfold unboundColumn?
  simp only [hcount]

theorem bindsAll_congr (h : List.Forall₂ (Term.Related (BoundAlike T)) ts us) :
    bindsAll ix ts = bindsAll ix us := by
  unfold bindsAll
  congr 1
  funext c
  have hall := forall₂_termsFor h c.name
  generalize termsFor ts c.name = xs at hall
  generalize termsFor us c.name = ys at hall
  -- a column is bound only if it has one term, so no induction is needed
  cases hall with
  | nil => rfl
  | cons h hrest =>
    cases hrest with
    | nil => exact bindsValue_congr h.2
    | cons => rfl

theorem conditions_congr {target : Target} {q : Query} (hT : target.typeName = T)
    (h : List.Forall₂ (Term.Related (BoundAlike T)) q.terms us) :
    q.conditions target = ({ q with terms := us } : Query).conditions target := by
  subst hT
  have hcolumns : List.Forall₂ Eq (conditionColumns target.index) (conditionColumns target.index) :=
    List.forall₂_same.2 fun _ _ => rfl
  refine mapM_congr_of_forall₂ (List.rel_flatMap hcolumns ?_)
  rintro c _ rfl
  rw [List.forall₂_map_left_iff, List.forall₂_map_right_iff]
  exact (forall₂_termsFor h c.name).imp fun t u hu => condition_congr hu.1.symm hu.2

/-- A query has the plan, or the fault, of any other whose record numbers are bound alike. -/
theorem compile_congr {target : Target} {q : Query} (hT : target.typeName = T)
    (h : List.Forall₂ (Term.Related (BoundAlike T)) q.terms us) (limit : UInt64) :
    q.compile target limit = ({ q with terms := us } : Query).compile target limit := by
  have hstray : (strayTerm? target.index q.terms).map (·.field) =
      (strayTerm? target.index us).map (·.field) := strayTerm?_congr h
  unfold compile
  rw [conditions_congr hT h, unboundColumn?_congr h, bindsAll_congr h]
  -- the error of a stray term tells its field alone, which the other stray term shares
  cases hts : strayTerm? target.index q.terms with
  | none =>
    rw [hts] at hstray
    rw [Option.map_eq_none_iff.1 hstray.symm]
  | some t =>
    rw [hts] at hstray
    obtain ⟨u, hu, hfield⟩ := Option.map_eq_some_iff.1 hstray.symm
    rw [hu]
    simp only [hfield]

end Query

/-! ### Scalars that cannot be bound -/

section
variable {t : Term} {target : Target} {q : Query} {v : FieldValue}

/-- A query does not compile when a scalar that is asked for is no number of a record. -/
theorem Query.not_compiles_of_bindId (ht : t ∈ q.terms) (hfield : t.field = idAttribute)
    (hv : v ∈ t.operand.values) (hnull : v ≠ .null)
    (hbind : ∀ b, bindId target.typeName v ≠ .ok b) (cs : List Condition) :
    ¬ q.Compiles target cs := by
  intro hq
  -- every index has a column for the record number, declared or not, and the term a condition on it
  obtain ⟨c, hc, hname⟩ := exists_idColumn target.index
  have hpair := mem_termPairs.2 ⟨hc, ht, hfield.trans hname.symm⟩
  obtain ⟨condition, -, hcondition⟩ :=
    exists_of_mem_right (mapM_eq_ok.1 hq.conditions).flip hpair
  have hbound {field : String} {b : Value}
      (h : bindTerm target.typeName target.schema c field v = .ok b) : False := by
    rw [bindTerm, if_pos (show c.isId = true from beq_iff_eq.2 hname)] at h
    split at h
    · next b' hb => exact hbind b' hb
    · cases h
  cases conjunct_of_condition hcondition with
  | isNull | isNotNull => exact hnull (List.mem_singleton.1 hv)
  | compare _ _ hb =>
    obtain rfl := List.mem_singleton.1 hv
    exact hbound hb
  | within _ _ hbs =>
    obtain ⟨b, -, hb⟩ := exists_of_mem_right hbs.flip hv
    exact hbound hb

/-- Whatever is wrong with the terms of a query, it is the query that is refused; its token is not
looked at. -/
theorem Query.exists_fault_of_not_compiles (hix : target.index ∈ target.schema.indexes)
    (h : ∀ cs, ¬ q.Compiles target cs) :
    ∃ f, ∀ limit, q.compile target limit = .error (.queryValidation f) := by
  rcases q.compiles_or target with ⟨cs, hq⟩ | ⟨e, he⟩
  · exact absurd hq (h cs)
  · cases failsOnly_compile hix _ _ _ (he q.direction none none 0) with
    | query => exact ⟨_, he q.direction q.token q.pageSize⟩
    | cursor htoken => cases htoken

end

section
variable {T : String} {S : Schema} {q : Query} {terms : List Term}

/-- So it has the page of the other, too. -/
theorem Database.queryIndex_related {db : Database} {settings : StoreSettings}
    (h : List.Forall₂ (Term.Related (BoundAlike T)) q.terms terms) (index : String) :
    db.queryIndex settings T S index q =
      db.queryIndex settings T S index { q with terms := terms } := by
  have hcompile (ix : IndexDefinition) (names : Names) :
      q.compile ⟨T, S, ix, names⟩ settings.lookupLimit =
        ({ q with terms := terms } : Query).compile ⟨T, S, ix, names⟩ settings.lookupLimit :=
    Query.compile_congr rfl h settings.lookupLimit
  unfold queryIndex
  simp only [hcompile]

end

end RecordStore
