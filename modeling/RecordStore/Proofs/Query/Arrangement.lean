import Mathlib
import RecordStore.Proofs.Query.Correct
import RecordStore.Proofs.Sql.Statements

/-!
The order of the conditions of a compiled query.  They are collected column by column, which comes to a
stable sort of the terms: each term becomes one condition, in the place of its field in the index, and
its values are bound where the condition stands.
-/
namespace RecordStore
open Sql Index

namespace IndexDefinition

/-- The place of a field among the declared columns; a field that is not declared comes last. -/
def position (ix : IndexDefinition) (field : String) : Nat :=
  (ix.columns.map (·.name)).idxOf field

/-- The column that a term on a field is about. -/
def columnOf (ix : IndexDefinition) (field : String) : IndexColumn :=
  (ix.column? field).getD .id

end IndexDefinition

namespace Query

/-- Terms in the order of the columns of an index, those on one field in the order they have. -/
def arranged (ix : IndexDefinition) (ts : List Term) : List Term :=
  ts.mergeSort fun t u => decide (ix.position t.field ≤ ix.position u.field)

/-- The condition that a term becomes on a column. -/
inductive Conjunct (T : String) (s : Schema) (c : IndexColumn) : Term → Condition → Prop
  | isNull (field : String) :
    Conjunct T s c ⟨field, .eq, .scalar .null⟩ (.isNull (physicalColumn c))
  | isNotNull (field : String) :
    Conjunct T s c ⟨field, .ne, .scalar .null⟩ (.isNotNull (physicalColumn c))
  | compare {field : String} {o : Operator} {op : Comparison} {v : FieldValue} {b : Value} :
    v ≠ .null → comparison? o = some op → bindTerm T s c field v = .ok b →
      Conjunct T s c ⟨field, o, .scalar v⟩ (.compare (physicalColumn c) op b)
  | within {field : String} {vs : List FieldValue} {bs : List Value} :
    vs ≠ [] → .null ∉ vs → List.Forall₂ (fun v b => bindTerm T s c field v = .ok b) vs bs →
      Conjunct T s c ⟨field, .within, .list vs⟩ (.within (physicalColumn c) bs)

end Query

/-! ### Stable sorting -/

section
variable {α κ : Type} (key : α → κ) (place : κ → Nat)

theorem pairwise_mergeSort_place (xs : List α) :
    (xs.mergeSort fun x y => decide (place (key x) ≤ place (key y))).Pairwise
      fun x y => place (key x) ≤ place (key y) := by
  have hsorted := @List.pairwise_mergeSort α (fun x y => decide (place (key x) ≤ place (key y)))
    (fun x y z hxy hyz => decide_eq_true
      ((of_decide_eq_true hxy).trans (of_decide_eq_true hyz)))
    (fun x y => by simpa using le_total (place (key x)) (place (key y))) xs
  exact hsorted.imp of_decide_eq_true

variable [BEq κ] [LawfulBEq κ]

/-- Two lists that are in the order of the same places are equal when they have the same elements of each
key, in the same order. -/
theorem eq_of_filter_eq :
    ∀ {xs ys : List α}, (∀ x ∈ xs, ∀ y ∈ xs, place (key x) = place (key y) → key x = key y) →
      xs.Pairwise (fun x y => place (key x) ≤ place (key y)) →
      ys.Pairwise (fun x y => place (key x) ≤ place (key y)) →
      (∀ k, xs.filter (key · == k) = ys.filter (key · == k)) → xs = ys
  | [], ys, _, _, _, hfilter => by
    refine (List.eq_nil_iff_forall_not_mem.2 fun y hy => ?_).symm
    have hmem : y ∈ ys.filter (key · == key y) := List.mem_filter.2 ⟨hy, beq_self_eq_true _⟩
    rw [← hfilter] at hmem
    cases hmem
  | x :: xs, ys, hinj, hxs, hys, hfilter => by
    have hmem (z : α) : z ∈ x :: xs ↔ z ∈ ys := by
      have hself (zs : List α) : z ∈ zs ↔ z ∈ zs.filter (key · == key z) := by simp
      rw [hself (x :: xs), hfilter, ← hself]
    cases ys with
    | nil => exact absurd ((hmem x).1 List.mem_cons_self) List.not_mem_nil
    | cons y ys =>
      have hxs' := List.pairwise_cons.1 hxs
      have hys' := List.pairwise_cons.1 hys
      -- the first elements have one key, since neither comes after the other
      have hkey : key x = key y := by
        refine hinj x List.mem_cons_self y ((hmem y).2 List.mem_cons_self) (le_antisymm ?_ ?_)
        · rcases List.mem_cons.1 ((hmem y).2 List.mem_cons_self) with rfl | hy
          · exact le_rfl
          · exact hxs'.1 y hy
        · rcases List.mem_cons.1 ((hmem x).1 List.mem_cons_self) with rfl | hx
          · exact le_rfl
          · exact hys'.1 x hx
      have hhead := hfilter (key x)
      rw [List.filter_cons_of_pos (by simp), List.filter_cons_of_pos (by simp [hkey])] at hhead
      obtain rfl := (List.cons.inj hhead).1
      rw [eq_of_filter_eq (fun a ha b hb => hinj a (List.mem_cons_of_mem _ ha) b
        (List.mem_cons_of_mem _ hb)) hxs'.2 hys'.2 fun k => ?_]
      have hrest := hfilter k
      rw [List.filter_cons, List.filter_cons] at hrest
      split_ifs at hrest with hk
      · exact (List.cons.inj hrest).2
      · exact hrest

/-- Sorting by place leaves the elements of each key in their order. -/
theorem filter_mergeSort (xs : List α) (k : κ) :
    (xs.mergeSort fun x y => decide (place (key x) ≤ place (key y))).filter (key · == k) =
      xs.filter (key · == k) := by
  have halike : (xs.filter (key · == k)).Pairwise fun x y =>
      decide (place (key x) ≤ place (key y)) = true := by
    refine List.pairwise_of_forall_mem_list fun x hx y hy => ?_
    rw [beq_iff_eq.1 (List.mem_filter.1 hx).2, beq_iff_eq.1 (List.mem_filter.1 hy).2]
    exact decide_eq_true le_rfl
  have hsub := List.sublist_mergeSort
    (fun x y z hxy hyz => decide_eq_true
      ((of_decide_eq_true hxy).trans (of_decide_eq_true hyz)))
    (fun x y => by simpa using le_total (place (key x)) (place (key y)))
    halike List.filter_sublist
  have hkept := hsub.filter (key · == k)
  simp only [List.filter_filter, Bool.and_self] at hkept
  exact (hkept.eq_of_length
    ((List.mergeSort_perm xs _).filter (key · == k)).length_eq.symm).symm

end

/-! ### Columns and fields -/

namespace Query

variable {T : String} {s : Schema} {ix : IndexDefinition} {ts us : List Term}

theorem nodup_conditionColumns (hn : (ix.columns.map (·.name)).Nodup) :
    ((conditionColumns ix).map (·.name)).Nodup := by
  unfold conditionColumns
  split
  · next hnone =>
    rw [List.map_append, List.nodup_append]
    refine ⟨hn, List.nodup_singleton _, ?_⟩
    rintro _ hname _ hid rfl
    obtain ⟨c, hc, hname⟩ := List.mem_map.1 hname
    have hother := List.find?_eq_none.1 (Option.isNone_iff_eq_none.1 hnone) c hc
    exact hother (by simpa [IndexColumn.id] using hname.trans (List.mem_singleton.1 hid))
  · exact hn

/-- The place of a field is its place among the columns of conditions. -/
theorem position_eq {field : String} (h : field ∈ (conditionColumns ix).map (·.name)) :
    ix.position field = ((conditionColumns ix).map (·.name)).idxOf field := by
  unfold IndexDefinition.position
  unfold conditionColumns at h ⊢
  split_ifs at h ⊢
  · rw [List.map_append] at h ⊢
    by_cases hdeclared : field ∈ ix.columns.map (·.name)
    · rw [List.idxOf_append_of_mem hdeclared]
    · obtain rfl := List.mem_singleton.1 ((List.mem_append.1 h).resolve_left hdeclared)
      rw [List.idxOf_append_of_notMem hdeclared, List.idxOf_of_notMem hdeclared]
      simp
  · rfl

theorem position_injOn {f g : String} (hf : f ∈ (conditionColumns ix).map (·.name))
    (hg : g ∈ (conditionColumns ix).map (·.name)) (h : ix.position f = ix.position g) : f = g := by
  rw [position_eq hf, position_eq hg] at h
  exact (List.idxOf_inj hf).1 h

theorem pairwise_position (hn : (ix.columns.map (·.name)).Nodup) :
    (conditionColumns ix).Pairwise fun c d => ix.position c.name ≤ ix.position d.name := by
  have hnames : ((conditionColumns ix).map (·.name)).Pairwise fun f g =>
      ix.position f ≤ ix.position g := by
    rw [List.pairwise_iff_getElem]
    intro i j hi hj hlt
    rw [position_eq (List.getElem_mem hi), position_eq (List.getElem_mem hj),
      (nodup_conditionColumns hn).idxOf_getElem i hi,
      (nodup_conditionColumns hn).idxOf_getElem j hj]
    exact hlt.le
  rwa [List.pairwise_map] at hnames

/-- The column of a field is the one with its name. -/
theorem columnOf_name (hn : (ix.columns.map (·.name)).Nodup) {c : IndexColumn}
    (hc : c ∈ conditionColumns ix) : ix.columnOf c.name = c := by
  have hdeclared {c : IndexColumn} (hc : c ∈ ix.columns) : ix.columnOf c.name = c := by
    obtain ⟨d, hd⟩ := Option.isSome_iff_exists.1 (List.find?_isSome
      (p := fun d : IndexColumn => d.name == c.name) |>.2 ⟨c, hc, beq_self_eq_true _⟩)
    have hname : d.name = c.name := by simpa using List.find?_some hd
    rw [IndexDefinition.columnOf, IndexDefinition.column?, hd, Option.getD_some,
      List.inj_on_of_nodup_map hn (List.mem_of_find?_eq_some hd) hc hname]
  unfold conditionColumns at hc
  split at hc
  · next hnone =>
    rcases List.mem_append.1 hc with hc | hc
    · exact hdeclared hc
    · obtain rfl := List.mem_singleton.1 hc
      rw [IndexDefinition.columnOf, show ix.column? IndexColumn.id.name = none from
        Option.isNone_iff_eq_none.1 hnone]
      rfl
  · exact hdeclared hc

/-- Every term of a query that is not stray is about a column of conditions. -/
theorem mem_names_of_stray (h : strayTerm? ix ts = none) {t : Term} (ht : t ∈ ts) :
    t.field ∈ (conditionColumns ix).map (·.name) := by
  by_cases hid : t.field = idAttribute
  · obtain ⟨c, hc, hname⟩ := exists_idColumn ix
    exact List.mem_map.2 ⟨c, hc, hname.trans hid.symm⟩
  · have hcolumn := List.find?_eq_none.1 h t ht
    simp only [bne_iff_ne, ne_eq, hid, not_false_eq_true, Bool.and_eq_true, true_and,
      Option.isNone_iff_eq_none] at hcolumn
    obtain ⟨c, hfind⟩ := Option.ne_none_iff_exists'.1 hcolumn
    refine List.mem_map.2 ⟨c, ?_, by simpa using List.find?_some hfind⟩
    unfold conditionColumns
    split
    · exact List.mem_append_left _ (List.mem_of_find?_eq_some hfind)
    · exact List.mem_of_find?_eq_some hfind

/-! ### Terms column by column -/

/-- Collecting the terms of every column leaves those on one field as they are. -/
theorem filter_flatMap_termsFor (ts : List Term) {field : String} : ∀ {cs : List IndexColumn},
    (cs.map (·.name)).Nodup → (cs.flatMap fun c => termsFor ts c.name).filter (·.field == field) =
      if field ∈ cs.map (·.name) then termsFor ts field else []
  | [], _ => rfl
  | c :: cs, hn => by
    have hn' := List.nodup_cons.1 hn
    rw [List.flatMap_cons, List.filter_append, filter_flatMap_termsFor ts hn'.2, termsFor,
      List.filter_filter]
    by_cases hname : field = c.name
    · subst hname
      rw [if_neg hn'.1, List.map_cons, if_pos List.mem_cons_self, List.append_nil]
      simp only [Bool.and_self]
      rfl
    · have hnone : (ts.filter fun t => t.field == field && t.field == c.name) = [] := by
        refine List.filter_eq_nil_iff.2 fun t _ h => hname ?_
        rw [Bool.and_eq_true, beq_iff_eq, beq_iff_eq] at h
        exact h.1.symm.trans h.2
      rw [hnone, List.nil_append, List.map_cons]
      simp only [List.mem_cons, hname, false_or]

/-- Collected column by column, the terms are sorted by the places of their fields, and no term changes
its place among those on its field. -/
theorem flatMap_termsFor (hn : (ix.columns.map (·.name)).Nodup) (hstray : strayTerm? ix ts = none) :
    ((conditionColumns ix).flatMap fun c => termsFor ts c.name) = arranged ix ts := by
  have hfield {c : IndexColumn} {t : Term} (ht : t ∈ termsFor ts c.name) : t.field = c.name :=
    beq_iff_eq.1 (List.mem_filter.1 ht).2
  refine eq_of_filter_eq Term.field ix.position ?_ ?_ ?_ fun field => ?_
  · intro t ht u hu
    obtain ⟨c, hc, ht⟩ := List.mem_flatMap.1 ht
    obtain ⟨d, hd, hu⟩ := List.mem_flatMap.1 hu
    rw [hfield ht, hfield hu]
    exact position_injOn (List.mem_map_of_mem hc) (List.mem_map_of_mem hd)
  · refine List.pairwise_flatMap.2 ⟨fun c _ => ?_, (pairwise_position hn).imp ?_⟩
    · refine List.pairwise_of_forall_mem_list fun t ht u hu => ?_
      rw [hfield ht, hfield hu]
    · intro c d hle t ht u hu
      rwa [hfield ht, hfield hu]
  · exact pairwise_mergeSort_place Term.field ix.position ts
  · rw [filter_flatMap_termsFor ts (nodup_conditionColumns hn), arranged,
      filter_mergeSort Term.field ix.position]
    split_ifs with hname
    · rfl
    · refine (List.filter_eq_nil_iff.2 fun t ht h => hname ?_).symm
      rw [← beq_iff_eq.1 h]
      exact mem_names_of_stray hstray ht

/-- The terms with their columns, in the order of their conditions. -/
theorem termPairs_eq (hn : (ix.columns.map (·.name)).Nodup) (hstray : strayTerm? ix ts = none) :
    ((conditionColumns ix).flatMap fun c => (termsFor ts c.name).map (c, ·)) =
      (arranged ix ts).map fun t => (ix.columnOf t.field, t) := by
  rw [← flatMap_termsFor hn hstray, List.map_flatMap]
  refine List.flatMap_congr fun c hc => List.map_congr_left fun t ht => ?_
  rw [beq_iff_eq.1 (List.mem_filter.1 ht).2, columnOf_name hn hc]

/-! ### Conditions -/

theorem conjunct_of_condition {c : IndexColumn} {t : Term} {condition : Condition}
    (h : Query.condition T s c t = .ok condition) : Conjunct T s c t condition := by
  obtain ⟨field, operator, operand⟩ := t
  cases operand with
  | list vs =>
    cases operator with
    | within =>
      simp only [Query.condition, comparison?] at h
      split at h
      · cases h
      · next hgood =>
        obtain ⟨bs, hbs, h⟩ := bind_eq_ok.1 h
        obtain rfl := Except.ok.inj h
        simp only [Bool.or_eq_true, List.isEmpty_iff, List.any_eq_true, not_or, not_exists,
          not_and] at hgood
        exact .within hgood.1 (fun hnull => hgood.2 _ hnull rfl) (mapM_eq_ok.1 hbs)
    | _ => cases h
  | scalar v =>
    by_cases hnull : v = .null
    · subst hnull
      cases operator with
      | eq =>
        obtain rfl := Except.ok.inj h
        exact .isNull field
      | ne =>
        obtain rfl := Except.ok.inj h
        exact .isNotNull field
      | _ => cases h
    · cases ho : comparison? operator with
      | none =>
        simp only [Query.condition, ho] at h
        cases h
      | some op =>
        obtain ⟨b, hb, rfl⟩ := condition_of_scalar hnull ho h
        exact .compare hnull ho hb

/-- Queries with the same terms on each field compile alike when they compile at all. -/
theorem Compiles.congr {t : Target} {q : Query} {cs : List Condition} (hq : q.Compiles t cs)
    (h : ∀ field, termsFor us field = termsFor q.terms field) :
    ({ q with terms := us } : Query).Compiles t cs where
  stray := by
    refine List.find?_eq_none.2 fun u hu => List.find?_eq_none.1 hq.stray u ?_
    have hmem : u ∈ termsFor us u.field := List.mem_filter.2 ⟨hu, beq_self_eq_true _⟩
    rw [h] at hmem
    exact (List.mem_filter.1 hmem).1
  unbound := by
    have hunbound := hq.unbound
    unfold unboundColumn? at hunbound ⊢
    simpa only [h] using hunbound
  conditions := by
    have hconditions := hq.conditions
    unfold Query.conditions at hconditions ⊢
    simpa only [h] using hconditions

end Query

/-! ### Compiled queries -/

/-- A statement has the filter of quarantined rows and then one condition for each term, in the order of
the index, and binds their values in the order of the conditions, those of the page last. -/
structure Arranges (T : String) (s : Schema) (ix : IndexDefinition) (q : Query) (select : Select)
    (cs : List Condition) : Prop where
  conjuncts : List.Forall₂ (fun t c => Query.Conjunct T s (ix.columnOf t.field) t c)
    (Query.arranged ix q.terms) cs
  conditions : select.conditions = Query.quarantineFilter q.includeQuarantined ++ cs
  values : boundValues select.fragments =
    (if q.includeQuarantined then [] else [.ofText flagNo]) ++ cs.flatMap (·.values) ++
      countValues select.limit ++ countValues select.offset

theorem Query.Compiles.arranges {T : String} {s : Schema} {ix : IndexDefinition} {names : Names}
    {q : Query} {cs : List Condition} (hq : q.Compiles ⟨T, s, ix, names⟩ cs)
    (hn : (ix.columns.map (·.name)).Nodup) {select : Select}
    (hselect : select.conditions = (q.base ⟨T, s, ix, names⟩ cs).conditions) :
    Arranges T s ix q select cs where
  conjuncts := by
    have hconditions := mapM_eq_ok.1 hq.conditions
    rw [termPairs_eq hn hq.stray, List.forall₂_map_left_iff] at hconditions
    exact hconditions.imp fun t c => conjunct_of_condition
  conditions := hselect
  values := by
    have hfilter : (quarantineFilter q.includeQuarantined).flatMap (·.values) =
        if q.includeQuarantined then [] else [.ofText flagNo] := by
      cases q.includeQuarantined <;> rfl
    rw [select.writes.values, Select.values, hselect, base, List.flatMap_append, hfilter]

/-- Every term of a query that compiles becomes one condition of the statement, in the order of the
index, and only the order of the terms on one field makes a difference. -/
theorem compile_arranges {T : String} {s : Schema} {ix : IndexDefinition} (hix : ix ∈ s.indexes)
    {names : Names} {q : Query} {limit : UInt64} {plan : Plan}
    (h : q.compile ⟨T, s, ix, names⟩ limit = .ok plan) :
    (∃ cs, Arranges T s ix q plan.select cs) ∧
      ∀ terms : List Term,
        (∀ field, terms.filter (·.field == field) = q.terms.filter (·.field == field)) →
          ({ q with terms := terms } : Query).compile ⟨T, s, ix, names⟩ limit = .ok plan := by
  obtain ⟨cs, hq, hplan⟩ := compile_eq_ok h
  constructor
  · have hselect : plan.select.conditions = (q.base ⟨T, s, ix, names⟩ cs).conditions := by
      rcases hplan with ⟨-, -, -, rfl⟩ | hpaginate
      · rfl
      · obtain ⟨offset, count, -, -, rfl⟩ := paginate_eq_ok hpaginate
        rfl
    exact ⟨cs, hq.arranges (s.indexSound hix).names_nodup hselect⟩
  · intro terms hterms
    have hbinds : Query.bindsAll ix terms = Query.bindsAll ix q.terms := by
      unfold Query.bindsAll Query.termsFor
      simp only [hterms]
    rw [← h, hq.compile, (hq.congr hterms).compile]
    simp only [hbinds]
    rfl

/-- Members of an age among the first ones, asked for in another order than that of the index. -/
def scatteredQuery : Query :=
  ⟨[⟨"id", .le, .scalar (.int 100)⟩, ⟨"age", .ge, .scalar (.int 7)⟩, ⟨"id", .ge, .scalar (.int 1)⟩],
    .ascending, none, none, false⟩

theorem compile_arranges_scattered :
    ∃ plan, scatteredQuery.compile ⟨"member", memberSchema, memberSchema.indexes[1],
        names "index" 1 "by_age"⟩ 2 = .ok plan ∧
      (∃ cs, Arranges "member" memberSchema memberSchema.indexes[1] scatteredQuery plan.select cs) ∧
      ({ scatteredQuery with terms := [⟨"age", .ge, .scalar (.int 7)⟩,
          ⟨"id", .le, .scalar (.int 100)⟩, ⟨"id", .ge, .scalar (.int 1)⟩] } : Query).compile
        ⟨"member", memberSchema, memberSchema.indexes[1], names "index" 1 "by_age"⟩ 2 = .ok plan := by
  obtain ⟨plan, hplan⟩ := exists_of_isOk (r := scatteredQuery.compile ⟨"member", memberSchema,
    memberSchema.indexes[1], names "index" 1 "by_age"⟩ 2) (by decide +kernel)
  obtain ⟨harranges, hcongr⟩ := compile_arranges (List.getElem_mem _) hplan
  refine ⟨plan, hplan, harranges, hcongr _ fun field => ?_⟩
  by_cases hage : "age" = field
  · subst hage
    decide
  · have hfalse : ("age" == field) = false := beq_false_of_ne hage
    simp [scatteredQuery, List.filter_cons, hfalse]

end RecordStore
