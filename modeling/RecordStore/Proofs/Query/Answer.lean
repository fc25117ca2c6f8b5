import Mathlib
import RecordStore.Store.Queries
import RecordStore.Proofs.Query.Lookup
import RecordStore.Proofs.Store.RecordSteps

/-!
The answer of a coherent database to a compiled query.  One list of records is behind all the pages of
a query, whichever token and size they are asked with, and behind its lookups.
-/
namespace RecordStore
open Sql Database Index

attribute [local irreducible] tableName indexName

/-! ### Compiling -/

theorem paginate_eq_ok {select : Select} {token : Option String} {pageSize : Option UInt64}
    {plan : Plan} (h : Query.paginate select token pageSize = .ok plan) :
    ∃ offset limit, Query.offsetOf token = .ok offset ∧
      Query.pageLimit offset pageSize = .ok limit ∧
      plan = ⟨{ select with limit := limit, offset := if 0 < offset then some offset else none },
        offset, pageSize, false⟩ := by
  obtain ⟨offset, hoffset, h⟩ := bind_eq_ok.1 h
  obtain ⟨limit, hlimit, h⟩ := bind_eq_ok.1 h
  exact ⟨offset, limit, hoffset, hlimit, (Except.ok.inj h).symm⟩

/-- A compiled query is a lookup, or its sorted statement cut to a page. -/
theorem compile_eq_ok {t : Target} {q : Query} {limit : UInt64} {plan : Plan}
    (h : q.compile t limit = .ok plan) : ∃ cs, q.Compiles t cs ∧
      (t.index.unique = true ∧ Query.bindsAll t.index q.terms = true ∧ q.token = none ∧
          plan = ⟨{ q.base t cs with limit := some (Query.lookupLimit limit) }, 0, none, true⟩ ∨
        Query.paginate (q.sorted t cs) q.token q.pageSize = .ok plan) := by
  unfold Query.compile at h
  cases hstray : Query.strayTerm? t.index q.terms with
  | some term => rw [hstray] at h; cases h
  | none =>
    cases hunbound : Query.unboundColumn? t.index q.terms with
    | some c => rw [hstray, hunbound] at h; cases h
    | none =>
      rw [hstray, hunbound] at h
      obtain ⟨cs, hcs, h⟩ := bind_eq_ok.1 h
      refine ⟨cs, ⟨hstray, hunbound, hcs⟩, ?_⟩
      simp only at h
      split at h
      · next hlookup =>
        simp only [Bool.and_eq_true, Option.isNone_iff_eq_none] at hlookup
        exact .inl ⟨hlookup.1.1, hlookup.2, hlookup.1.2, (Except.ok.inj h).symm⟩
      · exact .inr h

/-! ### Names in the statement of a query -/

section
variable {stem T : String} {n : UInt32} {s : Schema} {ix : IndexDefinition} {q : Query}
  {cs : List Condition}

theorem condition_column {c : IndexColumn} {term : Term} {condition : Condition}
    (h : Query.condition T s c term = .ok condition) :
    condition.column = Query.physicalColumn c := by
  unfold Query.condition at h
  simp only at h
  split at h
  · split at h
    · cases h
    · obtain ⟨ws, -, h⟩ := bind_eq_ok.1 h
      obtain rfl := Except.ok.inj h
      rfl
  · cases h
  · cases h
  · obtain rfl := Except.ok.inj h
    rfl
  · obtain rfl := Except.ok.inj h
    rfl
  · cases h
  · obtain ⟨b, -, h⟩ := bind_eq_ok.1 h
    obtain rfl := Except.ok.inj h
    rfl

/-- The column that terms are about is one of the table. -/
theorem physicalColumn_mem {c : IndexColumn} (s : Schema) (hc : c ∈ Query.conditionColumns ix) :
    Query.physicalColumn c ∈ (columnSpecs s ix).map (·.name) := by
  rw [columnSpecs_names, Query.physicalColumn]
  rcases mem_conditionColumns hc with hid | hvalue
  · rw [if_pos hid]
    exact List.mem_cons_self
  · have hid : ¬ c.isId = true := by simpa using (List.mem_filter.1 hvalue).2
    rw [if_neg hid]
    exact List.mem_cons_of_mem _ (List.mem_append_left _
      (List.mem_map_of_mem (f := fun c : IndexColumn => columnName c.name) hvalue))

/-- All conditions of a query are about columns of the table of its index. -/
theorem column_mem_of_base (hq : q.Compiles ⟨T, s, ix, names stem n ix.name⟩ cs)
    {condition : Condition}
    (hc : condition ∈ (q.base ⟨T, s, ix, names stem n ix.name⟩ cs).conditions) :
    condition.column ∈ (columnSpecs s ix).map (·.name) := by
  rcases List.mem_append.1 hc with hc | hc
  · -- the filter is about the flag of quarantined records
    have hcolumn : condition.column = quarantinedColumn := by
      unfold Query.quarantineFilter at hc
      split at hc
      · cases hc
      · rw [List.mem_singleton.1 hc]
        rfl
    rw [hcolumn, columnSpecs_names]
    simp
  · obtain ⟨p, hp, hcondition⟩ := exists_of_mem_right (mapM_eq_ok.1 hq.conditions) hc
    rw [condition_column hcondition]
    exact physicalColumn_mem s (mem_termPairs.1 hp).1

/-- A statement that reads the table of an index by its own columns can be read itself. -/
theorem readable_of_base (hq : q.Compiles ⟨T, s, ix, names stem n ix.name⟩ cs)
    (hr : readNames (tableName stem n ix.name :: (columnSpecs s ix).map (·.name)) = .ok ())
    {select : Select} (htable : select.table = tableName stem n ix.name)
    (hcolumn : select.column = idColumn)
    (hconditions : select.conditions = (q.base ⟨T, s, ix, names stem n ix.name⟩ cs).conditions)
    (horder : ∀ k ∈ select.order, k.column ∈ sortColumns ix) :
    ∀ name ∈ namesOf select, readable name = true := by
  rw [readNames_eq_ok] at hr
  have hknown (name : String) (h : name ∈ (columnSpecs s ix).map (·.name)) :
      readable name = true := hr name (List.mem_cons_of_mem _ h)
  have hid : idColumn ∈ (columnSpecs s ix).map (·.name) := by
    rw [columnSpecs_names]
    exact List.mem_cons_self
  intro name hname
  rw [namesOf, htable, hcolumn, hconditions] at hname
  rcases List.mem_cons.1 hname with rfl | hname
  · exact hr _ List.mem_cons_self
  rcases List.mem_append.1 hname with hname | hname
  · rcases List.mem_cons.1 hname with rfl | hname
    · exact hknown _ hid
    · obtain ⟨condition, hcondition, rfl⟩ := List.mem_map.1 hname
      exact hknown _ (column_mem_of_base hq hcondition)
  · obtain ⟨k, hk, rfl⟩ := List.mem_map.1 hname
    refine hknown _ ?_
    rcases List.mem_append.1 (horder k hk) with hvalue | hvalue
    · rw [columnSpecs_names]
      exact List.mem_cons_of_mem _ (List.mem_append_left _ hvalue)
    · rw [List.mem_singleton.1 hvalue]
      exact hid

/-! ### Selecting from the table of an index -/

/-- The table of an index is filled with the records of its type.  Where names of indexes have one
hash the table may be that of another index, and then there are no records. -/
theorem TypeHolds.exists_table {db : Database} (h : TypeHolds stem n s db) (hix : ix ∈ s.indexes) :
    ∃ t, db.table? (tableName stem n ix.name) = some t ∧
      (s.Apart ∧ Shaped s ix t ∧ Filled s ix t (db.liveRecords n) ∨
        db.liveRecords n = [] ∧ t.rows = []) := by
  obtain ⟨t, ht, ⟨jx, hjx, hhash, hshaped⟩, hfilled⟩ := h.tables ix hix
  refine ⟨t, ht, ?_⟩
  rcases h.apart with hs | hnil
  · obtain rfl := hs.eq_of_hash hjx hix hhash
    exact .inl ⟨hs, hshaped, hfilled⟩
  · refine .inr ⟨hnil, ?_⟩
    rw [hnil, Filled, List.map_nil, List.perm_nil, List.map_eq_nil_iff] at hfilled
    exact hfilled

/-- What a statement on the table of an index finds is read as integers. -/
theorem select_index {db : Database} {t : Table} (ht : db.table? (tableName stem n ix.name) = some t)
    (hr : readNames (tableName stem n ix.name :: (columnSpecs s ix).map (·.name)) = .ok ())
    (hq : q.Compiles ⟨T, s, ix, names stem n ix.name⟩ cs) (order : List SortKey)
    (horder : ∀ k ∈ order, k.column ∈ sortColumns ix) {limit offset : Option UInt64}
    {ns : List Int64}
    (hcells : (t.pick (t.ordered (db.indexesOf (tableName stem n ix.name))
      { q.base ⟨T, s, ix, names stem n ix.name⟩ cs with
        order := order
        limit := limit
        offset := offset })).map (t.source idColumn).cell = ns.map .integer) :
    db.select { q.base ⟨T, s, ix, names stem n ix.name⟩ cs with
      order := order
      limit := limit
      offset := offset } = .ok ns :=
  select_of_table (tableName_ne_recordTable stem n ix.name) ht
    (readable_of_base hq hr rfl rfl rfl horder) hcells

/-- Nothing but the columns of a unique index is kept unique beside the record number. -/
theorem uniquesOf_of_indexesOf {db : Database} {x : String}
    (h : db.indexesOf x = [indexObject stem n ix]) : db.uniquesOf x = uniquesFor ix := by
  rw [Database.uniquesOf, h, uniquesFor]
  cases hu : ix.unique <;> simp [indexObject, indexKeys, hu, valueNames, Function.comp_def]

theorem TypeHolds.uniquesOf {db : Database} (h : TypeHolds stem n s db) (hs : s.Apart)
    (hix : ix ∈ s.indexes) : db.uniquesOf (tableName stem n ix.name) = uniquesFor ix :=
  uniquesOf_of_indexesOf (h.objects hs ix hix)

/-- The rows of the table of a unique index differ in its columns. -/
theorem Coherent.distinctBy {accepted : Record → Prop} {db : Database}
    (h : Coherent stem accepted db) (hp : Published db T n s) (hs : s.Apart) (hix : ix ∈ s.indexes)
    (hunique : ix.unique = true) {t : Table} (ht : db.table? (tableName stem n ix.name) = some t) :
    t.distinctBy (valueNames ix) t.rows = true := by
  obtain ⟨hmem, hname⟩ := mem_of_table? ht
  refine h.keyed.keys t hmem _ (List.mem_cons_of_mem _ ?_)
  rw [uniquesOf_congr db hname, (h.holds T n s hp).uniquesOf hs hix, uniquesFor, if_pos hunique]
  exact List.mem_singleton_self _

/-- What lies behind all pages of a query. -/
structure Selects (stem T : String) (n : UInt32) (s : Schema) (ix : IndexDefinition) (q : Query)
    (cs : List Condition) (db : Database) (answer : List RecordRow) : Prop where
  answers : Answers T s ix q (db.liveRecords n) answer
  /-- The sorted statement finds the answer, of which its limits leave a part. -/
  sorted : ∀ limit offset, db.select { q.sorted ⟨T, s, ix, names stem n ix.name⟩ cs with
    limit := limit
    offset := offset } = .ok (cut offset limit (answer.map (·.id)))
  /-- A lookup finds the whole answer, which is one record at most. -/
  lookup : ix.unique = true → Query.bindsAll ix q.terms = true → answer.length ≤ 1 ∧
    ∀ limit : UInt64, 1 ≤ limit.toNat →
      db.select { q.base ⟨T, s, ix, names stem n ix.name⟩ cs with limit := some limit } =
        .ok (answer.map (·.id))

theorem column_mem_of_sortKeys {d : Direction} {k : SortKey} (hk : k ∈ Query.sortKeys ix d) :
    k.column ∈ sortColumns ix := by
  rw [sortKeys_eq] at hk
  obtain ⟨c, hc, rfl⟩ := List.mem_map.1 hk
  exact hc

theorem pick_of_rows_nil {t : Table} (h : t.rows = []) (select : Select) : t.pick select = [] := by
  have hperm := t.pick_whole_perm select
  rw [h, List.filter_nil, List.perm_nil] at hperm
  rw [Table.pick_eq_cut, hperm, cut_nil]

section
variable {db : Database} {t : Table} (ht : db.table? (tableName stem n ix.name) = some t)
  (hr : readNames (tableName stem n ix.name :: (columnSpecs s ix).map (·.name)) = .ok ())
  (hq : q.Compiles ⟨T, s, ix, names stem n ix.name⟩ cs)
include ht hr hq

/-- Without records every query has an empty answer. -/
theorem selects_nil (hlive : db.liveRecords n = []) (hrows : t.rows = []) :
    Selects stem T n s ix q cs db [] where
  answers := by
    rw [hlive]
    exact ⟨by simp, .nil, .nil⟩
  sorted limit offset := by
    refine select_index ht hr hq _ (fun k hk => column_mem_of_sortKeys hk) ?_
    rw [pick_of_rows_nil hrows, List.map_nil, List.map_nil, cut_nil]
    rfl
  lookup _ _ := by
    refine ⟨Nat.zero_le 1, fun limit _ => ?_⟩
    refine select_index ht hr hq [] (by simp) ?_
    rw [pick_of_rows_nil hrows]
    rfl

/-- A lookup meets its rows in some order and within its limit, of which one row is left. -/
theorem select_lookup {answer : List RecordRow} (hlength : answer.length ≤ 1)
    (hcells : (t.pick (q.sorted ⟨T, s, ix, names stem n ix.name⟩ cs)).map (t.source idColumn).cell =
      (answer.map (·.id)).map .integer) {limit : UInt64} (hlimit : 1 ≤ limit.toNat) :
    db.select { q.base ⟨T, s, ix, names stem n ix.name⟩ cs with limit := some limit } =
      .ok (answer.map (·.id)) := by
  refine select_index ht hr hq [] (by simp) ?_
  let path := t.ordered (db.indexesOf (tableName stem n ix.name))
    { q.base ⟨T, s, ix, names stem n ix.name⟩ cs with limit := some limit }
  have hperm : (t.pick path.whole).Perm (t.pick (q.sorted ⟨T, s, ix, names stem n ix.name⟩ cs)) :=
    (t.pick_whole_perm path).trans
      (t.pick_whole_perm (q.sorted ⟨T, s, ix, names stem n ix.name⟩ cs)).symm
  have hids := hperm.map (t.source idColumn).cell
  rw [hcells] at hids
  have hwhole : (t.pick path.whole).map (t.source idColumn).cell =
      (answer.map (·.id)).map .integer := by
    rcases answer with _ | ⟨x, _ | ⟨y, answer⟩⟩
    · exact List.perm_nil.1 hids
    · exact List.perm_singleton.1 hids
    · simp at hlength
  show (t.pick path).map _ = _
  rw [Table.pick_eq_cut, map_cut, hwhole]
  show ((answer.map (·.id)).map Cell.integer).take limit.toNat = _
  rw [List.take_of_length_le]
  simp only [List.length_map]
  omega

/-- The table of an index has the answers to all queries on it. -/
theorem exists_selects {accepted : Record → Prop} (h : Coherent stem accepted db)
    (hp : Published db T n s) (hix : ix ∈ s.indexes) (hs : s.Apart) (hshaped : Shaped s ix t)
    (hfilled : Filled s ix t (db.liveRecords n)) :
    ∃ answer, Selects stem T n s ix q cs db answer := by
  have hbound : ∀ record ∈ db.liveRecords n, Bound s ix record.record := fun record hrecord =>
    ((h.holds T n s hp).valid record hrecord).2 ix hix
  have hn := (Schema.indexSound hix).names_nodup
  obtain ⟨answer, hanswers, hcells⟩ :=
    exists_answer hshaped hfilled hbound h.records.nodup_ids hn hq
  refine ⟨answer, hanswers, fun limit offset => ?_, fun hunique hall => ?_⟩
  · refine select_index ht hr hq _ (fun k hk => column_mem_of_sortKeys hk) ?_
    let sorted : Select := { q.sorted ⟨T, s, ix, names stem n ix.name⟩ cs with
      limit := limit
      offset := offset }
    have hordered := t.ordered_of_order (db.indexesOf (tableName stem n ix.name)) (s := sorted)
      (sortKeys_ne_nil ix q.direction)
    show (t.pick (t.ordered _ sorted)).map _ = _
    rw [hordered, Table.pick_eq_cut, map_cut, map_cut]
    exact congrArg (cut offset limit) hcells
  · have hlength : answer.length ≤ 1 := by
      have hfound := length_le_one_of_bindsAll hshaped hfilled hbound hn hq hall
        (h.distinctBy hp hs hix hunique ht)
      have hsorted := congrArg List.length hcells
      have hpick := congrArg List.length (pick_sorted t ⟨T, s, ix, names stem n ix.name⟩ q cs)
      simp only [List.length_map, List.length_mergeSort] at hsorted hpick
      omega
    exact ⟨hlength, fun limit hlimit => select_lookup ht hr hq hlength hcells hlimit⟩

end

/-- Every compiled query of a coherent database has an answer. -/
theorem Coherent.exists_selects {accepted : Record → Prop} {db : Database}
    (h : Coherent stem accepted db) (hp : Published db T n s) (hix : ix ∈ s.indexes)
    (hq : q.Compiles ⟨T, s, ix, names stem n ix.name⟩ cs) :
    ∃ answer, Selects stem T n s ix q cs db answer := by
  have hholds := h.holds T n s hp
  obtain ⟨t, ht, ⟨hs, hshaped, hfilled⟩ | ⟨hlive, hrows⟩⟩ := hholds.exists_table hix
  · exact RecordStore.exists_selects ht (hholds.readable ix hix) hq h hp hix hs hshaped hfilled
  · exact ⟨[], selects_nil ht (hholds.readable ix hix) hq hlive hrows⟩

end

end RecordStore
