import Mathlib
import RecordStore.Proofs.Database.Selection
import RecordStore.Proofs.Query.Order

/-!
What a compiled query finds in a table that is filled with records: the numbers of the records that
satisfy all terms, in the order of the index.
-/
namespace RecordStore
open Sql Database Index

theorem Direction.toward_imp {α β : Type} (d : Direction) {r : α → α → Prop} {s : β → β → Prop}
    {a b : α} {x y : β} (hab : r a b → s x y) (hba : r b a → s y x) (h : d.toward r a b) :
    d.toward s x y := by
  cases d with
  | ascending => exact hab h
  | descending => exact hba h

/-- Where no two elements precede each other there is one order of them. -/
theorem Direction.eq_of_toward {α : Type} (d : Direction) {r : α → α → Prop}
    (hr : ∀ a b, r a b → ¬ r b a) {xs ys : List α} (hxs : xs.Nodup) (hys : ys.Nodup)
    (hmem : ∀ a, a ∈ xs ↔ a ∈ ys) (hordered : xs.Pairwise (d.toward r))
    (hordered' : ys.Pairwise (d.toward r)) : xs = ys := by
  have hperm : xs.Perm ys := (List.perm_ext_iff_of_nodup hxs hys).2 hmem
  refine hperm.eq_of_pairwise (fun a b _ _ hab hba => ?_) hordered hordered'
  cases d with
  | ascending => exact absurd hba (hr a b hab)
  | descending => exact absurd hab (hr a b hba)

/-! ### Answers -/

/-- Whether a record is one that a query asks for. -/
def Query.Wants (T : String) (s : Schema) (ix : IndexDefinition) (q : Query)
    (record : RecordRow) : Prop :=
  (q.includeQuarantined = true ∨ record.state ≠ .quarantined) ∧
    ∀ term ∈ q.terms, term.Satisfied T s ix record

/-- The answer to a query: those of some records that it asks for, each once and in its order. -/
structure Answers (T : String) (s : Schema) (ix : IndexDefinition) (q : Query)
    (records answer : List RecordRow) : Prop where
  mem : ∀ record, record ∈ answer ↔ record ∈ records ∧ q.Wants T s ix record
  nodup : answer.Nodup
  ordered : answer.Pairwise (q.direction.toward (Precedes s ix))

/-- What compiling a query makes sure of. -/
structure Query.Compiles (t : Target) (q : Query) (cs : List Condition) : Prop where
  stray : strayTerm? t.index q.terms = none
  unbound : unboundColumn? t.index q.terms = none
  conditions : q.conditions t = .ok cs

/-- The statement of a query before it is ordered and cut to a page. -/
def Query.base (t : Target) (q : Query) (cs : List Condition) : Select :=
  ⟨idColumn, t.names.table, quarantineFilter q.includeQuarantined ++ cs, [], none, none⟩

/-- The statement of a query before it is cut to a page. -/
def Query.sorted (t : Target) (q : Query) (cs : List Condition) : Select :=
  { q.base t cs with order := sortKeys t.index q.direction }

section
variable {T : String} {s : Schema} {ix : IndexDefinition} {t : Table} {names : Names}
  {q : Query} {cs : List Condition} {records : List RecordRow}

theorem meets_base (hs : Shaped s ix t) (hn : (ix.columns.map (·.name)).Nodup)
    (hq : q.Compiles ⟨T, s, ix, names⟩ cs) {row : Row} {record : RecordRow}
    (hrow : row.cells = entry s ix record) (hbound : Bound s ix record.record) :
    (q.base ⟨T, s, ix, names⟩ cs).conditions.all (t.meets row) = true ↔
      q.Wants T s ix record := by
  rw [Query.base, List.all_append, Bool.and_eq_true, meets_quarantineFilter hs hrow,
    meets_conditions hs hrow hbound hn hq.stray hq.conditions]
  exact Iff.rfl

/-- The rows that a query finds, in whichever order, belong to the records that it asks for. -/
theorem exists_matching (hs : Shaped s ix t) (hf : Filled s ix t records)
    (hbound : ∀ record ∈ records, Bound s ix record.record)
    (hids : (records.map (·.id)).Nodup) (hn : (ix.columns.map (·.name)).Nodup)
    (hq : q.Compiles ⟨T, s, ix, names⟩ cs) {rows : List Row} (hrows : rows.Perm (t.rows.filter fun row =>
      (q.base ⟨T, s, ix, names⟩ cs).conditions.all (t.meets row))) :
    ∃ found : List RecordRow,
      List.Forall₂ (fun row record => row.cells = entry s ix record ∧ record ∈ records)
        rows found ∧
      (∀ record, record ∈ found ↔ record ∈ records ∧ q.Wants T s ix record) ∧
      (found.map (·.id)).Nodup := by
  classical
  obtain ⟨ordered, hperm, hall⟩ := hf.exists_ordered
  have hfiltered := List.rel_filter (q := fun record => decide (q.Wants T s ix record))
    (p := fun row => (q.base ⟨T, s, ix, names⟩ cs).conditions.all (t.meets row))
    (by
      rintro row record ⟨hrow, hrecord⟩
      show _ = true ↔ decide _ = true
      rw [meets_base hs hn hq hrow (hbound record hrecord), decide_eq_true_iff]) hall
  obtain ⟨found, hfound, hfp⟩ := List.perm_comp_forall₂ hrows hfiltered
  have hsub : found.Perm (records.filter fun record => decide (q.Wants T s ix record)) :=
    hfp.trans (hperm.filter _)
  refine ⟨found, hfound, fun record => ?_, ?_⟩
  · rw [hsub.mem_iff, List.mem_filter, decide_eq_true_iff]
  · exact (hsub.map _).nodup_iff.2 (hids.sublist (List.filter_sublist.map _))

/-- The numbers of the records that rows belong to are what a query selects. -/
theorem map_idColumn (hs : Shaped s ix t) {rows : List Row} {found : List RecordRow}
    (h : List.Forall₂ (fun row record => row.cells = entry s ix record ∧ record ∈ records)
      rows found) :
    rows.map (t.source idColumn).cell = (found.map (·.id)).map .integer := by
  rw [List.map_map]
  exact map_eq_map_of_forall₂ h fun row record hrow => (hs.entry_cells hrow.1).1

theorem sortKeys_ne_nil (ix : IndexDefinition) (d : Direction) :
    (Query.sortKeys ix d).isEmpty = false := by
  rw [sortKeys_eq, sortColumns, List.map_append]
  simp

/-- The rows that a query finds, before they are cut to a page. -/
theorem pick_sorted (t : Table) (target : Target) (q : Query) (cs : List Condition) :
    t.pick (q.sorted target cs) =
      (t.rows.filter fun row => (q.base target cs).conditions.all (t.meets row)).mergeSort
        (t.notAfter (Query.sortKeys target.index q.direction)) := by
  show (if (Query.sortKeys target.index q.direction).isEmpty then _ else _) = _
  rw [sortKeys_ne_nil]
  rfl

/-- The answer to a query is what its statement finds before it is cut to a page. -/
theorem exists_answer (hs : Shaped s ix t) (hf : Filled s ix t records)
    (hbound : ∀ record ∈ records, Bound s ix record.record)
    (hids : (records.map (·.id)).Nodup) (hn : (ix.columns.map (·.name)).Nodup)
    (hq : q.Compiles ⟨T, s, ix, names⟩ cs) :
    ∃ answer : List RecordRow, Answers T s ix q records answer ∧
      (t.pick (q.sorted ⟨T, s, ix, names⟩ cs)).map (t.source idColumn).cell =
        (answer.map (·.id)).map .integer := by
  obtain ⟨answer, hall, hmem, hnodup⟩ := exists_matching hs hf hbound hids hn hq
    (List.mergeSort_perm _ (t.notAfter (Query.sortKeys ix q.direction)))
  refine ⟨answer, ⟨hmem, hnodup.of_map _, ?_⟩, by rw [pick_sorted]; exact map_idColumn hs hall⟩
  -- the rows are sorted by their ranks, which are those of the data of their records
  have hplain : ∀ row ∈ t.rows.filter
      (fun row => (q.base ⟨T, s, ix, names⟩ cs).conditions.all (t.meets row)),
      t.PlainIn (sortColumns ix) row := by
    intro row hrow
    obtain ⟨ordered, -, hrows⟩ := hf.exists_ordered
    obtain ⟨record, hrecord, hcells, hlive⟩ :=
      exists_of_mem_right hrows.flip (List.mem_of_mem_filter hrow)
    exact (ranks_entry hs hcells (hbound record hlive)).1
  have hsorted := pairwise_mergeSort_notAfter q.direction hplain
  rw [← sortKeys_eq] at hsorted
  have hranked := pairwise_of_forall₂ hall hsorted
    (s := fun x y => x ∈ records ∧ y ∈ records ∧ q.direction.toward
      (fun x y => (sortData s ix x).map Datum.rank ≤ (sortData s ix y).map Datum.rank) x y)
    (by
      rintro a b x y ⟨ha, hx⟩ ⟨hb, hy⟩ hle
      refine ⟨hx, hy, ?_⟩
      have hranks := (ranks_entry hs ha (hbound x hx)).2
      have hranks' := (ranks_entry hs hb (hbound y hy)).2
      refine q.direction.toward_imp ?_ ?_ hle
      · rw [hranks, hranks']
        exact id
      · rw [hranks, hranks']
        exact id)
  have hdistinct : answer.Pairwise fun x y => x.id ≠ y.id := List.pairwise_map.1 hnodup
  refine (hranked.and hdistinct).imp ?_
  rintro x y ⟨⟨hx, hy, hle⟩, hne⟩
  exact q.direction.toward_imp (precedes_of_ranks (hbound x hx) hne)
    (precedes_of_ranks (hbound y hy) (Ne.symm hne)) hle

end

end RecordStore
