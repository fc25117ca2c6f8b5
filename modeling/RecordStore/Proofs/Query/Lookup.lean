import Mathlib
import RecordStore.Proofs.Index.Conflict
import RecordStore.Proofs.Query.Matching

/-!
Lookups.  A query that gives every column of a unique index a value finds one row at most, since rows
that it finds share their keys.
-/
namespace RecordStore
open Sql Database Index

section
variable {T : String} {s : Schema} {ix : IndexDefinition} {t : Table} {names : Names}
  {q : Query} {cs : List Condition} {records : List RecordRow}

/-- A lookup has a term of equality for every column. -/
theorem exists_term_of_bindsAll {terms : List Term} (h : Query.bindsAll ix terms = true)
    {c : IndexColumn} (hc : c ∈ ix.columns) :
    ∃ term ∈ terms, term.field = c.name ∧ term.operator = .eq ∧
      ∃ v, term.operand = .scalar v ∧ v ≠ .null := by
  have hcolumn := List.all_eq_true.1 h c hc
  split at hcolumn
  · next term hterms =>
    have hmem : term ∈ Query.termsFor terms c.name := by
      rw [hterms]
      exact List.mem_singleton_self term
    obtain ⟨hterm, hfield⟩ := List.mem_filter.1 hmem
    refine ⟨term, hterm, by simpa using hfield, ?_⟩
    obtain ⟨field, operator, operand⟩ := term
    unfold Term.bindsValue at hcolumn
    simp only at hcolumn
    split at hcolumn
    · next v => exact ⟨rfl, v, rfl, by rintro rfl; cases hcolumn⟩
    · cases hcolumn
  · cases hcolumn

/-- Records that a lookup asks for have the same datum in each column, and none of them is null. -/
theorem fieldDatum_of_bindsAll (T : String) (hn : (ix.columns.map (·.name)).Nodup)
    (hall : Query.bindsAll ix q.terms = true) {c : IndexColumn} (hc : c ∈ ix.valueColumns) :
    ∃ d, ∀ record, q.Wants T s ix record → fieldDatum s record.record c = some d := by
  obtain ⟨hmem, hid⟩ := List.mem_filter.1 hc
  obtain ⟨term, hterm, hfield, hoperator, v, hoperand, hv⟩ := exists_term_of_bindsAll hall hmem
  have hne : term.field ≠ idAttribute := by
    rw [hfield]
    simpa [IndexColumn.isId] using hid
  have hdatum : ∀ record, q.Wants T s ix record →
      ∃ d ∈ scalarDatum s c v, fieldDatum s record.record c = some d := by
    intro record hwants
    have hsatisfied := hwants.2 term hterm
    rw [Term.Satisfied, if_neg hne] at hsatisfied
    obtain ⟨d, hd, hname, hasks⟩ := hsatisfied
    obtain rfl : d = c := List.inj_on_of_nodup_map hn (List.mem_of_mem_filter hd) hmem
      (hname.trans hfield)
    simp only [Term.Asks, hoperand, if_neg hv, hoperator] at hasks
    obtain ⟨x, hx, y, hy, rfl⟩ := hasks
    exact ⟨x, hy, hx⟩
  cases hscalar : scalarDatum s c v with
  | none =>
    refine ⟨.number 0, fun record hwants => ?_⟩
    obtain ⟨d, hd, -⟩ := hdatum record hwants
    rw [hscalar] at hd
    cases hd
  | some d =>
    refine ⟨d, fun record hwants => ?_⟩
    obtain ⟨e, he, hrecord⟩ := hdatum record hwants
    rw [hscalar] at he
    obtain rfl := Option.some.inj he
    exact hrecord

/-- Rows of records that a lookup asks for share a key, so rows that differ in it are one at most. -/
theorem length_le_one_of_wants (hs : Shaped s ix t) (hn : (ix.columns.map (·.name)).Nodup)
    (hall : Query.bindsAll ix q.terms = true) {rows : List Row}
    (hrows : ∀ row ∈ rows, ∃ record, row.cells = entry s ix record ∧ Bound s ix record.record ∧
      q.Wants T s ix record)
    (hkeys : t.distinctBy (valueNames ix) rows = true) :
    rows.length ≤ 1 := by
  rcases rows with _ | ⟨a, _ | ⟨b, rows⟩⟩
  · exact Nat.zero_le 1
  · exact le_refl 1
  · exfalso
    obtain ⟨x, ha, hx, hxw⟩ := hrows a (by simp)
    obtain ⟨y, hb, hy, hyw⟩ := hrows b (by simp)
    have hshared : sharesKey s ix x.record y.record = true := by
      refine sharesKey_iff.2 fun c hc => ?_
      obtain ⟨d, hd⟩ := fieldDatum_of_bindsAll T hn hall hc
      exact ⟨d, hd x hxw, hd y hyw⟩
    have hpairs := (List.pairwise_cons.1 (distinctBy_iff.1 hkeys)).1 b List.mem_cons_self
    rw [(hs.keys_differ_iff ha hb hx hy).1 hpairs] at hshared
    cases hshared

/-- A lookup finds one row at most in a table whose rows differ in the columns of the index. -/
theorem length_le_one_of_bindsAll (hs : Shaped s ix t) (hf : Filled s ix t records)
    (hbound : ∀ record ∈ records, Bound s ix record.record)
    (hn : (ix.columns.map (·.name)).Nodup) (hq : q.Compiles ⟨T, s, ix, names⟩ cs)
    (hall : Query.bindsAll ix q.terms = true)
    (hkeys : t.distinctBy (valueNames ix) t.rows = true) :
    (t.rows.filter fun row =>
      (q.base ⟨T, s, ix, names⟩ cs).conditions.all (t.meets row)).length ≤ 1 := by
  obtain ⟨ordered, -, hrows⟩ := hf.exists_ordered
  refine length_le_one_of_wants (T := T) hs hn hall (fun row hrow => ?_)
    (Table.distinctBy_sublist t _ List.filter_sublist hkeys)
  obtain ⟨hmem, hmeets⟩ := List.mem_filter.1 hrow
  obtain ⟨record, -, hcells, hlive⟩ := exists_of_mem_right hrows.flip hmem
  have hrecord := hbound record hlive
  exact ⟨record, hcells, hrecord, (meets_base hs hn hq hcells hrecord).1 hmeets⟩

end

end RecordStore
