import Mathlib
import RecordStore.Proofs.Query.Pages

/-!
Scans.  All pages of a scan are parts of one list, the records of the type that can be seen, sorted by
their numbers.
-/
namespace RecordStore
open Sql Database Index

/-- The records that a scan lists: those of some records that can be seen, sorted by number. -/
structure Lists (includeQuarantined : Bool) (d : Direction) (records answer : List RecordRow) :
    Prop where
  mem : ∀ record, record ∈ answer ↔
    record ∈ records ∧ (includeQuarantined = true ∨ record.state ≠ .quarantined)
  ordered : answer.Pairwise (d.toward fun a b => a.id.toInt < b.id.toInt)

/-- The condition of a scan on the state of a record. -/
def Scan.stateCondition (includeQuarantined : Bool) : Condition :=
  if includeQuarantined then .compare stateColumn .ne (.ofText flagYes)
  else .compare stateColumn .eq (.ofText flagNo)

/-- The statement of a scan before it is cut to a page. -/
def Scan.sorted (n : UInt32) (d : Direction) (includeQuarantined : Bool) : Select :=
  ⟨keyColumn, recordTable,
    [.compare typeColumn .eq (.unsigned (some n)), stateCondition includeQuarantined],
    [⟨keyColumn, d⟩], none, none⟩

theorem Lists.nodup {includeQuarantined : Bool} {d : Direction} {records answer : List RecordRow}
    (h : Lists includeQuarantined d records answer) : answer.Nodup := by
  refine h.ordered.imp fun {a b} hlt => ?_
  rintro rfl
  cases d with
  | ascending => exact lt_irrefl _ hlt
  | descending => exact lt_irrefl _ hlt

/-- There is one list only. -/
theorem Lists.unique {q : Bool} {d : Direction} {records answer answer' : List RecordRow}
    (h : Lists q d records answer) (h' : Lists q d records answer') : answer = answer' :=
  d.eq_of_toward (fun _ _ => lt_asymm) h.nodup h'.nodup
    (fun record => (h.mem record).trans (h'.mem record).symm) h.ordered h'.ordered

theorem Lists.reverse {q : Bool} {records answer : List RecordRow}
    (h : Lists q .ascending records answer) : Lists q .descending records answer.reverse := by
  constructor
  · intro record
    rw [List.mem_reverse]
    exact h.mem record
  · exact List.pairwise_reverse.2 h.ordered

/-! ### Records as rows -/

section
variable {db : Database} {row : Row} {record : RecordRow}

theorem recordView_rows (db : Database) :
    List.Forall₂ (fun row record => row.cells = recordCells record ∧ record ∈ db.records)
      db.recordView.rows db.records := by
  rw [List.forall₂_iff_get]
  refine ⟨List.length_mapIdx, fun i h h' => ?_⟩
  simp [recordView]

theorem holds_type (hrow : row.cells = recordCells record) :
    ColumnHolds db.recordView row Scan.typeColumn .bigInt (.ofInt record.typeId) where
  cell := by
    show row.cells.getD 0 .null = _
    rw [hrow]
    rfl
  fits := by
    rintro x ⟨⟩
    trivial
  operand w hw := hw.affinity

theorem holds_state (hrow : row.cells = recordCells record) :
    ColumnHolds db.recordView row Scan.stateColumn .character (.ofText record.state.flag) where
  cell := by
    show row.cells.getD 2 .null = _
    rw [hrow]
    rfl
  fits := by
    rintro x ⟨⟩
    trivial
  operand w hw := hw.affinity

theorem cell_keyColumn (hrow : row.cells = recordCells record) :
    (db.recordView.source Scan.keyColumn).cell row = .integer record.id := by
  show row.cells.getD 1 .null = _
  rw [hrow]
  rfl

/-- A row meets the conditions of a scan when its record is of the type and can be seen. -/
theorem meets_scan (hrow : row.cells = recordCells record)
    (hstate : record.state = .live ∨ record.state = .quarantined ∨ record.state = .deleted)
    (n : UInt32) (d : Direction) (includeQuarantined : Bool) :
    (Scan.sorted n d includeQuarantined).conditions.all (db.recordView.meets row) = true ↔
      (record.typeId = typeWord n ∧ record.state ≠ .deleted) ∧
        (includeQuarantined = true ∨ record.state ≠ .quarantined) := by
  have htype := (@holds_type db row record hrow).meets_compare (o := .eq) rfl
    (w := .unsigned (some n)) (by rintro x ⟨⟩; trivial)
  have hword : record.typeId.toInt = (n.toNat : Int) ↔ record.typeId = typeWord n := by
    rw [← typeWord_toInt, Int64.toInt_inj]
  have hflag : db.recordView.meets row (Scan.stateCondition includeQuarantined) = true ↔
      record.state ≠ .deleted ∧ (includeQuarantined = true ∨ record.state ≠ .quarantined) := by
    cases includeQuarantined with
    | true =>
      have hmeets := (@holds_state db row record hrow).meets_compare (o := .ne) rfl
        (w := .ofText flagYes) (by rintro x ⟨⟩; trivial)
      rw [Scan.stateCondition, if_pos rfl, hmeets]
      rcases hstate with h | h | h <;>
        simp [h, Value.ofText, Value.datum?, Operator.Relates, RecordState.flag, flagYes]
    | false =>
      have hmeets := (@holds_state db row record hrow).meets_compare (o := .eq) rfl
        (w := .ofText flagNo) (by rintro x ⟨⟩; trivial)
      rw [Scan.stateCondition, if_neg Bool.false_ne_true, hmeets]
      rcases hstate with h | h | h <;>
        simp [h, Value.ofText, Value.datum?, Operator.Relates, RecordState.flag, flagNo]
  rw [Scan.sorted]
  simp only [List.all_cons, List.all_nil, Bool.and_true, Bool.and_eq_true]
  rw [htype, hflag]
  simp only [Value.ofInt, Value.datum?, Option.map_some, Option.mem_def, Option.some.injEq,
    exists_eq_left', Operator.Relates, Datum.number.injEq, hword, and_assoc]

/-- Rows stand in the order of the numbers of their records. -/
theorem id_le_of_ranks_le {row' : Row} {record' : RecordRow} (hcells : row.cells = recordCells record)
    (hcells' : row'.cells = recordCells record')
    (hle : db.recordView.ranks [Scan.keyColumn] row ≤ db.recordView.ranks [Scan.keyColumn] row') :
    record.id.toInt ≤ record'.id.toInt := by
  have hrank (row : Row) (record : RecordRow) (hcells : row.cells = recordCells record) :
      db.recordView.ranks [Scan.keyColumn] row = [Rank.number record.id.toInt] := by
    rw [Table.ranks, List.map_singleton, cell_keyColumn hcells]
    rfl
  rw [hrank row record hcells, hrank row' record' hcells', ← not_lt, List.cons_lt_cons_iff,
    Rank.number_lt_number] at hle
  exact not_lt.1 fun hlt => hle (.inl hlt)

/-- What a scan finds before it is cut to a page. -/
theorem exists_lists {accepted : Record → Prop} (h : RecordsSound accepted db.records) (n : UInt32)
    (d : Direction) (includeQuarantined : Bool) :
    ∃ answer, Lists includeQuarantined d (db.liveRecords n) answer ∧
      (db.recordView.pick (Scan.sorted n d includeQuarantined)).map
        (db.recordView.source Scan.keyColumn).cell = (answer.map (·.id)).map .integer := by
  classical
  have hfiltered := List.rel_filter
    (p := fun row => (Scan.sorted n d includeQuarantined).conditions.all (db.recordView.meets row))
    (q := fun record => decide ((record.typeId = typeWord n ∧ record.state ≠ .deleted) ∧
      (includeQuarantined = true ∨ record.state ≠ .quarantined)))
    (by
      rintro row record ⟨hrow, hrecord⟩
      show _ = true ↔ decide _ = true
      rw [meets_scan hrow (h.each record hrecord).state, decide_eq_true_iff])
    (recordView_rows db)
  obtain ⟨answer, hall, hperm⟩ := List.perm_comp_forall₂
    (List.mergeSort_perm _ (db.recordView.notAfter [⟨Scan.keyColumn, d⟩])) hfiltered
  have hmem (record : RecordRow) : record ∈ answer ↔
      record ∈ db.liveRecords n ∧ (includeQuarantined = true ∨ record.state ≠ .quarantined) := by
    rw [hperm.mem_iff, List.mem_filter, decide_eq_true_iff, mem_liveRecords, and_assoc, and_assoc,
      and_assoc]
  have hplain : ∀ row ∈ db.recordView.rows.filter fun row =>
      (Scan.sorted n d includeQuarantined).conditions.all (db.recordView.meets row),
      db.recordView.PlainIn [Scan.keyColumn] row := by
    intro row hrow column hcolumn
    obtain ⟨record, -, hcells, -⟩ :=
      exists_of_mem_right (recordView_rows db).flip (List.mem_of_mem_filter hrow)
    rw [List.mem_singleton.1 hcolumn, cell_keyColumn hcells]
    trivial
  have hsorted := pairwise_of_forall₂ hall (pairwise_mergeSort_notAfter d hplain)
    (s := d.toward fun a b => a.id.toInt ≤ b.id.toInt) (by
      rintro row row' record record' ⟨hcells, -⟩ ⟨hcells', -⟩ hle
      exact d.toward_imp (id_le_of_ranks_le hcells hcells') (id_le_of_ranks_le hcells' hcells) hle)
  have hnodup : (answer.map (·.id)).Nodup := by
    refine nodup_ids_of_mem (n := n) h ?_ fun record hrecord => ((hmem record).1 hrecord).1
    exact hperm.nodup_iff.2 ((h.keys.of_map _).sublist List.filter_sublist)
  refine ⟨answer, ⟨hmem, ?_⟩, ?_⟩
  · have hdistinct : answer.Pairwise fun a b => a.id.toInt ≠ b.id.toInt :=
      (List.pairwise_map.1 hnodup).imp fun hne heq => hne (Int64.toInt_inj.1 heq)
    refine (hsorted.and hdistinct).imp ?_
    rintro a b ⟨hle, hne⟩
    cases d with
    | ascending => exact lt_of_le_of_ne hle hne
    | descending => exact lt_of_le_of_ne hle hne.symm
  · show (List.mergeSort _ _).map _ = _
    rw [List.map_map]
    exact map_eq_map_of_forall₂ hall fun row record hrow => cell_keyColumn hrow.1

/-- A type of a sound registry has a number that can be used, or none. -/
theorem TypesSound.typeId?_cases (h : TypesSound db) (T : String) :
    db.typeId? T = .ok none ∨ ∃ n, db.typeId? T = .ok (some n) := by
  unfold typeId?
  cases hrow : db.typeRow? T with
  | none => exact .inl rfl
  | some row =>
    have husable := h.usable row (typeRow?_eq_some hrow).1
    refine .inr ⟨UInt32.ofNat row.typeId.toInt.toNat, ?_⟩
    show (usableTypeId T row.typeId).map some = _
    rw [usableTypeId, if_pos husable]
    rfl

theorem found_scan {plan : Plan} {ns : List Int64} (htable : plan.select.table = Scan.recordTable)
    (hcells : (db.recordView.pick plan.select).map (db.recordView.source plan.select.column).cell =
      ns.map .integer) : db.found plan = .ok ns := by
  refine mapError_eq_ok.2 ?_
  rw [select_eq_ok_iff, cells, if_pos htable, Table.select, hcells]

/-- All pages of a scan are parts of the list of the records of its type. -/
theorem Coherent.scan_part {stem : String} {accepted : Record → Prop}
    (h : Coherent stem accepted db) {T : String} {n : UInt32} (hn : db.typeId? T = .ok (some n))
    (d : Direction) (includeQuarantined : Bool) :
    ∃ answer, Lists includeQuarantined d (db.liveRecords n) answer ∧ ∀ token size offset limit,
      Query.offsetOf token = .ok offset → Query.pageLimit offset size = .ok limit →
      db.scan T d token size includeQuarantined =
        .ok (Page.part (answer.map (RecordRow.key T)) offset size) := by
  obtain ⟨answer, hlists, hcells⟩ := exists_lists h.records n d includeQuarantined
  refine ⟨answer, hlists, fun token size offset limit hoffset hlimit => ?_⟩
  have hmem : ∀ record ∈ answer, record ∈ db.liveRecords n := fun record hrecord =>
    ((hlists.mem record).1 hrecord).1
  obtain ⟨ids, hids, hpage⟩ := exists_page T (nodup_ids_of_mem h.records hlists.nodup hmem)
    (ids_of_answer h.records fun record hrecord => List.mem_of_mem_filter (hmem record hrecord))
    .negativeRecordId hlimit
  let select : Select := { Scan.sorted n d includeQuarantined with
    limit := limit
    offset := if 0 < offset then some offset else none }
  have hplan : Scan.compile n d token size includeQuarantined =
      .ok ⟨select, offset, size, false⟩ :=
    bind_eq_ok.2 ⟨offset, hoffset, bind_eq_ok.2 ⟨limit, hlimit, rfl⟩⟩
  have hfound : db.found ⟨select, offset, size, false⟩ =
      .ok (cut (if 0 < offset then some offset else none) limit (answer.map (·.id))) := by
    refine found_scan rfl ?_
    rw [Table.pick_eq_cut, map_cut, map_cut]
    exact congrArg (cut _ limit) hcells
  unfold scan
  refine bind_eq_ok.2 ⟨some n, hn, bind_eq_ok.2 ⟨_, hplan, bind_eq_ok.2 ⟨_, hfound, ?_⟩⟩⟩
  refine bind_eq_ok.2 ⟨ids, hids, ?_⟩
  rw [← hpage]
  rfl

/-- A scan of a type that is not registered has an empty page, whatever its token. -/
theorem scan_of_unregistered {T : String} (hn : db.typeId? T = .ok none) (d : Direction)
    (token : Option String) (size : Option UInt64) (includeQuarantined : Bool) :
    db.scan T d token size includeQuarantined = .ok .empty :=
  bind_eq_ok.2 ⟨none, hn, rfl⟩

/-- A page that cannot be asked for is refused before the records are looked at. -/
theorem scan_of_page_error {T : String} {n : UInt32} {token : Option String} {size : Option UInt64} {e : Error}
    (hn : db.typeId? T = .ok (some n))
    (hpage : (Query.offsetOf token >>= fun offset => Query.pageLimit offset size) = .error e)
    {d : Direction} {q : Bool} : db.scan T d token size q = .error e := by
  have hplan : Scan.compile n d token size q = .error e := by
    rw [Scan.compile, Query.paginate]
    cases hoffset : Query.offsetOf token with
    | error e' =>
      rw [hoffset] at hpage
      obtain rfl : e' = e := Except.error.inj hpage
      rfl
    | ok offset =>
      rw [hoffset] at hpage
      have hlimit : Query.pageLimit offset size = .error e := hpage
      show (Query.pageLimit offset size >>= _) = _
      rw [hlimit]
      rfl
  rw [Database.scan, hn]
  show (Scan.compile n d token size q >>= _) = _
  rw [hplan]
  rfl

end

end RecordStore
