import Mathlib
import RecordStore.Proofs.Query.Counts
import RecordStore.Proofs.Query.Scan

/-!
Where the next page starts.  A page that has one row more behind it has come from so many rows that all
before the next page are among them, and these have numbers of their own, of which there are no more than
signed words that are not negative.  So the token of the next page can be read back, and the offset that it
stands for can be bound.

`no_integer_wraps` says of all that is bound, in rows and in statements that read, that the database has the
integers that were meant.
-/
namespace RecordStore
open Sql Database Index

/-! ### Tokens -/

namespace Database

/-- The rows of the table of an index have record numbers, which are not negative and of which no two are the
same. -/
def Table.Distinct (t : Table) : Prop :=
  ∃ ids : List Int64, t.rows.map (t.source idColumn).cell = ids.map .integer ∧ ids.Nodup ∧
    ∀ m ∈ ids, 0 ≤ m.toInt

/-- The records of a type have numbers that are not negative, and no two of them have the same. -/
def Distinct (db : Database) (n : UInt32) : Prop :=
  ((db.records.filter (·.typeId == typeWord n)).map (·.id)).Nodup ∧
    ∀ record ∈ db.records, record.typeId = typeWord n → 0 ≤ record.id.toInt

end Database

/-- The token of a page is that of the sum of its offset and its size, which can be bound and read back. -/
def Page.Continues (page : Page) (token : Option String) (pageSize : Option UInt64) : Prop :=
  ∀ t, page.nextToken = some t → ∃ offset size next : UInt64,
    Query.offsetOf token = .ok offset ∧ pageSize = some size ∧
      next.toNat = offset.toNat + size.toNat ∧ next.toNat < 2 ^ 63 ∧ t = Token.encode next ∧
      Query.offsetOf (some t) = .ok next

/-- Where a page is cut from a list that is no longer than there are record numbers, the next page has an
offset that can be bound. -/
theorem Plan.Counts.continues {plan : Plan} {token : Option String} {pageSize : Option UInt64}
    (h : plan.Counts token pageSize) {α : Type} {xs : List α} (hlength : xs.length ≤ 2 ^ 63)
    {ids : List UInt64}
    (hids : ids.length = (cut plan.select.offset plan.select.limit xs).length) (T : String) :
    (Page.ofIds T ids plan.offset plan.pageSize).Continues token pageSize := by
  intro t ht
  cases hsize : plan.pageSize with
  | none =>
    rw [hsize] at ht
    cases ht
  | some size =>
    have hpath : plan.lookup = false := by
      by_contra hlookup
      have hnone := (h.single (by simpa using hlookup)).2.2
      rw [hsize] at hnone
      cases hnone
    obtain ⟨hoffset, hsame⟩ := h.paged hpath
    obtain ⟨l, hl, hlimit⟩ := h.fetched size hsize
    have hsum := h.sum size hsize
    rw [hsize] at ht hsame
    unfold Page.ofIds at ht
    simp only at ht
    split at ht
    · next hmore =>
      -- one row more than the page shows was fetched behind its offset
      have hrest : ids.length = min l.toNat (xs.length - plan.offset.toNat) := by
        rw [hids, cut, h.skipped, show plan.select.limit = some l from hl, Option.elim_some,
          List.length_take, List.length_drop]
      have hnext : (Page.addSaturating plan.offset size).toNat < 2 ^ 63 := by omega
      obtain rfl := Option.some.inj ht
      exact ⟨plan.offset, size, _, hoffset, hsame.symm, hsum, hnext, rfl,
        Query.offsetOf_encode hnext⟩
    · cases ht

namespace Database

theorem Table.Distinct.length_le {t : Table} (h : t.Distinct) : t.rows.length ≤ 2 ^ 63 := by
  obtain ⟨ids, hcells, hnodup, hnonneg⟩ := h
  have hlength := congrArg List.length hcells
  rw [List.length_map, List.length_map] at hlength
  rw [hlength]
  exact length_le_of_nodup hnodup hnonneg

theorem Distinct.length_le {db : Database} {n : UInt32} (h : db.Distinct n) :
    (db.records.filter (·.typeId == typeWord n)).length ≤ 2 ^ 63 := by
  have hlength := length_le_of_nodup h.1 fun m hm => ?_
  · rwa [List.length_map] at hlength
  · obtain ⟨record, hrecord, rfl⟩ := List.mem_map.1 hm
    obtain ⟨hmem, htype⟩ := List.mem_filter.1 hrecord
    exact h.2 record hmem (beq_iff_eq.1 htype)

/-- No more rows are found by a scan than there are records of its type. -/
theorem length_pick_scan_le (db : Database) {n : UInt32} {s : Select} {cs : List Condition}
    (hs : s.conditions = .compare Scan.typeColumn .eq (.unsigned (some n)) :: cs) :
    (db.recordView.pick s.whole).length ≤ (db.records.filter (·.typeId == typeWord n)).length := by
  let ofType : Condition := .compare Scan.typeColumn .eq (.unsigned (some n))
  have hrows := List.rel_filter (p := fun row => db.recordView.meets row ofType)
    (q := fun record => record.typeId == typeWord n)
    (by
      rintro row record ⟨hrow, -⟩
      have htype := (@holds_type db row record hrow).meets_compare (o := .eq) rfl
        (w := .unsigned (some n)) (by rintro x ⟨⟩; trivial)
      show _ = true ↔ (record.typeId == typeWord n) = true
      rw [htype, beq_iff_eq, ← Int64.toInt_inj, typeWord_toInt]
      simp only [Value.ofInt, Value.datum?, Option.map_some, Option.mem_def, Option.some.injEq,
        exists_eq_left', Operator.Relates, Datum.number.injEq])
    (recordView_rows db)
  -- a row that meets all conditions meets the first one
  rw [(db.recordView.pick_whole_perm s).length_eq, ← hrows.length_eq, hs]
  refine (List.monotone_filter_right _ fun row hrow => ?_).length_le
  exact (Bool.and_eq_true _ _ ▸ hrow : _ ∧ _).1

end Database

section
variable {db : Database} {settings : StoreSettings} {T index : String} {S : Schema} {q : Query}
  {page : Page}

theorem continues_of_queryIndex (h : db.queryIndex settings T S index q = .ok page)
    (hdistinct : ∀ n t, db.typeId? T = .ok (some n) →
      db.table? (names settings.stem n index).table = some t → t.Distinct) :
    page.Continues q.token q.pageSize := by
  obtain ⟨ix, -, h⟩ := bind_eq_ok.1 h
  obtain ⟨n, hn, h⟩ := bind_eq_ok.1 h
  obtain ⟨plan, hplan, h⟩ := bind_eq_ok.1 h
  obtain ⟨cells, hcells, h⟩ := bind_eq_ok.1 h
  split at h
  · cases h
  obtain ⟨ids, hids, h⟩ := bind_eq_ok.1 h
  obtain rfl := Except.ok.inj h
  have htype : db.typeId? T = .ok (some n) := by
    obtain ⟨found, hfound, hn⟩ := bind_eq_ok.1 hn
    cases found with
    | none => cases hn
    | some m => rw [hfound, Except.ok.inj hn]
  obtain ⟨cs, -, -, htable, -⟩ := exists_base_of_compile hplan
  obtain ⟨t, ht, rfl⟩ := cells_eq_ok (by rw [htable]; exact tableName_ne_recordTable _ _ _)
    (mapError_eq_ok.1 hcells)
  rw [htable] at ht
  have hlength := (hdistinct n t htype ht).length_le
  -- the order in which a lookup meets its rows leaves the counts as they are
  let ordered := t.ordered (db.indexesOf plan.select.table) plan.select
  obtain ⟨hlimit, hoffset⟩ := t.limits_ordered (db.indexesOf plan.select.table) plan.select
  refine (counts_of_compile hplan).continues ((t.length_pick_whole_le ordered).trans hlength) ?_ T
  have hread := (mapM_eq_ok.1 hids).length_eq
  rw [← hread, List.length_map, Table.pick_eq_cut, hlimit, hoffset]

theorem continues_of_scan {d : Direction} {token : Option String} {pageSize : Option UInt64}
    {includeQuarantined : Bool} (h : db.scan T d token pageSize includeQuarantined = .ok page)
    (hdistinct : ∀ n, db.typeId? T = .ok (some n) → db.Distinct n) :
    page.Continues token pageSize := by
  obtain ⟨n?, hn, h⟩ := bind_eq_ok.1 h
  cases n? with
  | none =>
    obtain rfl := Except.ok.inj h
    nofun
  | some n =>
    obtain ⟨plan, hplan, h⟩ := bind_eq_ok.1 h
    obtain ⟨rows, hrows, h⟩ := bind_eq_ok.1 h
    obtain ⟨ids, hids, h⟩ := bind_eq_ok.1 h
    obtain rfl := Except.ok.inj h
    obtain ⟨offset, limit, -, -, hselect⟩ := paginate_eq_ok hplan
    have htable : plan.select.table = Scan.recordTable := by rw [hselect]
    have hcells := select_eq_ok_iff.1 (mapError_eq_ok.1 hrows)
    rw [cells, if_pos htable] at hcells
    have hlength := (db.length_pick_scan_le (s := plan.select) (by rw [hselect])).trans
      (hdistinct n hn).length_le
    refine (counts_of_paginate hplan).continues hlength ?_ T
    have hread := (mapM_eq_ok.1 hids).length_eq
    have hfound := congrArg List.length (Except.ok.inj hcells)
    rw [Table.select, List.length_map, List.length_map, Table.pick_eq_cut] at hfound
    rw [← hread, ← hfound]

end

/-! ### Stores -/

section
variable {stem : String} {accepted : Record → Prop} {db : Database} {T : String} {n : UInt32} {s : Schema}
  {ix : IndexDefinition}

/-- The records of a coherent database have numbers of their own. -/
theorem Coherent.distinct (h : Coherent stem accepted db) (n : UInt32) : db.Distinct n := by
  refine ⟨?_, fun record hrecord _ => (h.records.each record hrecord).id⟩
  have hkeys := h.records.keys.sublist
    ((List.filter_sublist (p := fun r : RecordRow => r.typeId == typeWord n)).map _)
  rw [List.nodup_map_iff_inj_on (hkeys.of_map _)]
  intro row hrow row' hrow' hid
  obtain ⟨hmem, htype⟩ := List.mem_filter.1 hrow
  obtain ⟨hmem', htype'⟩ := List.mem_filter.1 hrow'
  exact h.records.eq_of_id hmem hmem' ((beq_iff_eq.1 htype).trans (beq_iff_eq.1 htype').symm) hid

/-- So have the rows in the tables of published indexes. -/
theorem Coherent.distinct_table (h : Coherent stem accepted db) (hp : Published db T n s)
    (hix : ix ∈ s.indexes) {t : Table} (ht : db.table? (tableName stem n ix.name) = some t) :
    t.Distinct := by
  obtain ⟨u, hu, hrows⟩ := (h.holds T n s hp).exists_table hix
  obtain rfl := Option.some.inj (ht.symm.trans hu)
  rcases hrows with ⟨-, hshaped, hfilled⟩ | ⟨-, hnil⟩
  · obtain ⟨ordered, hperm, hall⟩ := hfilled.exists_ordered
    refine ⟨ordered.map (·.id), map_idColumn hshaped hall,
      ((hperm.map _).nodup_iff.2 h.records.nodup_ids), ?_⟩
    refine ids_of_answer h.records fun record hrecord => ?_
    exact (mem_liveRecords.1 (hperm.mem_iff.1 hrecord)).1
  · exact ⟨[], by rw [hnil]; rfl, .nil, nofun⟩

end

/-! ### All ways to the database -/

/-- No integer that is accepted changes on its way to the database.  An attribute of integers binds those of
its range as they are, and the number of a record is bound as it is meant, in terms, under keys and in the
statements that keep rows in step.  The database has what a query or a scan binds as it is meant too: what
the terms name, and the counts.  These are less than `2 ^ 63`, a page has one row more fetched than it shows,
and the sum of its offset and its size is exact.  Where records have numbers of their own, the token of the
next page is that of this sum, which is less than `2 ^ 63`, so it is read back. -/
theorem no_integer_wraps :
    (∀ (a : Attribute) range, a.type.integerRange? = some range →
      ∀ v b, coerce a v = .ok b ↔ v.BoundWithin range b) ∧
    (∀ (n : WordInt) f, FieldValue.ofJson? (.integer n) = some f → f.integer? = some n.val) ∧
    (∀ T v b, bindId T v = .ok b ↔ ∃ id : Nat, NamesRecord T v id ∧ b.Holds id) ∧
    (∀ id b, idValue id = .ok b ↔ b.Holds id.toNat) ∧
    (∀ key w, keyWord key = .ok w ↔ w.toInt = key.id.toNat) ∧
    (∀ t id r s, Hook t id r s → RowStatement t id r s ∧ s.Kept) ∧
    (∀ t (q : Query) limit plan, q.compile t limit = .ok plan →
      Statement.Kept (.select plan.select) ∧ plan.Counts q.token q.pageSize ∧
        ∃ cs, plan.select.conditions = Query.quarantineFilter q.includeQuarantined ++ cs ∧
          List.Forall₂ (fun (p : IndexColumn × Term) condition =>
              Query.Gives t.typeName t.schema p.1 p.2 condition)
            ((Query.conditionColumns t.index).flatMap fun c =>
              (Query.termsFor q.terms c.name).map (c, ·)) cs) ∧
    (∀ n d token pageSize includeQuarantined plan,
      Scan.compile n d token pageSize includeQuarantined = .ok plan →
        Statement.Kept (.select plan.select) ∧ plan.Counts token pageSize) ∧
    (∀ (db : Database) settings T S index (q : Query) page,
      db.queryIndex settings T S index q = .ok page →
      (∀ n t, db.typeId? T = .ok (some n) →
        db.table? (names settings.stem n index).table = some t → t.Distinct) →
      page.Continues q.token q.pageSize) ∧
    ∀ (db : Database) T d token pageSize includeQuarantined page,
      db.scan T d token pageSize includeQuarantined = .ok page →
      (∀ n, db.typeId? T = .ok (some n) → db.Distinct n) → page.Continues token pageSize := by
  refine ⟨fun a range hrange v b => coerce_eq_ok_iff hrange,
    fun n f => FieldValue.integer?_of_ofJson?, fun T v b => bindId_eq_ok_iff,
    fun id b => idValue_eq_ok_iff, fun key w => keyWord_eq_ok_iff, fun t id r s h => ?_,
    fun t q limit plan h => ?_,
    fun n d token pageSize includeQuarantined plan h => ⟨kept_of_scan h, counts_of_paginate h⟩,
    fun db settings T S index q page => continues_of_queryIndex,
    fun db T d token pageSize includeQuarantined page => continues_of_scan⟩
  · have hrow := rowStatement_of_hook h
    exact ⟨hrow, hrow.kept⟩
  · obtain ⟨cs, hq, -, -, hconditions⟩ := exists_base_of_compile h
    exact ⟨kept_of_compile h, counts_of_compile h, cs, hconditions, hq.gives⟩

/-- The store with two notes, for which there is no schema. -/
def notesWorkspace : Workspace :=
  (memberStore.perform (.create "note" (.object []))
    (memberStore.perform (.create "note" (.object [])) ⟨.empty, .fresh⟩).2).2

theorem reachedAlone_notesWorkspace : ReachedAlone memberStore Formed notesWorkspace := by
  have hformed : ∀ r, Json.record? (.object []) = some r → Formed r := by
    rintro r ⟨⟩
    trivial
  exact (ReachedAlone.fresh.perform (.create "note" (.object [])) hformed).perform
    (.create "note" (.object [])) hformed

/-- The scan of the largest page behind the largest offset. -/
def widestPlan : Plan where
  select := { Scan.sorted 1 .ascending false with
    limit := some 0x7fffffffffffffff
    offset := some 0x7fffffffffffffff }
  offset := 0x7fffffffffffffff
  pageSize := some 0x7ffffffffffffffe
  lookup := false

/-- The greatest value of a column, the greatest counts of a page, a page of members, and a page of notes with
another one behind it. -/
theorem no_integer_wraps_greatest :
    coerce ⟨"count", .u64, none, false, .unchanged⟩ (.uint 0x7fffffffffffffff) =
        .ok (.ofInt 0x7fffffffffffffff) ∧
      Scan.compile 1 .ascending (some "f_________8") (some 0x7ffffffffffffffe) false =
          .ok widestPlan ∧
      Statement.Kept (.select widestPlan.select) ∧
      (Page.addSaturating widestPlan.offset 0x7ffffffffffffffe).toNat = 2 ^ 64 - 3 ∧
      (∃ page, memberWorkspace.database.queryIndex memberStore.settings "member" memberSchema
          memberSchema.indexes[1].name memberQuery = .ok page ∧ page.Continues none none) ∧
      ∃ page t, notesWorkspace.database.scan "note" .ascending none (some 1) false = .ok page ∧
        page.nextToken = some t ∧ Query.offsetOf (some t) = .ok 1 := by
  obtain ⟨hcoerce, -, -, -, -, -, -, hcompile, hquery, hscan⟩ := no_integer_wraps
  have hplan : Scan.compile 1 .ascending (some "f_________8") (some 0x7ffffffffffffffe) false =
      .ok widestPlan := by decide +kernel
  obtain ⟨hkept, hcounts⟩ := hcompile _ _ _ _ _ _ hplan
  refine ⟨?_, hplan, hkept, hcounts.sum _ rfl, ?_, ?_⟩
  · exact (hcoerce _ _ rfl _ _).2 (.inr ⟨0x7fffffffffffffff, rfl, by decide, by decide, _, rfl, rfl⟩)
  · have hc := reachedAlone_memberWorkspace.coherent_of_formed
    have hp := published_memberSchema
    have hix : memberSchema.indexes[1] ∈ memberSchema.indexes := List.getElem_mem _
    obtain ⟨plan, hplan⟩ := exists_of_isOk (r := memberQuery.compile ⟨"member", memberSchema,
      memberSchema.indexes[1], names memberStore.settings.stem 1 memberSchema.indexes[1].name⟩ 2)
      (by decide +kernel)
    obtain ⟨cs, hq, -⟩ := compile_eq_ok hplan
    obtain ⟨answer, -, hpages⟩ := hc.queryIndex_part hp hix hq
    have hpage := hpages none none 0 none rfl rfl
    refine ⟨_, hpage, hquery _ _ _ _ _ _ _ hpage fun n t hn ht => ?_⟩
    obtain rfl : 1 = n := Option.some.inj (Except.ok.inj (hp.number.symm.trans hn))
    exact hc.distinct_table hp hix ht
  · have hc := reachedAlone_notesWorkspace.coherent_of_formed
    have hnumber : notesWorkspace.database.typeId? "note" = .ok (some 1) := by decide +kernel
    obtain ⟨answer, hlists, hpages⟩ := hc.scan_part hnumber .ascending false
    have hpage := hpages none (some 1) 0 (some 2) rfl rfl
    have hlive : ∀ record ∈ notesWorkspace.database.liveRecords 1, record.state ≠ .quarantined := by
      decide +kernel
    -- all notes can be seen, so both of them are listed
    have hperm : answer.Perm (notesWorkspace.database.liveRecords 1) := by
      rw [List.perm_ext_iff_of_nodup hlists.nodup (hc.records.nodup_ids.of_map _)]
      intro record
      rw [hlists.mem]
      exact and_iff_left_of_imp fun hrecord => .inr (hlive record hrecord)
    have hlength : answer.length = 2 := by
      rw [hperm.length_eq]
      decide +kernel
    have htoken : (Page.part (answer.map (RecordRow.key "note")) 0 (some 1)).nextToken =
        some (Token.encode (0 + 1)) := by
      rw [Page.part, List.length_map, hlength]
      rfl
    obtain ⟨offset, size, next, hoffset, hsize, hsum, -, -, hnext⟩ :=
      hscan _ _ _ _ _ _ _ hpage (fun n _ => hc.distinct n) _ htoken
    obtain rfl := Except.ok.inj hoffset
    obtain rfl := Option.some.inj hsize
    obtain rfl : next = 1 := UInt64.toNat_inj.1 hsum
    exact ⟨_, _, hpage, htoken, hnext⟩

end RecordStore
