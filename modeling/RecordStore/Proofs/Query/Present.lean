import Mathlib
import RecordStore.Proofs.Query.Scan
import RecordStore.Proofs.Store.Action
import RecordStore.Proofs.Store.Fetching

/-!
Answers show what is there.  Whatever key stands in a page of a query or a scan, or beside a record, a
record is stored under it and not deleted.  For queries it makes no difference which schema the store
remembers, since all index tables under the number of a type hold rows of such records only.
-/
namespace RecordStore
open Database Sql Index RecordStore.Action

attribute [local irreducible] tableName indexName

/-! ### Keys of records -/

/-- A record is stored under a key and not deleted. -/
def Database.Has (db : Database) (key : Key) : Prop :=
  ∃ n, db.typeId? key.typeName = .ok (some n) ∧
    ∃ row ∈ db.liveRecords n, row.key key.typeName = key

section
variable {db : Database} {key : Key} {T : String} {n : UInt32} {m : Int64} {row : RecordRow}

theorem has_of_mem (hn : db.typeId? T = .ok (some n)) (hrow : row ∈ db.liveRecords n) :
    db.Has (row.key T) :=
  ⟨n, hn, row, hrow, rfl⟩

theorem key_of_keyWord (hkey : keyWord key = .ok row.id) : row.key key.typeName = key := by
  obtain ⟨-, -, hid⟩ := storedId?_eq_some (keyWord_eq_ok hkey)
  rw [RecordRow.key, ← hid]

/-- Records of one key have one number. -/
theorem RecordRow.id_of_key {row row' : RecordRow} (h : 0 ≤ row.id.toInt) (h' : 0 ≤ row'.id.toInt)
    (hkey : row.key T = row'.key T) : row.id = row'.id := by
  have hid : UInt64.ofNat row.id.toInt.toNat = UInt64.ofNat row'.id.toInt.toNat :=
    congrArg Key.id hkey
  have hstored := storedId?_ofNat h
  rw [hid, storedId?_ofNat h'] at hstored
  exact (Option.some.inj hstored).symm

/-- A record that is found under the number of a key is the record of the key. -/
theorem has_of_record? (hn : db.typeId? key.typeName = .ok (some n)) (hkey : keyWord key = .ok m)
    (h : db.record? (typeWord n) m = some row) : db.Has key := by
  have hmeets := List.find?_some h
  simp only [Bool.and_eq_true, beq_iff_eq, bne_iff_ne] at hmeets
  obtain ⟨⟨htype, rfl⟩, hstate⟩ := hmeets
  have hlive := mem_liveRecords.2 ⟨List.mem_of_find?_eq_some h, htype, hstate⟩
  exact ⟨n, hn, row, hlive, key_of_keyWord hkey⟩

/-! ### Pages -/

theorem keys_ofIds_subset (T : String) (ids : List UInt64) (offset : UInt64) (size : Option UInt64) :
    (Page.ofIds T ids offset size).keys ⊆ ids.map (⟨T, ·⟩) := by
  unfold Page.ofIds
  split
  · split
    · exact List.map_subset _ (List.take_subset _ _)
    · exact fun _ h => h
  · exact fun _ h => h

theorem keys_part_subset (keys : List Key) (offset : UInt64) (size : Option UInt64) :
    (Page.part keys offset size).keys ⊆ keys := by
  cases size with
  | none => exact List.drop_subset _ _
  | some size => exact fun _ h => List.mem_of_mem_drop (List.mem_of_mem_take h)

variable {stem : String} {accepted : Record → Prop}

/-- Every plan reads record numbers from the table that it is for. -/
theorem plan_of_compile {t : Target} {q : Query} {limit : UInt64} {plan : Plan}
    (h : q.compile t limit = .ok plan) :
    plan.select.table = t.names.table ∧ plan.select.column = idColumn := by
  obtain ⟨cs, -, ⟨-, -, -, rfl⟩ | hsorted⟩ := compile_eq_ok h
  · exact ⟨rfl, rfl⟩
  · obtain ⟨offset, limit, -, -, rfl⟩ := paginate_eq_ok hsorted
    exact ⟨rfl, rfl⟩

/-- Numbers in a table under the number of a type are those of records of the type. -/
theorem Coherent.exists_record_of_select (h : Coherent stem accepted db) {s : Select} {index : String}
    {ns : List Int64} (htable : s.table = tableName stem n index) (hcolumn : s.column = idColumn)
    (hfound : db.select s = .ok ns) : ∀ m ∈ ns, ∃ row ∈ db.liveRecords n, row.id = m := by
  intro m hm
  have hname : s.table ≠ Scan.recordTable := htable ▸ tableName_ne_recordTable stem n index
  obtain ⟨t, ht, hcells⟩ := select_eq_ok hname hfound
  rw [htable] at ht
  rw [hcolumn] at hcells
  -- whatever schema the query was made for, the table belongs to an index of the published one
  obtain ⟨T, S, ix, hp, hix, hsame⟩ := h.exists_index ht
  obtain ⟨u, hu, hrows⟩ := (h.holds T n S hp).exists_table hix
  obtain rfl : t = u := Option.some.inj ((hsame ▸ ht).symm.trans hu)
  obtain ⟨row, hrow, hcell⟩ := hcells m hm
  rcases hrows with ⟨-, hshaped, hfilled⟩ | ⟨-, hnil⟩
  · obtain ⟨ordered, -, hpairs⟩ := hfilled.exists_ordered
    obtain ⟨record, -, hentry, hrecord⟩ := exists_of_mem_right hpairs.flip hrow
    rw [(hshaped.entry_cells hentry).1] at hcell
    exact ⟨record, hrecord, Cell.integer.inj hcell⟩
  · rw [hnil] at hrow
    cases hrow

theorem Coherent.has_of_queryIndex {settings : StoreSettings}
    (h : Coherent settings.stem accepted db) {S : Schema} {index : String} {q : Query} {p : Page}
    (hpage : db.queryIndex settings T S index q = .ok p) : ∀ key ∈ p.keys, db.Has key := by
  obtain ⟨ix, -, hpage⟩ := bind_eq_ok.1 hpage
  obtain ⟨n, hrequired, hpage⟩ := bind_eq_ok.1 hpage
  obtain ⟨plan, hplan, hpage⟩ := bind_eq_ok.1 hpage
  obtain ⟨cells, hcells, hpage⟩ := bind_eq_ok.1 hpage
  obtain ⟨htable, hcolumn⟩ := plan_of_compile hplan
  have hn : db.typeId? T = .ok (some n) := by
    obtain ⟨found, hn, hsome⟩ := bind_eq_ok.1 hrequired
    cases found with
    | none => cases hsome
    | some k => rw [hn, Except.ok.inj hsome]
  split at hpage
  · cases hpage
  obtain ⟨ids, hids, hpage⟩ := bind_eq_ok.1 hpage
  obtain rfl := Except.ok.inj hpage
  obtain ⟨rows, rfl, hrows⟩ := mapM_indexedId_eq_ok.1 hids
  have hrecords := h.exists_record_of_select htable hcolumn
    (select_eq_ok_iff.2 (mapError_eq_ok.1 hcells))
  intro key hkey
  obtain ⟨id, hid, rfl⟩ := List.mem_map.1 (keys_ofIds_subset T ids _ _ hkey)
  obtain ⟨m, hm, hstored⟩ := exists_of_mem_right (mapM_eq_ok.1 hrows) hid
  obtain ⟨row, hrow, rfl⟩ := hrecords m hm
  -- a number that is read back is that of the record it is read from
  have hnonneg := (h.records.each row (mem_liveRecords.1 hrow).1).id
  rw [storedNumber_of_nonneg hnonneg] at hstored
  rw [← Except.ok.inj hstored]
  exact has_of_mem hn hrow

theorem Coherent.has_of_scan (h : Coherent stem accepted db) {d : Direction} {token : Option String}
    {size : Option UInt64} {includeQuarantined : Bool} {p : Page}
    (hpage : db.scan T d token size includeQuarantined = .ok p) : ∀ key ∈ p.keys, db.Has key := by
  rcases h.types.typeId?_cases T with hn | ⟨n, hn⟩
  · rw [scan_of_unregistered hn] at hpage
    obtain rfl := Except.ok.inj hpage
    exact fun key hkey => by cases hkey
  · obtain ⟨answer, hlists, hparts⟩ := h.scan_part hn d includeQuarantined
    cases hasked : (Query.offsetOf token >>= fun offset => Query.pageLimit offset size) with
    | error e =>
      rw [scan_of_page_error hn hasked] at hpage
      cases hpage
    | ok limit =>
      obtain ⟨offset, hoffset, hlimit⟩ := bind_eq_ok.1 hasked
      rw [hparts token size offset limit hoffset hlimit] at hpage
      obtain rfl := Except.ok.inj hpage
      intro key hkey
      obtain ⟨row, hrow, rfl⟩ := List.mem_map.1 (keys_part_subset _ _ _ hkey)
      exact has_of_mem hn ((hlists.mem row).1 hrow).1

/-! ### Records of many keys -/

theorem Database.Fetched.has {wanted : List (Key × Int64)} {p : Key × Json}
    (h : db.Fetched wanted p) : db.Has p.1 := by
  obtain ⟨n, row, hn, hrow, htype, hstate, -, hvalue⟩ := h
  have hkey := (keyedValue_eq_ok.1 hvalue).2.1
  exact ⟨n, hn, row, mem_liveRecords.2 ⟨hrow, htype, hstate⟩, hkey.symm⟩

end

/-! ### Operations -/

/-- The keys whose records an answer shows. -/
def Answer.shown : Answer → List Key
  | .records vs => vs.map (·.1)
  | .page p => p.keys
  | _ => []

section
variable {s : Store} {w : Workspace} {accepted : Record → Prop}

theorem has_of_multiRetrieve (texts : List String) {w' : Workspace}
    {found : List (Key × Json)} (h : s.multiRetrieve texts w = (.ok found, w')) :
    ∀ p ∈ found, w.database.Has p.1 := by
  obtain ⟨wanted, w₁, hwanted, h⟩ := Action.bind_eq_ok h
  obtain ⟨all, w₂, hread, h⟩ := Action.bind_eq_ok h
  have hfound : Store.fetch w₁.database wanted = .ok all := congrArg Prod.fst hread
  obtain rfl := Except.ok.inj (Prod.mk.inj h).1
  have hsame : w₁.database = w.database := by
    have hrelates := relates_mapM composes_eq (relates_decodeWord composes_eq s) texts w
    rwa [hwanted] at hrelates
  rw [hsame] at hfound
  obtain ⟨xs, rfl, hfetched⟩ := fetch_eq_ok hfound
  intro p hp
  rcases mem_of_foldl_insertValue ((List.mergeSort_perm _ _).mem_iff.1 hp) with hp | hp
  · cases hp
  · exact ((hfetched p).1 hp).has

theorem Coherent.has_of_query (h : Coherent s.settings.stem accepted w.database) {T index : String}
    {q : Query} {w' : Workspace} {p : Page} (hquery : s.query T index q w = (.ok p, w')) :
    ∀ key ∈ p.keys, w.database.Has key := by
  obtain ⟨S, w₁, hschema, hquery⟩ := Action.bind_eq_ok hquery
  obtain ⟨terms, w₂, hterms, hquery⟩ := Action.bind_eq_ok hquery
  have hsame₁ : w₁.database = w.database := by
    have hrelates := relates_requireSchema composes_eq T w
    rwa [hschema] at hrelates
  have hsame₂ : w₂.database = w₁.database := by
    have hrelates := relates_mapM composes_eq (relates_resolveTerm composes_eq s) q.terms w₁
    rwa [hterms] at hrelates
  have hpage : w₂.database.queryIndex s.settings T S index { q with terms := terms } = .ok p :=
    congrArg Prod.fst hquery
  rw [hsame₂, hsame₁] at hpage
  exact h.has_of_queryIndex hpage

/-- Whatever a store remembers, the records that it shows are there. -/
theorem Coherent.has_of_shown (h : Coherent s.settings.stem accepted w.database) {o : Operation}
    {a : Answer} (ha : (s.perform o w).1 = .ok a) : ∀ key ∈ a.shown, w.database.Has key := by
  cases o with
  | createSchema T S =>
    rw [show (s.perform (.createSchema T S) w).1 = _ from fst_bind _ _ w] at ha
    obtain ⟨_, -, hdone⟩ := bind_eq_ok.1 ha
    obtain rfl := Except.ok.inj hdone
    exact fun key hkey => by cases hkey
  | multiRetrieve texts =>
    obtain ⟨found, w', hfound, rfl⟩ := exists_of_map ha
    intro key hkey
    obtain ⟨p, hp, rfl⟩ := List.mem_map.1 hkey
    exact has_of_multiRetrieve texts hfound p hp
  | query T index q =>
    obtain ⟨p, w', hpage, rfl⟩ := exists_of_map ha
    exact h.has_of_query hpage
  | scan T d token size includeQuarantined =>
    obtain ⟨p, w', hpage, rfl⟩ := exists_of_map ha
    exact h.has_of_scan (congrArg Prod.fst hpage)
  | _ =>
    -- all other answers show no keys of records
    obtain ⟨b, w', -, rfl⟩ := exists_of_map ha
    exact fun key hkey => by cases hkey

end

end RecordStore
