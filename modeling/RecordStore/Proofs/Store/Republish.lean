import Mathlib
import RecordStore.Proofs.Query.Correct
import RecordStore.Proofs.Store.Provisioned
import RecordStore.Proofs.Store.Refill

/-!
A schema that is dropped and published again.  Its indexes can be created, since they were created once,
and the records that are there go together, since they did before.  What the index tables of a database
hold follows from its types, schemas and records, so the rows are those that were there.
-/
namespace RecordStore
open Database Transaction Index RecordStore.Action

attribute [local irreducible] tableName indexName

/-! ### Dropping and publishing -/

section
variable {s : StoreSettings} {stem : String} {accepted : Record → Prop} {db : Database} {T : String}
  {n : UInt32} {S : Schema}

/-- The index object that goes with a table need not be there. -/
theorem exists_dropIndexTable {name : String} (hread : readNames [tableName s.stem n name] = .ok ())
    (db : Database) : ∃ db', dropIndexTable s n name db = .ok ((), db') := by
  obtain ⟨d, hd⟩ : ∃ d, db.dropTable (tableName s.stem n name) = .ok d :=
    ⟨_, bind_eq_ok.2 ⟨(), hread, rfl⟩⟩
  have hdropped : apply (·.dropTable (tableName s.stem n name)) db = .ok ((), d) :=
    apply_eq_ok.2 hd
  cases he : d.dropIndex (indexName s.stem n name) with
  | ok d' => exact ⟨d', (bind_of_ok hdropped).trans (by simp only [attempt, he])⟩
  | error e => exact ⟨d, (bind_of_ok hdropped).trans (by simp only [attempt, he])⟩

theorem exists_forM_dropIndexTable {ixs : List IndexDefinition}
    (hread : ∀ ix ∈ ixs, readNames [tableName s.stem n ix.name] = .ok ()) :
    ∀ db : Database, ∃ db', ixs.forM (fun ix => dropIndexTable s n ix.name) db = .ok ((), db') := by
  induction ixs with
  | nil => exact fun db => ⟨db, rfl⟩
  | cons ix ixs ih =>
    intro db
    obtain ⟨d, hd⟩ := exists_dropIndexTable (s := s) (hread ix List.mem_cons_self) db
    obtain ⟨db', hdb'⟩ := ih (fun jx hjx => hread jx (List.mem_cons_of_mem _ hjx)) d
    exact ⟨db', forM_cons_eq_ok.2 ⟨d, hd, hdb'⟩⟩

/-- A published schema can be removed. -/
theorem Coherent.exists_unpublish (h : Coherent s.stem accepted db) (hp : Published db T n S) :
    ∃ db', RecordStore.unpublish s n T db = .ok (true, db') := by
  have hread : ∀ ix ∈ S.indexes, readNames [tableName s.stem n ix.name] = .ok () := by
    intro ix hix
    have hall := readNames_eq_ok.1 ((h.holds T n S hp).readable ix hix)
    refine readNames_eq_ok.2 fun name hname => hall name ?_
    rw [List.mem_singleton.1 hname]
    exact List.mem_cons_self
  obtain ⟨db', hdrop⟩ := exists_forM_dropIndexTable hread (db.removeSchema T)
  have hremove : (modify (·.removeSchema T) : Transaction Unit) db = .ok ((), db.removeSchema T) := rfl
  exact ⟨db', (bind_of_ok (storedSchema_of_finds hp.finds)).trans
    ((bind_of_ok hremove).trans (bind_of_ok hdrop))⟩

/-- A schema can be published where its indexes can be created and the records go together. -/
theorem Coherent.exists_publish (h : Coherent s.stem accepted db) {t : IndexedType}
    (hn : db.typeId? t.typeName = .ok (some t.typeId)) (hnone : db.schemaText? t.typeName = none)
    (hcreatable : t.Creatable s) (hfits : Fits t.schema (db.liveRecords t.typeId))
    (hapart : t.schema.Apart ∨ db.liveRecords t.typeId = []) :
    ∃ db', t.publish s db = .ok ((), db') := by
  have htables := h.table?_eq_none hn hnone
  obtain ⟨d, hd⟩ := hcreatable.run htables
  have hcreated := indexesCreated_of_forM (fun _ hix => hix) h.keyed h.owned hd
  have hperm := recordsOf_perm db t.typeId
  have hfill : ∃ d', (db.recordsOf (typeWord t.typeId)).forM (t.backfill s) d = .ok ((), d') := by
    rcases hapart with hapart | hnil
    · have hholds : t.Holds s [] d :=
        ⟨hcreated.keyed, hcreated.holds_nil htables,
          fun ix hix => uniquesOf_of_indexesOf (hcreated.objects hapart ix hix), hcreated.readable⟩
      exact hholds.forM_backfill hapart (hfits.perm hperm.symm)
    · rw [hnil, List.perm_nil] at hperm
      rw [hperm]
      exact ⟨d, rfl⟩
  obtain ⟨d', hd'⟩ := hfill
  have hprovision : t.provision s (db.recordsOf (typeWord t.typeId)) db = .ok ((), d') :=
    Transaction.bind_eq_ok.2 ⟨(), d, hd, hd'⟩
  exact ⟨_, IndexedType.publish_eq_ok_iff.2 ⟨hnone, d', hprovision, rfl⟩⟩

end

/-! ### What the tables hold -/

/-- The rows of a table without their numbers, each cell under the name of its column. -/
def Database.Table.namedRows (t : Table) : List (List (String × Cell)) :=
  t.rows.map fun row => (t.definition.columns.map (·.name)).zip row.cells

/-- Two databases have the same index tables with the same rows in them. -/
def SameIndexes (db db' : Database) : Prop :=
  ∀ name, Option.Rel (fun t t' => t.namedRows.Perm t'.namedRows) (db.table? name) (db'.table? name)

section
variable {stem : String} {accepted : Record → Prop} {db db' : Database}

/-- The row that an index has for a record. -/
def namedEntry (S : Schema) (ix : IndexDefinition) (r : RecordRow) : List (String × Cell) :=
  ((columnSpecs S ix).map (·.name)).zip (entry S ix r)

theorem TypeHolds.namedRows_perm {n : UInt32} {S : Schema} (h : TypeHolds stem n S db)
    {ix : IndexDefinition} (hix : ix ∈ S.indexes) : ∃ u, db.table? (tableName stem n ix.name) = some u ∧
      u.namedRows.Perm ((db.liveRecords n).map (namedEntry S ix)) := by
  obtain ⟨u, hu, ⟨-, hshaped, hfilled⟩ | ⟨hnil, hrows⟩⟩ := h.exists_table hix
  · have hzipped := hfilled.map fun cells => ((columnSpecs S ix).map (·.name)).zip cells
    rw [List.map_map, List.map_map] at hzipped
    refine ⟨u, hu, ?_⟩
    rw [Table.namedRows, hshaped.columns]
    exact hzipped
  · refine ⟨u, hu, ?_⟩
    rw [hnil, Table.namedRows, hrows]
    exact .nil

/-- What an index table holds follows from the types, the schemas and the records. -/
theorem Coherent.exists_table_of_same (h : Coherent stem accepted db)
    (h' : Coherent stem accepted db') (htypes : db'.types = db.types)
    (hrecords : db'.records = db.records) (hschemas : ∀ T, db'.schemaText? T = db.schemaText? T)
    {name : String} {u : Table} (hu : db.table? name = some u) :
    ∃ u', db'.table? name = some u' ∧ u.namedRows.Perm u'.namedRows := by
  obtain ⟨hmem, hname⟩ := mem_of_table? hu
  obtain ⟨n, _, ⟨T, S, hp, ix, hix, rfl⟩, htable⟩ := h.owned.tables u hmem
  have hp' : Published db' T n S :=
    ⟨(hschemas T).trans hp.text, (typeId?_congr htypes T).trans hp.number⟩
  rw [htable] at hname
  obtain ⟨v, hv, hperm⟩ := (h.holds T n S hp).namedRows_perm hix
  obtain ⟨u', hu', hperm'⟩ := (h'.holds T n S hp').namedRows_perm hix
  rw [table?_congr db hname, hu] at hv
  obtain rfl := Option.some.inj hv
  rw [table?_congr db' hname] at hu'
  rw [liveRecords_congr hrecords] at hperm'
  exact ⟨u', hu', hperm.trans hperm'.symm⟩

theorem Coherent.sameIndexes (h : Coherent stem accepted db) (h' : Coherent stem accepted db')
    (htypes : db'.types = db.types) (hrecords : db'.records = db.records)
    (hschemas : ∀ T, db'.schemaText? T = db.schemaText? T) : SameIndexes db db' := by
  intro name
  cases hu : db.table? name with
  | some u =>
    obtain ⟨u', hu', hperm⟩ := h.exists_table_of_same h' htypes hrecords hschemas hu
    rw [hu']
    exact .some hperm
  | none =>
    cases hu' : db'.table? name with
    | none => exact .none
    | some u' =>
      obtain ⟨v, hv, -⟩ := h'.exists_table_of_same h htypes.symm hrecords.symm
        (fun T => (hschemas T).symm) hu'
      rw [hu] at hv
      cases hv

end

/-! ### A store that drops a schema and publishes it again -/

section
variable {s : Store} {w : Workspace} {T : String} {n : UInt32} {S : Schema} {e : Database}

theorem dropSchema_of_unpublish {b : Bool} (hn : w.database.typeId? T = .ok (some n))
    (h : unpublish s.settings n T w.database = .ok (b, e)) :
    s.dropSchema T w = (.ok b, ⟨e, w.session.forget T⟩) := by
  have hnumber : Store.typeId? T w = (.ok (some n), w) := congrArg (·, w) hn
  have hdropped : transact (unpublish s.settings n T) w = (.ok b, { w with database := e }) :=
    transact_of_ok h
  exact (Action.bind_of_ok hnumber).trans (Action.bind_of_ok hdropped)

/-- Without its schema a type has its records as they were, and they can be entered again. -/
theorem Coherent.exists_publish_of_unpublish (h : Coherent s.settings.stem Readable w.database)
    (hcounted : Counted w.database) (hp : Published w.database T n S)
    (hcreatable : IndexedType.Creatable ⟨n, T, S⟩ s.settings)
    (hdrop : RecordStore.unpublish s.settings n T w.database = .ok (true, e)) :
    ∃ d, IndexedType.publish ⟨n, T, S⟩ s.settings e = .ok ((), d) := by
  have honly := unpublish_onlyTables hdrop
  have hlive : e.liveRecords n = w.database.liveRecords n := liveRecords_congr honly.records n
  have hnone : e.schemaText? T = none := by
    have hremoved := schemaText?_removeSchema w.database T T
    rw [if_pos rfl] at hremoved
    rw [schemaText?, honly.schemas]
    exact hremoved
  refine (h.unpublish rfl hp.number hdrop).exists_publish
    ((typeId?_congr honly.types T).trans hp.number) hnone hcreatable ?_ ?_
  · rw [hlive]
    exact h.fits hcounted hp
  · rw [hlive]
    exact (h.holds T n S hp).apart

/-- What a store has after it dropped a schema and published it again: the rows of every index table
are back, and all else is as it was. -/
structure Restored (db db' : Database) : Prop where
  types : db'.types = db.types
  records : db'.records = db.records
  schemas : ∀ T, db'.schemaText? T = db.schemaText? T
  indexes : SameIndexes db db'

theorem restored_of_publish {d : Database}
    (h : Coherent s.settings.stem Readable w.database) (hp : Published w.database T n S)
    (hdrop : unpublish s.settings n T w.database = .ok (true, e))
    (hpublish : IndexedType.publish ⟨n, T, S⟩ s.settings e = .ok ((), d)) :
    Restored w.database d := by
  have honly := unpublish_onlyTables hdrop
  obtain ⟨hnone, hadded⟩ := publish_onlyTables hpublish
  have hn : e.typeId? T = .ok (some n) := (typeId?_congr honly.types T).trans hp.number
  have hc : Coherent s.settings.stem Readable d :=
    (h.unpublish rfl hp.number hdrop).publish (fun r hr => hr.1) rfl hn hpublish
  have htypes : d.types = w.database.types := hadded.types.trans honly.types
  have hrecords : d.records = w.database.records := hadded.records.trans honly.records
  have hschemas : ∀ T', d.schemaText? T' = w.database.schemaText? T' := by
    intro T'
    have hremoved := schemaText?_removeSchema w.database T T'
    have hback : schemaText? { e with schemas := e.schemas ++ [⟨T, S.text⟩] } T' = _ :=
      schemaText?_append T' hnone
    rw [schemaText?, hadded.schemas]
    refine hback.trans ?_
    split
    · next hT => rw [hT, hp.text]
    · next hT =>
      rw [if_neg hT] at hremoved
      rw [schemaText?, honly.schemas]
      exact hremoved
  exact ⟨htypes, hrecords, hschemas, h.sameIndexes hc htypes hrecords hschemas⟩

/-- A store that has a database to itself can drop a published schema and publish it again at any
time. -/
theorem ReachedAlone.republish (h : ReachedAlone s Readable w) (hp : Published w.database T n S) :
    ∃ w₁ w₂, s.dropSchema T w = (.ok true, w₁) ∧ s.createSchema T S w₁ = (.ok (), w₂) ∧
      Restored w.database w₂.database := by
  have hreadable : ∀ r, Readable r → (Json.object r).WellFormed := fun r hr => hr.1
  have hc := h.coherent hreadable
  obtain ⟨hvalid, hcreatable⟩ := (h.provisioned hreadable).of_published hp
  obtain ⟨e, hdrop⟩ := hc.exists_unpublish hp
  obtain ⟨d, hpublish⟩ :=
    hc.exists_publish_of_unpublish (counted_of_reached hreadable h.reached) hp hcreatable hdrop
  have hlacks : Workspace.Lacks ⟨e, w.session.forget T⟩ T :=
    ⟨(publish_eq_ok hpublish).1, Session.lookup_forget w.session T⟩
  have hregistered : e.typeId T true = .ok (some n, e) := by
    refine typeId_of_registered ?_ true
    exact (typeId?_congr (unpublish_onlyTables hdrop).types T).trans hp.number
  exact ⟨_, _, dropSchema_of_unpublish hp.number hdrop,
    hlacks.createSchema_eq_ok_iff.2 ⟨hvalid, n, e, d, hregistered, hpublish, rfl⟩,
    restored_of_publish hc hp hdrop hpublish⟩

end

/-! ### Backfill and maintenance -/

/-- A type that has no number yet, and of which the store remembers no schema. -/
structure Workspace.Fresh (w : Workspace) (T : String) : Prop where
  unregistered : w.database.typeRow? T = none
  remembered : w.session.schemas.lookup T = none

theorem Workspace.Fresh.lacks {stem : String} {w : Workspace} {T : String} (h : w.Fresh T)
    (hc : Coherent stem Readable w.database) : w.Lacks T := by
  refine ⟨Option.eq_none_iff_forall_ne_some.2 fun text htext => ?_, h.remembered⟩
  obtain ⟨-, n, hn⟩ := hc.schemas.each _ (mem_of_schemaText? htext)
  obtain ⟨row, hrow, -⟩ := typeId?_eq_some hn
  rw [h.unregistered] at hrow
  cases hrow

/-- Entering records when their schema is published agrees with keeping the indexes up to date.  For a
type that is new, publishing its schema and then creating records succeeds with the same keys and leaves
the same behind as creating them first and publishing then; neither can do what the other cannot.  And a
schema that is dropped can be published again whatever has become of the records before, which brings
back the rows of all its indexes. -/
theorem backfill_agrees (s : Store) (T : String) (S : Schema) :
    (∀ (w : Workspace) (rs : List Record), Reached s.settings.stem Readable w.database → w.Fresh T →
      (∀ r ∈ rs, Readable r) → ∀ ks w',
        ((do
          s.createSchema T S
          s.createAll T rs) : Action (List Key)) w = (.ok ks, w') ↔
        ((do
          let ks ← s.createAll T rs
          s.createSchema T S
          return ks) : Action (List Key)) w = (.ok ks, w')) ∧
      ∀ w n, ReachedAlone s Readable w → Published w.database T n S →
        ∃ w₁ w₂, s.dropSchema T w = (.ok true, w₁) ∧ s.createSchema T S w₁ = (.ok (), w₂) ∧
          Restored w.database w₂.database := by
  constructor
  · intro w rs hw hfresh hrs ks w'
    have hreadable : ∀ r, Readable r → (Json.object r).WellFormed := fun r hr => hr.1
    have hc := coherent_of_reached hreadable hw
    have hcomm : (∃ w₁, s.createSchema T S w = (.ok (), w₁) ∧ s.createAll T rs w₁ = (.ok ks, w')) ↔
        ∃ w₁, s.createAll T rs w = (.ok ks, w₁) ∧ s.createSchema T S w₁ = (.ok (), w') :=
      createSchema_createAll_comm rfl hc (counted_of_reached hreadable hw) (hfresh.lacks hc) hrs ks
    rw [bind_eq_ok_iff, bind_eq_ok_iff]
    constructor
    · rintro ⟨⟨⟩, w₁, hpublished, hall⟩
      obtain ⟨w₂, hall', hpublished'⟩ := hcomm.1 ⟨w₁, hpublished, hall⟩
      exact ⟨ks, w₂, hall', bind_eq_ok_iff.2 ⟨(), w', hpublished', rfl⟩⟩
    · rintro ⟨ks', w₂, hall, hlast⟩
      obtain ⟨⟨⟩, w₃, hpublished, hreturn⟩ := bind_eq_ok_iff.1 hlast
      obtain ⟨hks, rfl⟩ := Prod.mk.inj hreturn
      obtain rfl := Except.ok.inj hks
      obtain ⟨w₁, hpublished', hall'⟩ := hcomm.2 ⟨w₂, hall, hpublished⟩
      exact ⟨(), w₁, hpublished', hall'⟩
  · intro w n hw hp
    exact hw.republish hp

theorem readable_memberRecord : ∀ r ∈ memberRecord.record?.toList, Readable r := by
  rintro r (_ | ⟨_, ⟨⟩⟩)
  exact ⟨⟨trivial, by decide, trivial, by decide, trivial⟩, by decide⟩

theorem backfill_agrees_member :
    (∃ ks w',
      ((do
        memberStore.createSchema "member" memberSchema
        memberStore.createAll "member" memberRecord.record?.toList) : Action (List Key))
          ⟨.empty, .fresh⟩ = (.ok ks, w') ∧
      ((do
        let ks ← memberStore.createAll "member" memberRecord.record?.toList
        memberStore.createSchema "member" memberSchema
        return ks) : Action (List Key)) ⟨.empty, .fresh⟩ = (.ok ks, w')) ∧
      ∃ w₁ w₂, memberStore.dropSchema "member" memberWorkspace = (.ok true, w₁) ∧
        memberStore.createSchema "member" memberSchema w₁ = (.ok (), w₂) ∧
        Restored memberWorkspace.database w₂.database := by
  obtain ⟨hcomm, hagain⟩ := backfill_agrees memberStore "member" memberSchema
  have hreached : ReachedAlone memberStore Readable memberWorkspace := by
    refine (ReachedAlone.fresh.perform (.create "member" memberRecord) fun r hr => ?_).perform
      (.createSchema "member" memberSchema) trivial
    exact readable_memberRecord r (Option.mem_toList.2 hr)
  refine ⟨?_, hagain memberWorkspace 1 hreached published_memberSchema⟩
  -- the other order is the quicker one to evaluate, since it reads no stored schema
  generalize hrun : ((do
    let ks ← memberStore.createAll "member" memberRecord.record?.toList
    memberStore.createSchema "member" memberSchema
    return ks) : Action (List Key)) ⟨.empty, .fresh⟩ = p
  obtain ⟨ks, hks⟩ : ∃ ks, p.1 = .ok ks := by
    subst hrun
    exact exists_of_isOk (by decide +kernel)
  have hdone := hrun.trans (Prod.ext hks rfl : p = (.ok ks, p.2))
  refine ⟨ks, p.2, ?_, Prod.ext hks rfl⟩
  exact (hcomm ⟨.empty, .fresh⟩ _ .empty ⟨rfl, rfl⟩ readable_memberRecord ks p.2).2 hdone

end RecordStore
