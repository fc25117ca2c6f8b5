import Mathlib
import RecordStore.Proofs.Store.Gone
import RecordStore.Proofs.Store.Reopening

/-!
Keys are given out once.  Along a run of several stores, with reopenings, the keys of each type ascend,
and once a record was deleted or cleared its key leads nowhere from then on.
-/
namespace RecordStore
open Database Transaction RecordStore.Action

/-- The key that a create has answered. -/
def Operation.created? : Operation → Except Error Answer → Option Key
  | .create _ _, .ok (.key key) => some key
  | _, _ => none

theorem Operation.created?_eq_some {o : Operation} {r : Except Error Answer} {key : Key}
    (h : o.created? r = some key) : ∃ T v, o = .create T v ∧ r = .ok (.key key) := by
  unfold created? at h
  split at h
  · next T v k =>
    obtain rfl := Option.some.inj h
    exact ⟨T, v, rfl, rfl⟩
  · cases h

/-- The answer to an operation says that the record of a key was removed: it was deleted, or it had been
created before and its type was cleared. -/
inductive Removes (s : Store) (created : List Key) (key : Key) :
    Operation → Except Error Answer → Prop
  | delete {text : String} : s.reads text = .ok key →
    Removes s created key (.delete text) (.ok (.changed true))
  | clear {k : Nat} : key ∈ created → Removes s created key (.clear key.typeName) (.ok (.removed k))

/-- What may happen to a deployment: stores are brought no objects but well-formed ones, and a database that
is opened again is one that is kept. -/
def Event.Fair (durable : Bool) : Event → Prop
  | .perform _ o => o.Admits Formed
  | .reopen => durable = true

namespace Deployment

/-- The deployment after an event. -/
def after (d : Deployment) : Event → Deployment
  | .perform i o => (d.perform i o).2
  | .reopen => d.reopen

/-- The keys that creates have answered in a run, in order. -/
def created (d : Deployment) (events : List Event) : List Key :=
  ((events.filterMap Event.request?).zip (d.undergo events).1).filterMap fun (p, r) =>
    p.2.created? r

/-- The key that a create has answered, if the event is one. -/
def createdBy? (d : Deployment) : Event → Option Key
  | .perform i o => o.created? (d.perform i o).1
  | .reopen => none

variable {d : Deployment} {e : Event} {events : List Event} {key : Key}

theorem undergo_cons (d : Deployment) (e : Event) (events : List Event) :
    (d.undergo (e :: events)).2 = ((d.after e).undergo events).2 := by
  cases e <;> rfl

theorem created_cons (d : Deployment) (e : Event) (events : List Event) :
    d.created (e :: events) = (d.createdBy? e).toList ++ (d.after e).created events := by
  cases e with
  | reopen => rfl
  | perform i o =>
    show List.filterMap _ (((i, o), (d.perform i o).1) :: _) = _
    rw [List.filterMap_cons, createdBy?]
    simp only
    cases o.created? (d.perform i o).1 <;> rfl

theorem undergo_append (d : Deployment) (before events : List Event) :
    (d.undergo (before ++ events)).2 = ((d.undergo before).2.undergo events).2 := by
  induction before generalizing d with
  | nil => rfl
  | cons e before ih => rw [List.cons_append, undergo_cons, undergo_cons, ih]

@[simp]
theorem store_after (d : Deployment) (e : Event) : (d.after e).store = d.store := by
  cases e <;> rfl

@[simp]
theorem durable_after (d : Deployment) (e : Event) : (d.after e).durable = d.durable := by
  cases e <;> rfl

theorem undergo_fixed (d : Deployment) (events : List Event) :
    (d.undergo events).2.store = d.store ∧ (d.undergo events).2.durable = d.durable := by
  induction events generalizing d with
  | nil => exact ⟨rfl, rfl⟩
  | cons e events ih =>
    rw [undergo_cons, (ih _).1, (ih _).2]
    exact ⟨store_after d e, durable_after d e⟩

/-- The events of a run stay fair behind the first of them. -/
theorem fair_cons (h : ∀ e' ∈ e :: events, e'.Fair d.durable) :
    e.Fair d.durable ∧ ∀ e' ∈ events, e'.Fair (d.after e).durable := by
  rw [durable_after]
  exact List.forall_mem_cons.1 h

/-- What every event keeps, a run keeps. -/
theorem undergo_induct {inv : Deployment → Prop}
    (hinv : ∀ d e, inv d → e.Fair d.durable → inv (d.after e)) (h : inv d)
    (hfair : ∀ e ∈ events, e.Fair d.durable) : inv (d.undergo events).2 := by
  induction events generalizing d with
  | nil => exact h
  | cons e events ih =>
    obtain ⟨hhead, htail⟩ := fair_cons hfair
    rw [undergo_cons]
    exact ih (hinv d e h hhead) htail

/-! ### What a run keeps -/

/-- What holds of a deployment at all times. -/
structure Sound (d : Deployment) : Prop where
  coherent : Coherent d.store.settings.stem Formed d.database
  counted : Counted d.database
  derives : d.AllDerive

theorem sound_opened (s : Store) (durable : Bool) (stores : Nat) : (opened s durable stores).Sound :=
  ⟨coherent_empty _ _, counted_empty, allDerive_opened s durable stores⟩

theorem reopen_database (h : d.durable = true) : d.reopen.database = d.database := by
  rw [reopen_of_durable h]

theorem allDerive_reopen (d : Deployment) : d.reopen.AllDerive := by
  intro i
  rw [workspace, getD_reopen]
  exact KeyCodec.Derives.nil _

/-- What the transactions of all stores of a stem keep is kept by an event. -/
theorem after_induct {inv : Database → Prop} (hkept : KeptBy d.store Formed inv) (h : inv d.database)
    (hfair : e.Fair d.durable) : inv (d.after e).database := by
  cases e with
  | reopen =>
    show inv d.reopen.database
    rw [reopen_database hfair]
    exact h
  | perform i o => exact hkept.perform (w := d.workspace i) hfair h

theorem Sound.after (h : d.Sound) (hfair : e.Fair d.durable) : (d.after e).Sound := by
  obtain ⟨hcoherent, hcounted⟩ :=
    after_induct (keptBy_counted (fun _ hr => hr) rfl) ⟨h.coherent, h.counted⟩ hfair
  refine ⟨?_, hcounted, ?_⟩
  · rw [store_after]
    exact hcoherent
  · cases e with
    | reopen => exact allDerive_reopen d
    | perform i o => exact h.derives.perform i o

/-- A run of stores that are opened on an empty database is sound at its end. -/
theorem sound_undergo (s : Store) {durable : Bool} (stores : Nat)
    (hfair : ∀ e ∈ events, e.Fair durable) : ((opened s durable stores).undergo events).2.Sound :=
  undergo_induct (fun _ _ h he => h.after he) (sound_opened s durable stores) hfair

theorem derives_undergo (s : Store) {durable : Bool} (stores : Nat)
    (hfair : ∀ e ∈ events, e.Fair durable) (i : Nat) : s.codec.Derives
      (((opened s durable stores).undergo events).2.workspace i).session.keys := by
  have hderives := (sound_undergo s stores hfair).derives i
  rwa [(undergo_fixed _ _).1] at hderives

theorem typesGrow_after (hfair : e.Fair d.durable) : TypesGrow d.database (d.after e).database :=
  after_induct (keptBy_typesGrow d.store Formed d.database) (composes_typesGrow.refl _) hfair

theorem Sound.gone_after (h : d.Sound) (hgone : Gone key d.database) (hfair : e.Fair d.durable) :
    Gone key (d.after e).database :=
  (after_induct (keptBy_gone (fun _ hr => hr) rfl key) ⟨⟨h.coherent, h.counted⟩, hgone⟩ hfair).2

/-! ### Keys that are given out -/

/-- A key that is created has a number that was still to be given out, and was after that. -/
theorem Sound.givenOut_of_created (h : d.Sound) (hcreated : d.createdBy? e = some key) :
    (d.database.nextNumber key.typeName).toInt ≤ key.id.toNat ∧
      GivenOut key (d.after e).database := by
  cases e with
  | reopen => cases hcreated
  | perform i o =>
    obtain ⟨T, v, rfl, hanswer⟩ := Operation.created?_eq_some hcreated
    obtain ⟨k, w', hcreate, hkey⟩ :=
      exists_of_map (x := d.store.create T v) (w := d.workspace i) hanswer
    obtain rfl := Answer.key.inj hkey
    have hdatabase : (d.after (.perform i (.create T v))).database = w'.database :=
      congrArg (·.2.database) (map_of_ok Answer.key hcreate)
    rw [hdatabase]
    exact givenOut_of_create (w := d.workspace i) h.counted hcreate

/-- The keys of each type ascend from the number that comes next, and all of them are given out. -/
theorem Sound.created (h : d.Sound) (hfair : ∀ e ∈ events, e.Fair d.durable) :
    ((d.created events).Pairwise fun k k' => k.typeName = k'.typeName → k.id < k'.id) ∧
      ∀ k ∈ d.created events, (d.database.nextNumber k.typeName).toInt ≤ k.id.toNat ∧
        GivenOut k (d.undergo events).2.database := by
  induction events generalizing d with
  | nil => exact ⟨.nil, fun k hk => by cases hk⟩
  | cons e events ih =>
    obtain ⟨hhead, htail⟩ := fair_cons hfair
    obtain ⟨hpairs, hall⟩ := ih (h.after hhead) htail
    have hgrow := typesGrow_after hhead
    rw [created_cons, undergo_cons]
    refine ⟨List.pairwise_append.2 ⟨?_, hpairs, fun k hk k' hk' htype => ?_⟩, fun k hk => ?_⟩
    · cases d.createdBy? e with
      | none => exact .nil
      | some k => exact List.pairwise_singleton _ _
    · -- the first key has a number below the next one, and the later keys have none below that
      obtain ⟨-, hgiven⟩ := h.givenOut_of_created (Option.mem_toList.1 hk)
      have hpassed := hgiven.passed
      have hlater := (hall k' hk').1
      rw [htype] at hpassed
      rw [UInt64.lt_iff_toNat_lt]
      omega
    · rcases List.mem_append.1 hk with hk | hk
      · obtain ⟨hle, hgiven⟩ := h.givenOut_of_created (Option.mem_toList.1 hk)
        have hkept (d' : Deployment) (e' : Event) (hgiven' : GivenOut k d'.database)
            (he' : e'.Fair d'.durable) : GivenOut k (d'.after e').database :=
          hgiven'.grow (typesGrow_after he')
        exact ⟨hle, undergo_induct hkept hgiven htail⟩
      · obtain ⟨hle, hgiven⟩ := hall k hk
        exact ⟨le_trans (hgrow.next _) hle, hgiven⟩

/-- A record that was removed is gone. -/
theorem Sound.gone_of_removes (h : d.Sound) {created : List Key}
    (hgiven : ∀ k ∈ created, GivenOut k d.database) {i : Nat} {o : Operation}
    (hremoves : Removes d.store created key o (d.perform i o).1) :
    Gone key (d.perform i o).2.database := by
  generalize hanswer : (d.perform i o).1 = r at hremoves
  cases hremoves with
  | @delete text hreads =>
    obtain ⟨b, w', hdelete, hb⟩ :=
      exists_of_map (x := d.store.delete text) (w := d.workspace i) hanswer
    obtain rfl := Answer.changed.inj hb
    have hdatabase : (d.perform i (.delete text)).2.database = w'.database :=
      congrArg (·.2.database) (map_of_ok Answer.changed hdelete)
    rw [hdatabase]
    exact gone_of_delete (w := d.workspace i) h.coherent h.counted (h.derives i) hreads hdelete
  | @clear k hmem =>
    obtain ⟨k', w', hclear, -⟩ :=
      exists_of_map (x := d.store.clear key.typeName) (w := d.workspace i) hanswer
    have hdatabase : (d.perform i (.clear key.typeName)).2.database = w'.database :=
      congrArg (·.2.database) (map_of_ok Answer.removed hclear)
    rw [hdatabase]
    exact gone_of_clear (w := d.workspace i) (hgiven key hmem) hclear

end Deployment

open Deployment

/-- In every run of stores on one database the keys that creates answer are distinct and ascend for each
type.  After a record was removed, whatever happens then, every store answers to all operations that there
is no record under its key. -/
theorem keys_permanent (s : Store) (durable : Bool) (stores : Nat) (events : List Event)
    (hfair : ∀ e ∈ events, e.Fair durable) :
    let d := opened s durable stores
    ((d.created events).Nodup ∧
        (d.created events).Pairwise fun k k' => k.typeName = k'.typeName → k.id < k'.id) ∧
      ∀ before i o rest key, events = before ++ .perform i o :: rest →
        Removes s (d.created before) key o ((d.undergo before).2.perform i o).1 →
        ∀ j, AnswersNothing s ((d.undergo events).2.workspace j) key := by
  intro d
  have hd : d.Sound := sound_opened s durable stores
  obtain ⟨hpairs, -⟩ := hd.created hfair
  refine ⟨⟨hpairs.imp fun hlt heq => ?_, hpairs⟩, ?_⟩
  · subst heq
    exact absurd (hlt rfl) (by simp)
  rintro before i o rest key rfl hremoves j
  have hbefore : ∀ e ∈ before, e.Fair d.durable := fun e he => hfair e (List.mem_append_left _ he)
  obtain ⟨hstore, hdurable⟩ := undergo_fixed d before
  have hsound : (d.undergo before).2.Sound := undergo_induct (fun _ _ h he => h.after he) hd hbefore
  have hafter : ∀ e ∈ Event.perform i o :: rest, e.Fair (d.undergo before).2.durable := by
    rw [hdurable]
    exact fun e he => hfair e (List.mem_append_right _ he)
  -- the keys in question were created before, so they have been given out by now
  have hgone : Gone key ((d.undergo before).2.after (.perform i o)).database :=
    hsound.gone_of_removes (fun k hk => ((hd.created hbefore).2 k hk).2) (hstore ▸ hremoves)
  have hsound' := hsound.after (hafter _ List.mem_cons_self)
  -- what is gone stays gone until the end
  have hkept (d' : Deployment) (e : Event) (h : d'.Sound ∧ Gone key d'.database)
      (he : e.Fair d'.durable) : (d'.after e).Sound ∧ Gone key (d'.after e).database :=
    ⟨h.1.after he, h.1.gone_after h.2 he⟩
  obtain ⟨hend, hgone'⟩ := undergo_induct hkept ⟨hsound', hgone⟩ fun e he => by
    rw [durable_after]
    exact hafter e (List.mem_cons_of_mem _ he)
  rw [← undergo_cons, ← undergo_append] at hend hgone'
  have hanswers := Gone.answersNothing (w := workspace _ j) hgone' hend.coherent (hend.derives j)
  rwa [(undergo_fixed d _).1] at hanswers

theorem removes_of_delete {d : Deployment} {s : Store} {created : List Key} {key : Key} {i : Nat}
    {text : String} (hstore : d.store = s) (hreads : s.reads text = .ok key)
    (h : (s.delete text (d.workspace i)).1 = .ok true) :
    Removes s created key (.delete text) (d.perform i (.delete text)).1 := by
  subst hstore
  have hanswer : (d.perform i (.delete text)).1 = .ok (.changed true) := by
    show ((Answer.changed <$> d.store.delete text) (d.workspace i)).1 = _
    rw [map_apply, h]
    rfl
  rw [hanswer]
  exact .delete hreads

theorem removes_of_clear {d : Deployment} {s : Store} {created : List Key} {key : Key} {i k : Nat}
    (hstore : d.store = s) (hmem : key ∈ created)
    (h : (s.clear key.typeName (d.workspace i)).1 = .ok k) :
    Removes s created key (.clear key.typeName) (d.perform i (.clear key.typeName)).1 := by
  subst hstore
  have hanswer : (d.perform i (.clear key.typeName)).1 = .ok (.removed k) := by
    show ((Answer.removed <$> d.store.clear key.typeName) (d.workspace i)).1 = _
    rw [map_apply, h]
    rfl
  rw [hanswer]
  exact .clear hmem

/-- One store deletes what another one has created, and after the database was opened again the type is
cleared. -/
def noteEvents : List Event :=
  [.perform 0 (.create "note" (.object [])), .perform 0 (.create "note" (.object [])),
    .perform 1 (.delete "note:1"), .reopen, .perform 0 (.clear "note"),
    .perform 1 (.create "note" (.object []))]

theorem keys_permanent_note :
    ((opened memberStore true 2).created noteEvents).Nodup ∧
      AnswersNothing memberStore (((opened memberStore true 2).undergo noteEvents).2.workspace 0)
        ⟨"note", 1⟩ ∧
      AnswersNothing memberStore (((opened memberStore true 2).undergo noteEvents).2.workspace 1)
        ⟨"note", 2⟩ := by
  have hfair : ∀ e ∈ noteEvents, e.Fair true := by
    simp [noteEvents, Event.Fair, Operation.Admits, Json.record?, Formed, Json.WellFormed,
      Json.MembersWellFormed]
  obtain ⟨⟨hnodup, -⟩, hgone⟩ := keys_permanent memberStore true 2 noteEvents hfair
  refine ⟨hnodup, ?_, ?_⟩
  · have hremoves : Removes memberStore ((opened memberStore true 2).created (noteEvents.take 2))
        ⟨"note", 1⟩ (.delete "note:1")
        (((opened memberStore true 2).undergo (noteEvents.take 2)).2.perform 1 (.delete "note:1")).1 :=
      removes_of_delete (undergo_fixed _ _).1 (by decide +kernel) (by decide +kernel)
    exact hgone _ 1 _ (noteEvents.drop 3) ⟨"note", 1⟩ rfl hremoves 0
  · have hremoves : Removes memberStore ((opened memberStore true 2).created (noteEvents.take 4))
        ⟨"note", 2⟩ (.clear "note")
        (((opened memberStore true 2).undergo (noteEvents.take 4)).2.perform 0 (.clear "note")).1 :=
      removes_of_clear (k := 2) (undergo_fixed _ _).1 (by decide +kernel) (by decide +kernel)
    exact hgone _ 0 _ (noteEvents.drop 5) ⟨"note", 2⟩ rfl hremoves 1

/-- An update of a record that was deleted is refused when the new value is no object. -/
theorem update_refused_when_gone :
    let d := ((opened memberStore false 1).run [(0, .create "t" (.object []))]).2
    let deleted := memberStore.delete "t:1" (d.workspace 0)
    deleted.1 = .ok true ∧
      (memberStore.update "t:1" (.array []) deleted.2).1 = .error (.schemaMismatch .notObject) := by
  decide +kernel

end RecordStore
