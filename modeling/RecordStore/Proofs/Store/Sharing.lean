import Mathlib
import RecordStore.Proofs.Query.Correct

/-!
Stores that share a database.  Each remembers schemas by itself and is not told when another store
drops one of them.  As long as no store drops a schema that another one consults, it makes no
difference which store an operation is given to.
-/
namespace RecordStore
open Database Transaction RecordStore.Action

/-- No store drops a schema that another store consults. -/
def Considerate (ops : List (Nat × Operation)) : Prop :=
  ∀ p ∈ ops, ∀ q ∈ ops, ∀ typeName, p.2.Drops typeName → q.2.Consults typeName → p.1 = q.1

namespace Deployment

theorem store_run (d : Deployment) (ops : List (Nat × Operation)) : (d.run ops).2.store = d.store := by
  induction ops generalizing d with
  | nil => rfl
  | cons p ops ih => exact ih (d.perform p.1 p.2).2

/-- What one of the stores works on. -/
def workspace (d : Deployment) (i : Nat) : Workspace :=
  ⟨d.database, d.sessions.getD i .fresh⟩

/-- The memories of all stores are faithful, and hold nothing but schemas that the stores have to do
with. -/
structure AllFaithful (d : Deployment) (concerns : Nat → String → Prop) : Prop where
  faithful : ∀ i, Faithful d.store (d.workspace i)
  known : ∀ i typeName,
    ((d.workspace i).session.schemas.lookup typeName).isSome = true → concerns i typeName

variable {d : Deployment} {i : Nat} {o : Operation}

theorem getD_replicate_fresh (stores i : Nat) :
    (List.replicate stores Session.fresh).getD i .fresh = .fresh := by
  by_cases hi : i < stores <;> simp [hi]

/-- Stores that remember nothing remember nothing wrong. -/
theorem allFaithful_of_fresh (hfresh : ∀ i, d.sessions.getD i .fresh = .fresh)
    (concerns : Nat → String → Prop) : d.AllFaithful concerns := by
  have hworkspace (i : Nat) : d.workspace i = ⟨d.database, .fresh⟩ :=
    congrArg (Workspace.mk d.database) (hfresh i)
  refine ⟨fun i => ?_, fun i typeName h => ?_⟩
  · rw [hworkspace]
    exact faithful_fresh d.store d.database
  · rw [hworkspace] at h
    cases h

theorem allFaithful_opened (s : Store) (durable : Bool) (stores : Nat)
    (concerns : Nat → String → Prop) : AllFaithful (opened s durable stores) concerns :=
  allFaithful_of_fresh (getD_replicate_fresh stores) concerns

theorem snd_perform (d : Deployment) (i : Nat) (o : Operation) : (d.perform i o).2 =
    { d with
      database := (d.store.perform o (d.workspace i)).2.database
      sessions := d.sessions.set i (d.store.perform o (d.workspace i)).2.session } :=
  rfl

theorem workspace_perform_other {j : Nat} (h : j ≠ i) :
    (d.perform i o).2.workspace j = ⟨(d.perform i o).2.database, (d.workspace j).session⟩ := by
  simp only [snd_perform, workspace, List.getD_eq_getElem?_getD]
  rw [List.getElem?_set_ne (Ne.symm h)]

/-- A store that acts finds its session again, unless it is none of the stores and has none. -/
theorem workspace_perform_same (d : Deployment) (i : Nat) (o : Operation) :
    (d.perform i o).2.workspace i = (d.store.perform o (d.workspace i)).2 ∨
      (d.perform i o).2.workspace i = ⟨(d.perform i o).2.database, .fresh⟩ := by
  simp only [snd_perform, workspace, List.getD_eq_getElem?_getD]
  by_cases hi : i < d.sessions.length
  · rw [List.getElem?_set_self hi]
    exact .inl rfl
  · rw [List.set_eq_of_length_le (by simpa using hi), List.getElem?_eq_none (by simpa using hi)]
    exact .inr rfl

/-- An operation that is given to one store leaves all memories faithful, if no other store has to do
with what it drops. -/
theorem AllFaithful.perform {concerns : Nat → String → Prop} (h : d.AllFaithful concerns)
    (hconsults : ∀ typeName, o.Consults typeName → concerns i typeName)
    (hdrops : ∀ typeName j, o.Drops typeName → concerns j typeName → j = i) :
    (d.perform i o).2.AllFaithful concerns := by
  have hblind := blind_perform d.store o
  constructor
  · intro j
    by_cases hj : j = i
    · subst hj
      rcases workspace_perform_same d j o with hsame | hsame <;> rw [hsame]
      · exact (h.faithful j).perform o
      · exact faithful_fresh _ _
    · -- what another store remembers is not dropped
      rw [workspace_perform_other hj]
      refine ⟨fun T S hl => ?_, (h.faithful j).keys⟩
      obtain ⟨text, htext, hparse⟩ := (h.faithful j).schemas T S hl
      refine ⟨text, hblind.stay (d.workspace i) T text (fun hdropped => ?_) htext, hparse⟩
      exact hj (hdrops T j hdropped (h.known j T (by rw [hl]; rfl)))
  · intro j T hT
    by_cases hj : j = i
    · subst hj
      rcases workspace_perform_same d j o with hsame | hsame <;> rw [hsame] at hT
      · exact (hblind.known (d.workspace j) T hT).elim (h.known j T) (hconsults T)
      · cases hT
    · rw [workspace_perform_other hj] at hT
      exact h.known j T hT

/-- One step of two deployments with one database: they answer alike and have one database again. -/
theorem AllFaithful.agrees_perform {d d' : Deployment} {concerns concerns' : Nat → String → Prop}
    (h : d.AllFaithful concerns) (h' : d'.AllFaithful concerns') (hstore : d'.store = d.store)
    (hdatabase : d.database = d'.database) (i j : Nat) (o : Operation) :
    (d.perform i o).1 = (d'.perform j o).1 ∧
      (d.perform i o).2.database = (d'.perform j o).2.database := by
  have hagrees : Agrees d.store (d.workspace i) (d'.workspace j) :=
    ⟨hdatabase, h.faithful i, hstore ▸ h'.faithful j⟩
  have hblind := blind_perform d.store o
  have hanswers := hblind.answers _ _ hagrees
  have hdatabases := (hblind.agrees _ _ hagrees).database
  refine ⟨?_, ?_⟩
  · show (d.store.perform o (d.workspace i)).1 = (d'.store.perform o (d'.workspace j)).1
    rw [hstore]
    exact hanswers
  · show (d.store.perform o (d.workspace i)).2.database =
      (d'.store.perform o (d'.workspace j)).2.database
    rw [hstore]
    exact hdatabases

/-- Whatever two deployments have done with their sessions, a considerate run is the same in both. -/
theorem AllFaithful.run_eq {concerns : Nat → String → Prop} {ops : List (Nat × Operation)}
    (hconsults : ∀ p ∈ ops, ∀ typeName, p.2.Consults typeName → concerns p.1 typeName)
    (hdrops : ∀ p ∈ ops, ∀ typeName j, p.2.Drops typeName → concerns j typeName → j = p.1) :
    ∀ {d d' : Deployment}, d.AllFaithful concerns → d'.AllFaithful (fun i _ => i = 0) →
      d'.store = d.store → d.database = d'.database →
      (d.run ops).1 = (d'.run (ops.map fun p => (0, p.2))).1 ∧
        (d.run ops).2.database = (d'.run (ops.map fun p => (0, p.2))).2.database ∧
        (d.run ops).2.AllFaithful concerns := by
  induction ops with
  | nil => exact fun h _ _ hdatabase => ⟨rfl, hdatabase, h⟩
  | cons p ops ih =>
    intro d d' h h' hstore hdatabase
    obtain ⟨i, o⟩ := p
    obtain ⟨hanswer, hdatabase'⟩ := h.agrees_perform h' hstore hdatabase i 0 o
    have hstep := h.perform (hconsults (i, o) List.mem_cons_self) (hdrops (i, o) List.mem_cons_self)
    have hstep' : (d'.perform 0 o).2.AllFaithful fun i _ => i = 0 :=
      h'.perform (fun _ _ => rfl) fun _ _ _ hj => hj
    obtain ⟨hanswers, hdatabases, hall⟩ := ih (fun q hq => hconsults q (List.mem_cons_of_mem _ hq))
      (fun q hq => hdrops q (List.mem_cons_of_mem _ hq)) hstep hstep' hstore hdatabase'
    refine ⟨?_, hdatabases, hall⟩
    show (d.perform i o).1 :: _ = (d'.perform 0 o).1 :: _
    rw [hanswer]
    exact congrArg _ hanswers

end Deployment

open Deployment

/-- The types whose schemas an operation of a run makes a store look up. -/
def ConsultedBy (ops : List (Nat × Operation)) (i : Nat) (typeName : String) : Prop :=
  ∃ o, (i, o) ∈ ops ∧ o.Consults typeName

/-- What a deployment says and holds when all memories are faithful: a schema that is published again
was there already, and whatever is asked about schemas is answered by the database. -/
structure FollowsDatabase (d : Deployment) : Prop where
  published : ∀ i T S, (d.perform i (.createSchema T S)).1 = .ok .done →
    (d.perform i (.createSchema T S)).2.database.schemaText? T = some S.text ∧
      ∃ n, ∀ ix ∈ S.indexes, ((d.perform i (.createSchema T S)).2.database.table?
        (Index.tableName d.store.settings.stem n ix.name)).isSome = true
  schema : ∀ i T, (d.perform i (.schema T)).1 =
    ((storedSchema T).run d.database).map fun found => .schema found.1
  query : ∀ i T index q, (d.perform i (.query T index q)).1 = (do
    let S ← (match d.database.schemaText? T with
      | none => .error (.schemaMismatch (.noSchema T))
      | some text => (Schema.parse text).mapError .serialization : Except Error Schema)
    let terms ← (q.terms.mapM d.store.resolveTerm (d.workspace i)).1
    d.database.queryIndex d.store.settings T S index { q with terms := terms }).map .page

theorem createSchema_eq_ok_of_perform {s : Store} {T : String} {S : Schema} {w : Workspace}
    (h : (s.perform (.createSchema T S) w).1 = .ok .done) : (s.createSchema T S w).1 = .ok () := by
  rcases bind_cases (s.createSchema T S) (fun _ => pure Answer.done) w with
    ⟨u, w', h', -⟩ | ⟨e, w', -, h'⟩
  · rw [h']
  · exact absurd (h.symm.trans (congrArg Prod.fst h')) nofun

theorem Deployment.AllFaithful.followsDatabase {d : Deployment} {concerns : Nat → String → Prop}
    (h : d.AllFaithful concerns) (hc : Coherent d.store.settings.stem Formed d.database) :
    FollowsDatabase d where
  published i T S hdone := by
    have htext := (h.faithful i).published_of_createSchema hc (createSchema_eq_ok_of_perform hdone)
    rw [← perform_createSchema] at htext
    have hformed : ∀ r, Formed r → (Json.object r).WellFormed := fun _ hr => hr
    have hc' : Coherent d.store.settings.stem Formed
        (d.perform i (.createSchema T S)).2.database :=
      coherent_perform (o := .createSchema T S) (w := d.workspace i) hformed rfl trivial hc
    obtain ⟨-, n, hn⟩ := hc'.schemas.each _ (mem_of_schemaText? htext)
    refine ⟨htext, n, fun ix hix => ?_⟩
    obtain ⟨t, ht, -⟩ := (hc'.holds T n S ⟨htext, hn⟩).tables ix hix
    exact Option.isSome_of_eq_some ht
  schema i T := by
    have hschema : (Store.schema T (d.workspace i)).1 = ((storedSchema T).run d.database).map (·.1) :=
      (h.faithful i).schema_eq T
    show ((Answer.schema <$> Store.schema T) (d.workspace i)).1 = _
    rw [map_apply, hschema]
    cases (storedSchema T).run d.database <;> rfl
  query i T index q := by
    show ((Answer.page <$> d.store.query T index q) (d.workspace i)).1 = _
    rw [map_apply, (h.faithful i).query_eq, (h.faithful i).requireSchema_eq]
    rfl

/-- While stores are considerate, it makes no difference which of them an operation is given to: the
answers and the database are those of one store that performs all operations.  What a store reports
as published is in the database then. -/
theorem considerate_run {ops : List (Nat × Operation)} (h : Considerate ops)
    (hadmits : ∀ p ∈ ops, p.2.Admits Formed) (s : Store) (durable : Bool) (stores : Nat) :
    ((opened s durable stores).run ops).1 =
        ((opened s durable 1).run (ops.map fun p => (0, p.2))).1 ∧
      ((opened s durable stores).run ops).2.database =
        ((opened s durable 1).run (ops.map fun p => (0, p.2))).2.database ∧
      FollowsDatabase ((opened s durable stores).run ops).2 := by
  have hdrops : ∀ p ∈ ops, ∀ T j, p.2.Drops T → ConsultedBy ops j T → j = p.1 := by
    rintro p hp T j hdrops ⟨o, ho, hconsults⟩
    exact (h p hp (j, o) ho T hdrops hconsults).symm
  obtain ⟨hanswers, hdatabase, hall⟩ := AllFaithful.run_eq
    (fun p hp T hT => ⟨p.2, hp, hT⟩) hdrops (allFaithful_opened s durable stores _)
    (allFaithful_opened s durable 1 _) rfl rfl
  have hreached := reached_run (d := opened s durable stores) .empty hadmits
  have hstore : ((opened s durable stores).run ops).2.store = s := store_run _ _
  refine ⟨hanswers, hdatabase, hall.followsDatabase ?_⟩
  rw [hstore]
  exact coherent_of_reached (fun _ hr => hr) hreached

/-! ### Two stores -/

def flagSchema : Schema where
  attributes := [⟨"flag", .boolean, none, true, .unchanged⟩]
  indexes := [⟨"by_flag", [⟨"flag", .ascending, .unchanged⟩], false⟩]
  sound := by decide

/-- One store publishes a schema, and the other one adds a record and asks for a page of them. -/
def considerateOps : List (Nat × Operation) :=
  [(0, .createSchema "t" flagSchema), (1, .create "t" (.object [])),
    (1, .scan "t" .ascending none none false), (0, .dropSchema "t")]

theorem considerate_run_pair :
    ((opened memberStore false 2).run considerateOps).1 =
        ((opened memberStore false 1).run (considerateOps.map fun p => (0, p.2))).1 ∧
      ((opened memberStore false 2).run considerateOps).2.database =
        ((opened memberStore false 1).run (considerateOps.map fun p => (0, p.2))).2.database ∧
      FollowsDatabase ((opened memberStore false 2).run considerateOps).2 := by
  refine considerate_run ?_ ?_ memberStore false 2
  · simp [Considerate, considerateOps, Operation.Drops, Operation.Consults]
  · simp [considerateOps, Operation.Admits, Json.record?, Formed, Json.WellFormed,
      Json.MembersWellFormed]

/-- A store that does not hear of a schema that another store drops reports that it is published, and
it is not. -/
theorem unheard_drop :
    let ops := [(0, .createSchema "t" flagSchema), (1, .dropSchema "t"),
      (0, .createSchema "t" flagSchema)]
    ((opened memberStore false 2).run ops).1.all (·.isOk) = true ∧
      ((opened memberStore false 2).run ops).2.database.schemaText? "t" = none ∧
      (((opened memberStore false 1).run (ops.map fun p => (0, p.2))).2.database.schemaText?
        "t").isSome = true := by
  decide +kernel

end RecordStore
