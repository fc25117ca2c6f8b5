import Mathlib
import RecordStore.Proofs.Store.Sharing

/-!
Schemas as texts in the database.  A schema is kept as its text, and whoever reads the text again has
the schema: a later transaction, and every store that does not remember an older one.
-/
namespace RecordStore
open Database Transaction RecordStore.Action

/-! ### What is remembered and stored after publishing -/

section
variable {s : Store} {T : String} {S : Schema} {w w' : Workspace}

theorem lookup_of_schema (h : Store.schema T w = (.ok (some S), w')) :
    w'.session.schemas.lookup T = some S := by
  unfold Store.schema at h
  split at h
  · next known hknown =>
    obtain ⟨hfound, rfl⟩ := Prod.mk.inj h
    rw [hknown]
    exact Except.ok.inj hfound
  · split at h
    · cases (Prod.mk.inj h).1
    · cases (Prod.mk.inj h).1
    · obtain ⟨hfound, rfl⟩ := Prod.mk.inj h
      obtain rfl := Option.some.inj (Except.ok.inj hfound)
      exact Session.lookup_remember _ _ _

/-- Whether a schema was there or is new, it is remembered when it has been published. -/
theorem lookup_of_createSchema (h : s.createSchema T S w = (.ok (), w')) :
    w'.session.schemas.lookup T = some S := by
  obtain ⟨_, w₁, hcheck, h⟩ := Action.bind_eq_ok h
  obtain ⟨found, w₂, hfound, h⟩ := Action.bind_eq_ok h
  cases found with
  | some known =>
    by_cases hsame : known = S
    · simp only [if_pos hsame] at h
      obtain rfl : w₂ = w' := (Prod.mk.inj h).2
      rw [← hsame]
      exact lookup_of_schema hfound
    · simp only [if_neg hsame] at h
      cases (Prod.mk.inj h).1
  | none =>
    obtain ⟨n, w₃, -, h⟩ := Action.bind_eq_ok h
    obtain ⟨_, w₄, -, h⟩ := Action.bind_eq_ok h
    obtain rfl : { w₄ with session := w₄.session.remember T S } = w' := (Prod.mk.inj h).2
    exact Session.lookup_remember _ _ _

/-- The database holds the schema that a faithful store has published. -/
theorem Faithful.stored_of_createSchema (hf : Faithful s w)
    (hdone : (s.perform (.createSchema T S) w).1 = .ok .done) :
    ∃ text, (s.perform (.createSchema T S) w).2.database.schemaText? T = some text ∧
      Schema.parse text = .ok S := by
  have hok : s.createSchema T S w = (.ok (), (s.createSchema T S w).2) :=
    Prod.ext (createSchema_eq_ok_of_perform hdone) rfl
  have hremembered := lookup_of_createSchema hok
  rw [← perform_createSchema] at hremembered
  exact (hf.perform (.createSchema T S)).schemas T S hremembered

end

namespace Deployment
variable {d : Deployment} {T text : String}

theorem fst_perform (d : Deployment) (i : Nat) (o : Operation) :
    (d.perform i o).1 = (d.store.perform o (d.workspace i)).1 :=
  rfl

/-- What a store remembers stays as it is while only others act. -/
theorem workspace_run_other {ops : List (Nat × Operation)} {j : Nat} (h : ∀ p ∈ ops, j ≠ p.1) :
    (d.run ops).2.workspace j = ⟨(d.run ops).2.database, (d.workspace j).session⟩ := by
  induction ops generalizing d with
  | nil => rfl
  | cons p ops ih =>
    have hrest := @ih (d.perform p.1 p.2).2 fun q hq => h q (List.mem_cons_of_mem _ hq)
    rw [workspace_perform_other (h p List.mem_cons_self)] at hrest
    exact hrest

theorem schemaText?_perform {i : Nat} {o : Operation} (hdrops : ¬ o.Drops T)
    (h : d.database.schemaText? T = some text) :
    (d.perform i o).2.database.schemaText? T = some text :=
  (blind_perform d.store o).stay (d.workspace i) T text hdrops h

/-- The text of a schema stays as long as no store drops the schema. -/
theorem schemaText?_run {ops : List (Nat × Operation)} (hdrops : ∀ p ∈ ops, ¬ p.2.Drops T)
    (h : d.database.schemaText? T = some text) :
    (d.run ops).2.database.schemaText? T = some text := by
  induction ops generalizing d with
  | nil => exact h
  | cons p ops ih =>
    have hstep := schemaText?_perform (i := p.1) (hdrops p List.mem_cons_self) h
    exact ih (fun q hq => hdrops q (List.mem_cons_of_mem _ hq)) hstep

end Deployment

theorem storedSchema_of_text {db : Database} {T text : String} {S : Schema}
    (htext : db.schemaText? T = some text) (hparse : Schema.parse text = .ok S) :
    (storedSchema T).run db = .ok (some S, db) := by
  show storedSchema T db = _
  rw [storedSchema, htext]
  simp only [hparse]

open Deployment

/-- A schema that is accepted is what its text is read as, and so it is what a later transaction has
and what every store answers whose memory is faithful, until the schema is dropped.  A text that is
read as a schema need not be the text of the schema, but that text is the same ever after. -/
theorem schema_text_round_trip :
    (∀ (as : List Attribute) (ixs : List IndexDefinition) (S : Schema),
      Schema.ofParts as ixs = .ok S →
        S.attributes = as ∧ S.indexes = ixs ∧ Schema.parse S.text = .ok S ∧
        ∀ (d : Deployment) (i : Nat) (T : String), Faithful d.store (d.workspace i) →
          (d.perform i (.createSchema T S)).1 = .ok .done →
          ∀ ops : List (Nat × Operation), (∀ p ∈ ops, ¬ p.2.Drops T) →
            let d' := ((d.perform i (.createSchema T S)).2.run ops).2
            (storedSchema T).run d'.database = .ok (some S, d'.database) ∧
            ∀ j, Faithful d'.store (d'.workspace j) →
              (d'.perform j (.schema T)).1 = .ok (.schema (some S))) ∧
    ∀ (text : String) (S : Schema), Schema.parse text = .ok S →
      ∃ S', Schema.parse S.text = .ok S' ∧ S' = S ∧ S'.text = S.text := by
  constructor
  · intro as ixs S hS
    obtain ⟨rfl, rfl⟩ := Schema.parts_of_ofParts hS
    refine ⟨rfl, rfl, Schema.parse_text S, fun d i T hfaithful hdone ops hdrops => ?_⟩
    intro d'
    obtain ⟨text, htext, hparse⟩ := hfaithful.stored_of_createSchema hdone
    have hlater : d'.database.schemaText? T = some text := schemaText?_run hdrops htext
    have hstored := storedSchema_of_text hlater hparse
    refine ⟨hstored, fun j hj => ?_⟩
    rw [fst_perform, Store.perform]
    have hread : (Store.schema T (d'.workspace j)).1 = .ok (some S) := by
      rw [hj.schema_eq]
      exact congrArg (Except.map Prod.fst) hstored
    rw [map_apply, hread]
    rfl
  · intro text S _
    exact ⟨S, Schema.parse_text S, rfl, rfl⟩

/-- A schema without indexes. -/
def nickSchema : Schema where
  attributes := [⟨"nick", .i32, none, false, .unchanged⟩]
  indexes := []
  sound := by decide

/-- Blanks, another order and members left out: not the text of a schema, but read as one. -/
def nickText : String :=
  "\x7b \"indexes\": [], \"attributes\": [\x7b\"type\": \"I32\", \"name\": \"nick\"\x7d] \x7d"

/-- One store publishes a schema and adds a record, and the other one, which has done nothing yet,
answers the same schema. -/
theorem schema_text_round_trip_member :
    let d := opened memberStore false 2
    let d' := ((d.perform 0 (.createSchema "member" memberSchema)).2.run
      [(0, .create "member" memberRecord)]).2
    Schema.ofParts memberSchema.attributes memberSchema.indexes = .ok memberSchema ∧
      (storedSchema "member").run d'.database = .ok (some memberSchema, d'.database) ∧
      (d'.perform 1 (.schema "member")).1 = .ok (.schema (some memberSchema)) ∧
      Schema.parse nickText = .ok nickSchema ∧ nickSchema.text ≠ nickText ∧
      ∃ S, Schema.parse nickSchema.text = .ok S ∧ S = nickSchema ∧ S.text = nickSchema.text := by
  intro d d'
  have hparts := Schema.ofParts_self memberSchema
  have hcreate : (memberStore.createSchema "member" memberSchema ⟨.empty, .fresh⟩).1 = .ok () := by
    decide +kernel
  have hdone : (d.perform 0 (.createSchema "member" memberSchema)).1 = .ok .done := by
    have hstart : d.workspace 0 = ⟨.empty, .fresh⟩ := rfl
    rw [fst_perform, hstart, Store.perform, fst_bind]
    exact congrArg (· >>= fun _ => Except.ok Answer.done) hcreate
  have hother : d'.workspace 1 = ⟨d'.database, .fresh⟩ := by
    have hrun := @workspace_run_other (d.perform 0 (.createSchema "member" memberSchema)).2
      [(0, .create "member" memberRecord)] 1 (by simp)
    rw [workspace_perform_other (by decide)] at hrun
    exact hrun
  have hfaithful : Faithful d'.store (d'.workspace 1) := by
    rw [hother]
    exact faithful_fresh _ _
  obtain ⟨-, -, -, hread⟩ :=
    schema_text_round_trip.1 memberSchema.attributes memberSchema.indexes memberSchema hparts
  obtain ⟨hstored, hanswers⟩ := hread d 0 "member" (faithful_fresh memberStore .empty) hdone
    [(0, .create "member" memberRecord)] (by simp [Operation.Drops])
  have hnick : Schema.parse nickText = .ok nickSchema := by decide +kernel
  exact ⟨hparts, hstored, hanswers 1 hfaithful, hnick, by decide +kernel,
    schema_text_round_trip.2 nickText nickSchema hnick⟩

end RecordStore
