import Mathlib
import RecordStore.Proofs.Store.Faithful
import RecordStore.Proofs.Store.Reached

/-!
A store by itself.  While no other store works on the database, what the store remembers is faithful,
and a query sees the schema that is published, whatever the store has done before.
-/
namespace RecordStore
open Database Transaction RecordStore.Action

/-- What one store reaches by itself from an empty database. -/
inductive ReachedAlone (s : Store) (accepted : Record → Prop) : Workspace → Prop
  | fresh : ReachedAlone s accepted ⟨.empty, .fresh⟩
  | perform {w : Workspace} (o : Operation) :
    ReachedAlone s accepted w → o.Admits accepted → ReachedAlone s accepted (s.perform o w).2

namespace ReachedAlone
variable {s : Store} {accepted : Record → Prop} {w : Workspace}

theorem reached (h : ReachedAlone s accepted w) : Reached s.settings.stem accepted w.database := by
  induction h with
  | fresh => exact .empty
  | @perform w o _ ho ih => exact .perform s w.session o ih rfl ho

theorem faithful (h : ReachedAlone s accepted w) : Faithful s w := by
  induction h with
  | fresh => exact faithful_fresh s .empty
  | perform o _ _ ih => exact ih.perform o

theorem coherent (haccepted : ∀ r, accepted r → (Json.object r).WellFormed)
    (h : ReachedAlone s accepted w) : Coherent s.settings.stem accepted w.database :=
  coherent_of_reached haccepted h.reached

end ReachedAlone

/-! ### Queries of a faithful store -/

section
variable {s : Store} {w : Workspace} {T : String}

theorem Faithful.requireSchema_eq (h : Faithful s w) :
    (Store.requireSchema T w).1 =
      match w.database.schemaText? T with
      | none => .error (.schemaMismatch (.noSchema T))
      | some text => (Schema.parse text).mapError .serialization := by
  rw [Store.requireSchema, fst_bind, h.schema_eq]
  show (storedSchema T w.database).map _ >>= _ = _
  unfold storedSchema
  cases w.database.schemaText? T with
  | none => rfl
  | some text =>
    simp only
    cases Schema.parse text with
    | error e => rfl
    | ok S => rfl

theorem Faithful.requireSchema_of_published (h : Faithful s w) {n : UInt32} {S : Schema}
    (hp : Published w.database T n S) : (Store.requireSchema T w).1 = .ok S := by
  rw [h.requireSchema_eq, hp.text]
  simp only
  rw [Schema.parse_text]
  rfl

/-- The schema that a query has is published. -/
theorem Faithful.published_of_requireSchema (h : Faithful s w) (hs : SchemasSound w.database)
    {S : Schema} (hS : (Store.requireSchema T w).1 = .ok S) :
    ∃ n, Published w.database T n S := by
  rw [h.requireSchema_eq] at hS
  cases htext : w.database.schemaText? T with
  | none =>
    rw [htext] at hS
    cases hS
  | some text =>
    rw [htext] at hS
    obtain ⟨⟨S', rfl⟩, n, hn⟩ := hs.each _ (mem_of_schemaText? htext)
    have hparse := mapError_eq_ok.1 hS
    rw [Schema.parse_text] at hparse
    obtain rfl := Except.ok.inj hparse
    exact ⟨n, htext, hn⟩

/-- A query is that of the database, with the schema that is published and the terms as the store
reads them. -/
theorem Faithful.query_eq (h : Faithful s w) (index : String) (q : Query) :
    (s.query T index q w).1 = (do
      let S ← (Store.requireSchema T w).1
      let terms ← (q.terms.mapM s.resolveTerm w).1
      w.database.queryIndex s.settings T S index { q with terms := terms }) := by
  have hblind : Blind s (· = T) (fun _ => False) (Store.requireSchema T) :=
    blind_requireSchema rfl
  have hterms : Blind s (· = T) (fun _ => False) (q.terms.mapM s.resolveTerm) :=
    blind_mapM blind_resolveTerm q.terms
  -- looking up the schema leaves the database and a session as good as the one before
  have hdatabase : (Store.requireSchema T w).2.database = w.database :=
    relates_requireSchema composes_eq T w
  have hagrees : Agrees s (Store.requireSchema T w).2 w :=
    ⟨hdatabase, (hblind.agrees w w ⟨rfl, h, h⟩).left, h⟩
  have hread (w' : Workspace) :
      (q.terms.mapM s.resolveTerm w').2.database = w'.database :=
    relates_mapM composes_eq (relates_resolveTerm composes_eq s) q.terms w'
  rw [Store.query, fst_bind]
  congr 1
  funext S
  rw [fst_bind, hterms.answers _ _ hagrees]
  congr 1
  funext terms
  show Database.queryIndex _ _ _ _ _ _ = _
  rw [hread, hdatabase]

end

/-! ### Publishing -/

theorem perform_createSchema (s : Store) (T : String) (S : Schema) (w : Workspace) :
    (s.perform (.createSchema T S) w).2 = (s.createSchema T S w).2 := by
  rcases bind_cases (s.createSchema T S) (fun _ => pure Answer.done) w with
    ⟨u, w', h, h'⟩ | ⟨e, w', h, h'⟩
  · exact (congrArg Prod.snd h').trans (congrArg Prod.snd h).symm
  · exact (congrArg Prod.snd h').trans (congrArg Prod.snd h).symm

/-- A store whose memory is faithful publishes what it says it has published. -/
theorem Faithful.published_of_createSchema {s : Store} {stem : String} {accepted : Record → Prop}
    {w : Workspace} {T : String} {S : Schema} (h : Faithful s w)
    (hc : Coherent stem accepted w.database) (hdone : (s.createSchema T S w).1 = .ok ()) :
    (s.createSchema T S w).2.database.schemaText? T = some S.text := by
  generalize hw' : (s.createSchema T S w).2 = w'
  have hok : s.createSchema T S w = (.ok (), w') := Prod.ext hdone hw'
  obtain ⟨_, w₁, hcheck, hok⟩ := Action.bind_eq_ok hok
  obtain rfl : w = w₁ := (Prod.mk.inj hcheck).2
  obtain ⟨found, w₁, hfound, hok⟩ := Action.bind_eq_ok hok
  have hstored := h.schema_eq T
  have hdatabase : (Store.schema T w).2.database = w.database :=
    relates_schema (R := fun db db' => db' = db) (fun _ => rfl) T w
  rw [hfound] at hstored hdatabase
  obtain ⟨⟨found, db⟩, hrun, rfl⟩ := map_eq_ok.1 hstored.symm
  obtain ⟨-, hfinds⟩ := storedSchema_eq_ok hrun
  rcases hfinds with ⟨rfl, -⟩ | ⟨text, known, rfl, htext, hparse⟩
  · -- a new schema is written with its text
    obtain ⟨n, w₂, -, hok⟩ := Action.bind_eq_ok hok
    obtain ⟨_, w₃, hpublish, hok⟩ := Action.bind_eq_ok hok
    obtain ⟨-, hnone, hschemas⟩ := fixed_publish (transact_eq_ok hpublish)
    obtain rfl : { w₃ with session := w₃.session.remember T S } = w' := (Prod.mk.inj hok).2
    rw [schemaText?, Option.map_eq_none_iff] at hnone
    rw [schemaText?, hschemas, List.find?_append, hnone]
    simp
  · -- a schema that is there already is the one that was given
    obtain ⟨⟨known', rfl⟩, -⟩ := hc.schemas.each _ (mem_of_schemaText? htext)
    rw [Schema.parse_text] at hparse
    obtain rfl := Except.ok.inj hparse
    by_cases hsame : known' = S
    · simp only [if_pos hsame] at hok
      obtain rfl : w₁ = w' := (Prod.mk.inj hok).2
      rw [hdatabase, ← hsame]
      exact htext
    · simp only [if_neg hsame] at hok
      cases hok

end RecordStore
