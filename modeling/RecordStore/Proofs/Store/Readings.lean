import Mathlib
import RecordStore.Proofs.Store.SessionKeys

/-!
What a store reads of texts.  A store whose keys are all derived by its codec reads a text, and a list of
texts, as one that remembers no keys, so the terms of a query and the keys of a bulk read are functions of
their texts alone.
-/
namespace RecordStore
open Database Transaction RecordStore.Action

/-- Whatever keys a store remembers, as long as its codec derives them, an action on a database gives one
result; it leaves the database as it is and such keys behind. -/
def Store.Gives (s : Store) (db : Database) {α : Type} (x : Action α) (r : Except Error α) : Prop :=
  ∀ w, s.codec.Derives w.session.keys → w.database = db →
    (x w).1 = r ∧ s.codec.Derives (x w).2.session.keys ∧ (x w).2.database = db

section
variable {s : Store} {db : Database} {α β : Type}

theorem gives_pure (a : α) : s.Gives db (pure a) (.ok a) :=
  fun _ hw hdb => ⟨rfl, hw, hdb⟩

theorem gives_lift (r : Except Error α) : s.Gives db (Action.lift r) r :=
  fun _ hw hdb => ⟨rfl, hw, hdb⟩

theorem gives_read (f : Database → Except Error α) : s.Gives db (Action.read f) (f db) :=
  fun _ hw hdb => ⟨congrArg f hdb, hw, hdb⟩

theorem gives_bind {x : Action α} {r : Except Error α} {f : α → Action β}
    {g : α → Except Error β} (hx : s.Gives db x r) (hf : ∀ a, s.Gives db (f a) (g a)) :
    s.Gives db (x >>= f) (r >>= g) := by
  intro w hw hdb
  obtain ⟨hr, hw', hdb'⟩ := hx w hw hdb
  rcases bind_cases x f w with ⟨a, w', h, h'⟩ | ⟨e, w', h, h'⟩
  · rw [h] at hr hw' hdb'
    rw [h', ← hr]
    exact hf a w' hw' hdb'
  · rw [h] at hr hw' hdb'
    rw [h', ← hr]
    exact ⟨rfl, hw', hdb'⟩

theorem gives_bind_ok {x : Action α} {a : α} {f : α → Action β} {r : Except Error β}
    (hx : s.Gives db x (.ok a)) (hf : s.Gives db (f a) r) : s.Gives db (x >>= f) r := by
  intro w hw hdb
  obtain ⟨ha, hw', hdb'⟩ := hx w hw hdb
  rw [bind_of_ok (Prod.ext ha rfl : x w = (.ok a, (x w).2))]
  exact hf _ hw' hdb'

theorem gives_mapM {f : α → Action β} {g : α → Except Error β} (hf : ∀ a, s.Gives db (f a) (g a))
    (xs : List α) : s.Gives db (xs.mapM f) (xs.mapM g) := by
  induction xs with
  | nil => exact gives_pure []
  | cons x xs ih =>
    rw [List.mapM_cons, List.mapM_cons]
    exact gives_bind (hf x) fun y => gives_bind ih fun ys => gives_pure (y :: ys)

theorem gives_keyOf (text : String) (refuse : Key.Fault → Error) :
    s.Gives db (s.keyOf text refuse) ((s.reads text).mapError refuse) := by
  intro w hw hdb
  obtain ⟨w', hkey, -⟩ := keyOf_eq s hw text refuse
  exact ⟨congrArg Prod.fst hkey, keepsKeys_keyOf s text refuse w hw, hdb⟩

end

/-! ### Keys and records -/

namespace Store

/-- The key of a text and its number as it is stored. -/
def wordOf (s : Store) (text : String) : Except Error (Key × Int64) := do
  let key ← (s.reads text).mapError .invalidKey
  let word ← keyWord key
  return (key, word)

/-- The record of a text. -/
def valueOf (s : Store) (db : Database) (text : String) : Except Error (Option Json) := do
  let key ← (s.reads text).mapError .invalidKey
  match ← db.typeId? key.typeName with
  | none => return none
  | some n =>
    let word ← keyWord key
    match db.record? (typeWord n) word with
    | none => return none
    | some row =>
      match Json.parse? row.text with
      | some v => return some v
      | none => throw (.serialization .malformed)

section
variable {s : Store} {db : Database} {text : String}

theorem gives_decodeWord (text : String) : s.Gives db (s.decodeWord text) (s.wordOf text) :=
  gives_bind (gives_keyOf text _) fun _ => gives_bind (gives_lift _) fun _ => gives_pure _

theorem gives_retrieve (text : String) : s.Gives db (s.retrieve text) (s.valueOf db text) := by
  simp only [retrieve, resolve, bind_assoc, pure_bind, valueOf]
  refine gives_bind (gives_keyOf text _) fun key => gives_bind (gives_read _) fun found => ?_
  cases found with
  | none => exact gives_pure none
  | some n =>
    refine gives_bind (gives_lift _) fun word => ?_
    refine gives_bind_ok (gives_read fun db => .ok (db.record? (typeWord n) word)) ?_
    cases db.record? (typeWord n) word with
    | none => exact gives_pure none
    | some row =>
      cases hv : Json.parse? row.text with
      | some v => simp only [hv]; exact gives_pure (some v)
      | none => simp only [hv]; exact gives_lift (.error (.serialization .malformed))

end

section
variable {s : Store} {w : Workspace} {texts : List String} {text : String}

theorem wordOf_eq_ok {p : Key × Int64} :
    s.wordOf text = .ok p ↔ s.reads text = .ok p.1 ∧ keyWord p.1 = .ok p.2 := by
  constructor
  · intro h
    obtain ⟨key, hkey, h⟩ := bind_eq_ok.1 h
    obtain ⟨m, hm, h⟩ := bind_eq_ok.1 h
    obtain rfl := Except.ok.inj h
    exact ⟨mapError_eq_ok.1 hkey, hm⟩
  · rintro ⟨hkey, hm⟩
    exact bind_eq_ok.2 ⟨p.1, mapError_eq_ok.2 hkey, bind_eq_ok.2 ⟨p.2, hm, rfl⟩⟩

theorem failsOnly_wordOf (text : String) :
    FailsOnly (fun e => ∃ f, e = .invalidKey f) (s.wordOf text) := by
  refine failsOnly_bind ?_ fun key _ => failsOnly_bind ?_ fun word _ => failsOnly_ok _
  · cases s.reads text with
    | error f => exact failsOnly_error ⟨f, rfl⟩
    | ok key => exact failsOnly_ok key
  · unfold keyWord
    split
    · exact failsOnly_ok _
    · exact failsOnly_error ⟨_, rfl⟩

/-- A bulk read asks the database for the numbers of its texts and answers in the order of the keys. -/
theorem multiRetrieve_eq (hkeys : s.codec.Derives w.session.keys) :
    (s.multiRetrieve texts w).1 = (do
      let wanted ← texts.mapM s.wordOf
      let found ← fetch w.database wanted
      return found.mergeSort fun a b => a.1.precedes b.1) :=
  (gives_bind (gives_mapM gives_decodeWord texts) (fun _ => gives_bind (gives_read _)
    fun _ => gives_pure _) w hkeys rfl).1

end

/-! ### Terms of a query -/

/-- A value of a term on the record number, with an opaque text replaced. -/
def plainId (s : Store) : FieldValue → Except Error FieldValue
  | .text t =>
    if t.toList.head? = some '@' then do
      let key ← (s.reads t).mapError fun f => .queryValidation (.undecodableId f)
      return .text key.text
    else return .text t
  | v => return v

/-- A term with its opaque texts replaced. -/
def plainTerm (s : Store) (t : Term) : Except Error Term :=
  if t.field = idAttribute then
    match t.operand with
    | .scalar v => do return { t with operand := .scalar (← s.plainId v) }
    | .list vs => do return { t with operand := .list (← vs.mapM s.plainId) }
  else return t

variable {s : Store} {db : Database}

theorem gives_resolveId (v : FieldValue) : s.Gives db (s.resolveId v) (s.plainId v) := by
  cases v with
  | text t =>
    simp only [resolveId, plainId]
    split
    · exact gives_bind (gives_keyOf t _) fun _ => gives_pure _
    · exact gives_pure _
  | _ => exact gives_pure _

theorem gives_resolveTerm (t : Term) : s.Gives db (s.resolveTerm t) (s.plainTerm t) := by
  obtain ⟨field, operator, operand⟩ := t
  simp only [resolveTerm, plainTerm]
  split
  · cases operand with
    | scalar v => exact gives_bind (gives_resolveId v) fun _ => gives_pure _
    | list vs => exact gives_bind (gives_mapM gives_resolveId vs) fun _ => gives_pure _
  · exact gives_pure _

/-- A query is answered from the schema that the store sees and the plain form of its terms. -/
theorem query_eq_of_derives {w : Workspace} (hkeys : s.codec.Derives w.session.keys)
    (T index : String) (q : Query) :
    (s.query T index q w).1 = (do
      let S ← (Store.requireSchema T w).1
      let terms ← q.terms.mapM s.plainTerm
      w.database.queryIndex s.settings T S index { q with terms := terms }) := by
  have hdatabase : (Store.requireSchema T w).2.database = w.database :=
    relates_requireSchema composes_eq T w
  have hkept : s.codec.Derives (Store.requireSchema T w).2.session.keys :=
    keepsKeys_requireSchema T w hkeys
  rw [Store.query, fst_bind]
  cases (Store.requireSchema T w).1 with
  | error e => rfl
  | ok S =>
    exact (gives_bind (gives_mapM gives_resolveTerm q.terms) (fun terms => gives_read _) _ hkept
      hdatabase).1

end Store

end RecordStore
