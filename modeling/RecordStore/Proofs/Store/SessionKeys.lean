import Mathlib
import RecordStore.Proofs.Key.Cache
import RecordStore.Proofs.Store.Sharing

/-!
The keys that stores remember.  A store keeps no key but those that its codec derives, whatever becomes of
the schemas that it remembers, so a text stands for one and the same key with every store at any time.
-/
namespace RecordStore
open Database Transaction RecordStore.Action

/-- The key that a text stands for. -/
def Store.reads (s : Store) (text : String) : Except Key.Fault Key :=
  (s.codec.decode text []).1

/-- An action that leaves derived keys only, if it finds no others. -/
def KeepsKeys (codec : KeyCodec) {α : Type} (x : Action α) : Prop :=
  ∀ w, codec.Derives w.session.keys → codec.Derives (x w).2.session.keys

section
variable {codec : KeyCodec} {α β : Type}

theorem keepsKeys_of_keys_eq {x : Action α} (h : ∀ w, (x w).2.session.keys = w.session.keys) :
    KeepsKeys codec x := by
  intro w hw
  rw [h w]
  exact hw

theorem keepsKeys_bind {x : Action α} {f : α → Action β} (hx : KeepsKeys codec x)
    (hf : ∀ a, KeepsKeys codec (f a)) : KeepsKeys codec (x >>= f) := by
  intro w hw
  have hfirst := hx w hw
  rcases bind_cases x f w with ⟨a, w', h, h'⟩ | ⟨e, w', h, h'⟩
  · rw [h] at hfirst
    rw [h']
    exact hf a w' hfirst
  · rw [h] at hfirst
    rw [h']
    exact hfirst

theorem keepsKeys_map {g : α → β} {x : Action α} (hx : KeepsKeys codec x) :
    KeepsKeys codec (g <$> x) := by
  intro w hw
  rw [map_apply]
  exact hx w hw

theorem keepsKeys_pure (a : α) : KeepsKeys codec (pure a : Action α) :=
  keepsKeys_of_keys_eq fun _ => rfl

theorem keepsKeys_throw (e : Error) : KeepsKeys codec (throw e : Action α) :=
  keepsKeys_of_keys_eq fun _ => rfl

theorem keepsKeys_lift (r : Except Error α) : KeepsKeys codec (lift r) :=
  keepsKeys_of_keys_eq fun _ => rfl

theorem keepsKeys_read (f : Database → Except Error α) : KeepsKeys codec (read f) :=
  keepsKeys_of_keys_eq fun _ => rfl

theorem keepsKeys_transact (t : Transaction α) : KeepsKeys codec (transact t) := by
  apply keepsKeys_of_keys_eq
  intro w
  rw [session_transact]

theorem keepsKeys_mapM {f : α → Action β} (hf : ∀ a, KeepsKeys codec (f a)) (xs : List α) :
    KeepsKeys codec (xs.mapM f) := by
  induction xs with
  | nil => exact keepsKeys_pure []
  | cons x xs ih =>
    rw [List.mapM_cons]
    apply keepsKeys_bind (hf x)
    intro y
    exact keepsKeys_bind ih fun ys => keepsKeys_pure _

theorem keepsKeys_schema (T : String) : KeepsKeys codec (Store.schema T) := by
  apply keepsKeys_of_keys_eq
  intro w
  unfold Store.schema
  split
  · rfl
  · split <;> rfl

theorem keepsKeys_requireSchema (T : String) : KeepsKeys codec (Store.requireSchema T) := by
  apply keepsKeys_bind (keepsKeys_schema T)
  intro found
  cases found with
  | none => exact keepsKeys_throw _
  | some S => exact keepsKeys_pure _

theorem keepsKeys_typeId (T : String) (create : Bool) : KeepsKeys codec (Store.typeId T create) := by
  apply keepsKeys_of_keys_eq
  intro w
  rw [session_typeId]

end

section
variable (s : Store)

/-- A text is read in one way whatever the store remembers. -/
theorem keyOf_eq {w : Workspace} (hw : s.codec.Derives w.session.keys) (text : String)
    (refuse : Key.Fault → Error) : ∃ w', s.keyOf text refuse w = ((s.reads text).mapError refuse, w') ∧
      w'.database = w.database := by
  have hkey := (hw.decode text).1
  refine ⟨(s.keyOf text refuse w).2, ?_, rfl⟩
  refine Prod.ext ?_ rfl
  show ((s.codec.decode text w.session.keys).1).mapError refuse = _
  rw [hkey]
  rfl

theorem keepsKeys_keyOf (text : String) (refuse : Key.Fault → Error) :
    KeepsKeys s.codec (s.keyOf text refuse) :=
  fun _ hw => (hw.decode text).2

theorem keepsKeys_resolve (text : String) : KeepsKeys s.codec (s.resolve text) := by
  apply keepsKeys_bind (keepsKeys_keyOf s text _)
  intro key
  exact keepsKeys_bind (keepsKeys_read _) fun n => keepsKeys_pure _

/-- An operation on the record of a text. -/
theorem keepsKeys_resolved {α : Type} (text : String) (none : α) (t : Key → UInt32 → Transaction α) :
    KeepsKeys s.codec (do
      match ← s.resolve text with
      | .none => return none
      | some (key, n) => transact (t key n)) := by
  apply keepsKeys_bind (keepsKeys_resolve s text)
  intro found
  cases found with
  | none => exact keepsKeys_pure _
  | some p => exact keepsKeys_transact _

theorem keepsKeys_createSchema (T : String) (S : Schema) :
    KeepsKeys s.codec (s.createSchema T S) := by
  apply keepsKeys_bind (keepsKeys_lift _)
  intro _
  apply keepsKeys_bind (keepsKeys_schema T)
  intro found
  cases found with
  | none =>
    apply keepsKeys_bind (keepsKeys_typeId T true)
    intro n
    apply keepsKeys_bind (keepsKeys_transact _)
    intro _
    exact keepsKeys_of_keys_eq fun _ => rfl
  | some known =>
    simp only
    split
    · exact keepsKeys_pure _
    · exact keepsKeys_throw _

theorem keepsKeys_dropSchema (T : String) : KeepsKeys s.codec (s.dropSchema T) := by
  apply keepsKeys_bind (keepsKeys_read _)
  intro found
  cases found with
  | none => exact keepsKeys_pure _
  | some n =>
    apply keepsKeys_bind (keepsKeys_transact _)
    intro b
    apply keepsKeys_bind (keepsKeys_of_keys_eq fun _ => rfl)
    intro _
    exact keepsKeys_pure _

theorem keepsKeys_create (T : String) (v : Json) : KeepsKeys s.codec (s.create T v) := by
  apply keepsKeys_bind (keepsKeys_lift _)
  intro _
  apply keepsKeys_bind (keepsKeys_lift _)
  intro r
  apply keepsKeys_bind (keepsKeys_typeId T true)
  intro n
  apply keepsKeys_bind (keepsKeys_transact _)
  intro id
  apply keepsKeys_bind (keepsKeys_transact _)
  intro _
  exact keepsKeys_pure _

theorem keepsKeys_retrieve (text : String) : KeepsKeys s.codec (s.retrieve text) := by
  apply keepsKeys_bind (keepsKeys_resolve s text)
  intro found
  cases found with
  | none => exact keepsKeys_pure _
  | some p =>
    apply keepsKeys_bind (keepsKeys_lift _)
    intro word
    apply keepsKeys_bind (keepsKeys_read _)
    intro row
    cases row with
    | none => exact keepsKeys_pure _
    | some row =>
      simp only
      split
      · exact keepsKeys_pure _
      · exact keepsKeys_throw _

theorem keepsKeys_multiRetrieve (texts : List String) :
    KeepsKeys s.codec (s.multiRetrieve texts) := by
  apply keepsKeys_bind
  · apply keepsKeys_mapM
    intro text
    apply keepsKeys_bind (keepsKeys_keyOf s text _)
    intro key
    exact keepsKeys_bind (keepsKeys_lift _) fun word => keepsKeys_pure _
  · intro wanted
    exact keepsKeys_bind (keepsKeys_read _) fun found => keepsKeys_pure _

theorem keepsKeys_clear (T : String) : KeepsKeys s.codec (s.clear T) := by
  apply keepsKeys_bind (keepsKeys_read _)
  intro found
  cases found with
  | none => exact keepsKeys_pure _
  | some n => exact keepsKeys_transact _

theorem keepsKeys_resolveTerm (t : Term) : KeepsKeys s.codec (s.resolveTerm t) := by
  have hid (v : FieldValue) : KeepsKeys s.codec (s.resolveId v) := by
    cases v with
    | text x =>
      simp only [Store.resolveId]
      split
      · exact keepsKeys_bind (keepsKeys_keyOf s x _) fun key => keepsKeys_pure _
      · exact keepsKeys_pure _
    | _ => exact keepsKeys_pure _
  simp only [Store.resolveTerm]
  split
  · split
    · exact keepsKeys_bind (hid _) fun v => keepsKeys_pure _
    · exact keepsKeys_bind (keepsKeys_mapM hid _) fun vs => keepsKeys_pure _
  · exact keepsKeys_pure _

theorem keepsKeys_query (T index : String) (q : Query) : KeepsKeys s.codec (s.query T index q) := by
  apply keepsKeys_bind (keepsKeys_requireSchema T)
  intro S
  exact keepsKeys_bind (keepsKeys_mapM (keepsKeys_resolveTerm s) _) fun terms => keepsKeys_read _

theorem keepsKeys_perform (o : Operation) : KeepsKeys s.codec (s.perform o) := by
  cases o with
  | createSchema T S =>
    exact keepsKeys_bind (keepsKeys_createSchema s T S) fun _ => keepsKeys_pure _
  | dropSchema T => exact keepsKeys_map (keepsKeys_dropSchema s T)
  | schema T => exact keepsKeys_map (keepsKeys_schema T)
  | create T v => exact keepsKeys_map (keepsKeys_create s T v)
  | retrieve k => exact keepsKeys_map (keepsKeys_retrieve s k)
  | multiRetrieve ks => exact keepsKeys_map (keepsKeys_multiRetrieve s ks)
  | update k v =>
    apply keepsKeys_map
    exact keepsKeys_bind (keepsKeys_lift _) fun r => keepsKeys_resolved s k false _
  | delete k => exact keepsKeys_map (keepsKeys_resolved s k false _)
  | quarantine k => exact keepsKeys_map (keepsKeys_resolved s k false _)
  | release k => exact keepsKeys_map (keepsKeys_resolved s k false _)
  | clear T => exact keepsKeys_map (keepsKeys_clear s T)
  | query T index q => exact keepsKeys_map (keepsKeys_query s T index q)
  | scan T d token size q => exact keepsKeys_map (keepsKeys_read _)
  | encodeKey key => exact keepsKeys_map fun _ hw => (hw.encode key).2
  | decodeKey text => exact keepsKeys_map (keepsKeys_keyOf s text _)

end

namespace Deployment

/-- All stores of a deployment remember derived keys only. -/
def AllDerive (d : Deployment) : Prop :=
  ∀ i, d.store.codec.Derives (d.workspace i).session.keys

theorem allDerive_opened (s : Store) (durable : Bool) (stores : Nat) :
    (opened s durable stores).AllDerive := by
  intro i
  have hfresh : (opened s durable stores).workspace i = ⟨.empty, .fresh⟩ :=
    congrArg (Workspace.mk .empty) (getD_replicate_fresh stores i)
  rw [hfresh]
  exact KeyCodec.Derives.nil _

theorem AllDerive.perform {d : Deployment} (h : d.AllDerive) (i : Nat) (o : Operation) :
    (d.perform i o).2.AllDerive := by
  intro j
  by_cases hj : j = i
  · subst hj
    rcases workspace_perform_same d j o with hsame | hsame
    · rw [hsame]
      exact keepsKeys_perform d.store o _ (h j)
    · rw [hsame]
      exact KeyCodec.Derives.nil _
  · rw [workspace_perform_other hj]
    exact h j

end Deployment

end RecordStore
