import Mathlib
import RecordStore.Proofs.Json.Reading

/-!
A value that is written is read back.  `ofDocument?_document` says which value comes back: the value
itself, but for the last bit of a double in it.  Beyond the levels that a value has, the number of
levels that a reader may open does not matter.
-/
namespace RecordStore

namespace Json
open Document Number

/-! ### The value of a document -/

mutual

/-- Whether a value can occur: its doubles are canonical, and objects list their members sorted by
name with one member a name. -/
def WellFormed : Json → Prop
  | .real x => x.magnitude.Canonical
  | .array vs => ItemsWellFormed vs
  | .object ms => MembersWellFormed ms
  | _ => True

def ItemsWellFormed : List Json → Prop
  | [] => True
  | v :: vs => WellFormed v ∧ ItemsWellFormed vs

def MembersWellFormed : List (String × Json) → Prop
  | [] => True
  | (k, v) :: ms => WellFormed v ∧ (∀ m ∈ ms, k < m.1) ∧ MembersWellFormed ms

end

mutual

/-- A value after it was written and read: a double in it can be another one. -/
def reread : Json → Json
  | .real x => .real ((realLiteral x).toDouble?.getD x)
  | .array vs => .array (rereadItems vs)
  | .object ms => .object (rereadMembers ms)
  | v => v

def rereadItems : List Json → List Json
  | [] => []
  | v :: vs => reread v :: rereadItems vs

def rereadMembers : List (String × Json) → List (String × Json)
  | [] => []
  | (k, v) :: ms => (k, reread v) :: rereadMembers ms

end

theorem member?_rereadMembers (name : String) (ms : Record) :
    member? name (rereadMembers ms) = (member? name ms).map reread := by
  induction ms with
  | nil => rfl
  | cons m ms ih =>
    obtain ⟨k, v⟩ := m
    rw [rereadMembers, member?, member?, List.lookup_cons, List.lookup_cons]
    split
    · rfl
    · exact ih

theorem toJson?_realLiteral {x : Binary64} (hx : x.magnitude.Canonical) :
    (realLiteral x).toJson? = some (reread (.real x)) := by
  have hsome := isSome_toDouble?_realLiteral hx
  have hparts : ¬ ((realLiteral x).fraction.isNone = true ∧
      (realLiteral x).exponent.isNone = true) := by
    unfold realLiteral
    simp only
    repeat' split
    all_goals simp
  have hcond : ¬ ((realLiteral x).fraction.isNone = true ∧ (realLiteral x).exponent.isNone = true ∧
      ¬ ((realLiteral x).negative = true ∧
        Nat.ofDigitChars 10 (realLiteral x).whole 0 = 0)) := fun h => hparts ⟨h.1, h.2.1⟩
  obtain ⟨y, hy⟩ := Option.isSome_iff_exists.1 hsome
  rw [NumberLiteral.toJson?]
  simp only [if_neg hcond, hy, reread, Option.getD_some, Option.map_some]

/-- A member whose name comes after all others goes to the end. -/
theorem put_of_lt {k : String} (v : Json) {r : Record} (h : ∀ m ∈ r, m.1 < k) :
    put k v r = r ++ [(k, v)] := by
  induction r with
  | nil => rfl
  | cons m r ih =>
    obtain ⟨l, w⟩ := m
    have hlt : l < k := h (l, w) (by simp)
    rw [put, if_neg (lt_asymm hlt), if_neg hlt.ne', ih fun m hm => h m (by simp [hm])]
    rfl

mutual

theorem ofDocument?_document (v : Json) (hv : WellFormed v) :
    ofDocument? (document v) = some (reread v) := by
  match v with
  | .null => rfl
  | .bool b => rfl
  | .integer n => exact toJson?_integerLiteral n
  | .real x => exact toJson?_realLiteral hv
  | .string s => rfl
  | .array vs => simp [document, ofDocument?, reread, ofItems?_documents vs hv]
  | .object ms =>
    have h := ofMembers?_memberDocuments ms hv [] (by simp)
    simp [document, ofDocument?, reread, h]

theorem ofItems?_documents (vs : List Json) (hvs : ItemsWellFormed vs) :
    ofItems? (documents vs) = some (rereadItems vs) := by
  match vs with
  | [] => rfl
  | v :: vs =>
    simp [documents, ofItems?, rereadItems, ofDocument?_document v hvs.1,
      ofItems?_documents vs hvs.2]

theorem ofMembers?_memberDocuments (ms : List (String × Json)) (hms : MembersWellFormed ms)
    (r : Record) (hr : ∀ m ∈ r, ∀ k ∈ ms, m.1 < k.1) :
    ofMembers? (memberDocuments ms) r = some (r ++ rereadMembers ms) := by
  match ms with
  | [] => simp [memberDocuments, ofMembers?, rereadMembers]
  | (k, v) :: ms =>
    obtain ⟨hv, hlt, hms⟩ := hms
    have hput := put_of_lt (reread v) (k := k) (r := r) fun m hm => hr m hm (k, v) (by simp)
    have hrest := ofMembers?_memberDocuments ms hms (r ++ [(k, reread v)]) (by
      intro m hm n hn
      rcases List.mem_append.1 hm with hm | hm
      · exact hr m hm n (by simp [hn])
      · rw [List.mem_singleton.1 hm]
        exact hlt n hn)
    simp [memberDocuments, ofMembers?, rereadMembers, ofDocument?_document v hv, hput, hrest]

end

/-- A value that is stored is read back, but for the last bit of its doubles. -/
theorem parse?_text {v : Json} (hv : WellFormed v) (hd : depth v ≤ maxDepth) :
    parse? v.text = some (reread v) := by
  simp [parse?, read?_text v hd, ofDocument?_document v hv]

/-! ### Levels -/

/-- More levels than a value needs change nothing. -/
def KeepsValues (fuel d e : Nat) : Prop :=
  ∀ (cs : List Char) (x : Document × List Char),
    value fuel d cs = some x → value fuel e cs = some x

def KeepsItems (fuel d e : Nat) : Prop :=
  ∀ (cs : List Char) (x : List Document × List Char),
    items fuel d cs = some x → items fuel e cs = some x

def KeepsMembers (fuel d e : Nat) : Prop :=
  ∀ (cs : List Char) (x : List (Option String × Document) × List Char),
    members fuel d cs = some x → members fuel e cs = some x

theorem keepsValues_succ {fuel : Nat}
    (hitems : ∀ d e, d ≤ e → KeepsItems fuel d e)
    (hmembers : ∀ d e, d ≤ e → KeepsMembers fuel d e) {d e : Nat} (hde : d ≤ e) :
    KeepsValues (fuel + 1) d e := by
  intro cs x h
  unfold value at h ⊢
  split at h
  all_goals try exact h
  · cases d with
    | zero => cases h
    | succ d =>
      obtain ⟨e, rfl⟩ : ∃ k, e = k + 1 := ⟨e - 1, by omega⟩
      simp only at h ⊢
      split at h
      · exact h
      · obtain ⟨y, hy, rfl⟩ := Option.map_eq_some_iff.1 h
        rw [hitems d e (by omega) _ _ hy]
        rfl
  · cases d with
    | zero => cases h
    | succ d =>
      obtain ⟨e, rfl⟩ : ∃ k, e = k + 1 := ⟨e - 1, by omega⟩
      simp only at h ⊢
      split at h
      · exact h
      · obtain ⟨y, hy, rfl⟩ := Option.map_eq_some_iff.1 h
        rw [hmembers d e (by omega) _ _ hy]
        rfl

theorem keepsItems_succ {fuel d e : Nat} (hvalues : KeepsValues fuel d e)
    (hitems : KeepsItems fuel d e) : KeepsItems (fuel + 1) d e := by
  intro cs x h
  unfold items at h ⊢
  cases hv : value fuel d cs with
  | none => simp [hv] at h
  | some y =>
    rw [hvalues _ _ hv]
    simp only [hv] at h ⊢
    split at h
    · exact h
    · obtain ⟨z, hz, rfl⟩ := Option.map_eq_some_iff.1 h
      rw [hitems _ _ hz]
      rfl
    · cases h

theorem keepsMembers_succ {fuel d e : Nat} (hvalues : KeepsValues fuel d e)
    (hmembers : KeepsMembers fuel d e) : KeepsMembers (fuel + 1) d e := by
  intro cs x h
  unfold members at h ⊢
  split at h
  · cases hk : stringBody ‹List Char› with
    | none => simp [hk] at h
    | some y =>
      simp only [hk] at h ⊢
      split at h
      · cases hv : value fuel d ‹List Char› with
        | none => simp [hv] at h
        | some z =>
          rw [hvalues _ _ hv]
          simp only [hv] at h ⊢
          split at h
          · exact h
          · obtain ⟨u, hu, rfl⟩ := Option.map_eq_some_iff.1 h
            rw [hmembers _ _ hu]
            rfl
          · cases h
      · cases h
  · cases h

theorem keeps (fuel : Nat) : (∀ d e, d ≤ e → KeepsValues fuel d e) ∧
    (∀ d e, d ≤ e → KeepsItems fuel d e) ∧ ∀ d e, d ≤ e → KeepsMembers fuel d e := by
  induction fuel with
  | zero =>
    refine ⟨fun d e _ cs x h => ?_, fun d e _ cs x h => ?_, fun d e _ cs x h => ?_⟩
    · simp [value] at h
    · simp [items] at h
    · simp [members] at h
  | succ fuel ih =>
    obtain ⟨hvalues, hitems, hmembers⟩ := ih
    exact ⟨fun d e hde => keepsValues_succ hitems hmembers hde,
      fun d e hde => keepsItems_succ (hvalues d e hde) (hitems d e hde),
      fun d e hde => keepsMembers_succ (hvalues d e hde) (hmembers d e hde)⟩

theorem read?_mono {d e : Nat} (hde : d ≤ e) {s : String} {x : Document}
    (h : read? d s = some x) : read? e s = some x := by
  unfold read? readSome at h ⊢
  simp only at h ⊢
  cases hv : value (2 * s.toList.length + 2) d s.toList with
  | none => simp [hv] at h
  | some y =>
    rw [(keeps _).1 d e hde _ _ hv]
    simpa only [hv] using h

/-- The value that a text is, however deep it nests. -/
def denoted? (text : String) : Option Json :=
  (read? text.length text).bind ofDocument?

mutual

theorem depth_le (v : Json) : depth v ≤ (chars v).length := by
  match v with
  | .null | .bool _ | .integer _ | .real _ | .string _ => exact Nat.zero_le _
  | .array vs =>
    have := itemsDepth_le vs
    simp only [depth, chars, List.length_cons]
    omega
  | .object ms =>
    have := membersDepth_le ms
    simp only [depth, chars, List.length_cons]
    omega

theorem itemsDepth_le (vs : List Json) : itemsDepth vs ≤ (itemChars vs).length := by
  match vs with
  | [] => exact Nat.zero_le _
  | [v] =>
    have := depth_le v
    simp only [itemsDepth, itemChars, List.length_append]
    omega
  | v :: w :: vs =>
    have hv := depth_le v
    have hvs := itemsDepth_le (w :: vs)
    rw [itemsDepth, itemChars, List.length_append, List.length_cons]
    · omega
    · simp

theorem membersDepth_le (ms : List (String × Json)) : membersDepth ms ≤ (memberChars ms).length := by
  match ms with
  | [] => exact Nat.zero_le _
  | [(k, v)] =>
    have := depth_le v
    simp only [membersDepth, memberChars, List.length_append, List.length_cons]
    omega
  | (k, v) :: (l, w) :: ms =>
    have hv := depth_le v
    have hms := membersDepth_le ((l, w) :: ms)
    rw [membersDepth, memberChars, List.length_append, List.length_cons, List.length_append,
      List.length_cons]
    · omega
    · simp

end

theorem denoted?_text {v : Json} (hv : WellFormed v) : denoted? v.text = some (reread v) := by
  have hd : depth v ≤ v.text.length := by
    simpa [text] using depth_le v
  simp [denoted?, read?_text v hd, ofDocument?_document v hv]

/-- However many levels a reader may open, if it reads the text of a value it finds the document of that
value. -/
theorem document_of_read? {d : Nat} {v : Json} {x : Document} (h : read? d v.text = some x) :
    x = document v := by
  have hdeep := read?_mono (le_max_left d (depth v)) h
  rw [read?_text v (le_max_right _ _)] at hdeep
  exact (Option.some.inj hdeep).symm

/-- Whatever a stored text is read as, it denotes. -/
theorem eq_reread_of_parse? {v w : Json} (hv : WellFormed v) (h : parse? v.text = some w) :
    w = reread v := by
  obtain ⟨x, hx, hw⟩ := Option.bind_eq_some_iff.1 h
  rw [document_of_read? hx, ofDocument?_document v hv] at hw
  exact (Option.some.inj hw).symm

end Json

end RecordStore
