import Mathlib
import RecordStore.Proofs.Json.Integral

/-!
Levels of a text.  A reader finds no document that is deeper than the levels that it may open, so a value
that nests deeper than stored text may is not read back.
-/
namespace RecordStore.Json
open Document

/-! ### The levels of a document -/

mutual

/-- The number of levels that a document opens. -/
def levels : Document → Nat
  | .array ds => itemsLevels ds + 1
  | .object ms => membersLevels ms + 1
  | _ => 0

def itemsLevels : List Document → Nat
  | [] => 0
  | d :: ds => max (levels d) (itemsLevels ds)

def membersLevels : List (Option String × Document) → Nat
  | [] => 0
  | (_, d) :: ms => max (levels d) (membersLevels ms)

end

mutual

theorem levels_document (v : Json) : levels (document v) = depth v := by
  match v with
  | .null | .bool _ | .integer _ | .real _ | .string _ => rfl
  | .array vs => rw [document, levels, depth, itemsLevels_documents vs]
  | .object ms => rw [document, levels, depth, membersLevels_documents ms]

theorem itemsLevels_documents (vs : List Json) : itemsLevels (documents vs) = itemsDepth vs := by
  match vs with
  | [] => rfl
  | v :: vs => rw [documents, itemsLevels, itemsDepth, levels_document v, itemsLevels_documents vs]

theorem membersLevels_documents (ms : List (String × Json)) :
    membersLevels (memberDocuments ms) = membersDepth ms := by
  match ms with
  | [] => rfl
  | (k, v) :: ms =>
    rw [memberDocuments, membersLevels, membersDepth, levels_document v, membersLevels_documents ms]

end

/-! ### What a reader may open -/

/-- No value that is read has more levels than may be opened. -/
def BoundsValues (fuel : Nat) : Prop :=
  ∀ (d : Nat) (cs rest : List Char) (x : Document), value fuel d cs = some (x, rest) → levels x ≤ d

def BoundsItems (fuel : Nat) : Prop :=
  ∀ (d : Nat) (cs rest : List Char) (xs : List Document), items fuel d cs = some (xs, rest) →
    itemsLevels xs ≤ d

def BoundsMembers (fuel : Nat) : Prop :=
  ∀ (d : Nat) (cs rest : List Char) (ms : List (Option String × Document)),
    members fuel d cs = some (ms, rest) → membersLevels ms ≤ d

theorem boundsValues_succ {fuel : Nat} (hitems : BoundsItems fuel) (hmembers : BoundsMembers fuel) :
    BoundsValues (fuel + 1) := by
  intro d cs rest x h
  unfold value at h
  split at h
  · obtain ⟨rfl, -⟩ := Prod.mk.inj (Option.some.inj h)
    exact Nat.zero_le d
  · obtain ⟨rfl, -⟩ := Prod.mk.inj (Option.some.inj h)
    exact Nat.zero_le d
  · obtain ⟨rfl, -⟩ := Prod.mk.inj (Option.some.inj h)
    exact Nat.zero_le d
  · obtain ⟨y, -, hx⟩ := Option.map_eq_some_iff.1 h
    obtain ⟨rfl, -⟩ := Prod.mk.inj hx
    exact Nat.zero_le d
  · -- an array opens one level, and its items have those that are left
    cases d with
    | zero => cases h
    | succ d =>
      simp only at h
      split at h
      · obtain ⟨rfl, -⟩ := Prod.mk.inj (Option.some.inj h)
        exact Nat.succ_le_succ (Nat.zero_le d)
      · obtain ⟨y, hy, hx⟩ := Option.map_eq_some_iff.1 h
        obtain ⟨rfl, -⟩ := Prod.mk.inj hx
        exact Nat.succ_le_succ (hitems d _ _ _ hy)
  · cases d with
    | zero => cases h
    | succ d =>
      simp only at h
      split at h
      · obtain ⟨rfl, -⟩ := Prod.mk.inj (Option.some.inj h)
        exact Nat.succ_le_succ (Nat.zero_le d)
      · obtain ⟨y, hy, hx⟩ := Option.map_eq_some_iff.1 h
        obtain ⟨rfl, -⟩ := Prod.mk.inj hx
        exact Nat.succ_le_succ (hmembers d _ _ _ hy)
  · obtain ⟨y, -, hx⟩ := Option.map_eq_some_iff.1 h
    obtain ⟨rfl, -⟩ := Prod.mk.inj hx
    exact Nat.zero_le d

theorem boundsItems_succ {fuel : Nat} (hvalues : BoundsValues fuel) (hitems : BoundsItems fuel) :
    BoundsItems (fuel + 1) := by
  intro d cs rest xs h
  unfold items at h
  cases hv : value fuel d cs with
  | none => simp [hv] at h
  | some y =>
    have hfirst : levels y.1 ≤ d := hvalues d cs y.2 y.1 hv
    simp only [hv] at h
    split at h
    · obtain ⟨rfl, -⟩ := Prod.mk.inj (Option.some.inj h)
      exact max_le hfirst (Nat.zero_le d)
    · obtain ⟨z, hz, hx⟩ := Option.map_eq_some_iff.1 h
      obtain ⟨rfl, -⟩ := Prod.mk.inj hx
      exact max_le hfirst (hitems d _ _ _ hz)
    · cases h

theorem boundsMembers_succ {fuel : Nat} (hvalues : BoundsValues fuel) (hmembers : BoundsMembers fuel) :
    BoundsMembers (fuel + 1) := by
  intro d cs rest ms h
  unfold members at h
  split at h
  · cases hk : stringBody ‹List Char› with
    | none => simp [hk] at h
    | some y =>
      simp only [hk] at h
      split at h
      · cases hv : value fuel d ‹List Char› with
        | none => simp [hv] at h
        | some z =>
          have hfirst : levels z.1 ≤ d := hvalues d _ z.2 z.1 hv
          simp only [hv] at h
          split at h
          · obtain ⟨rfl, -⟩ := Prod.mk.inj (Option.some.inj h)
            exact max_le hfirst (Nat.zero_le d)
          · obtain ⟨u, hu, hx⟩ := Option.map_eq_some_iff.1 h
            obtain ⟨rfl, -⟩ := Prod.mk.inj hx
            exact max_le hfirst (hmembers d _ _ _ hu)
          · cases h
      · cases h
  · cases h

theorem bounds (fuel : Nat) : BoundsValues fuel ∧ BoundsItems fuel ∧ BoundsMembers fuel := by
  induction fuel with
  | zero =>
    refine ⟨fun d cs rest x h => ?_, fun d cs rest xs h => ?_, fun d cs rest ms h => ?_⟩
    · simp [value] at h
    · simp [items] at h
    · simp [members] at h
  | succ fuel ih =>
    obtain ⟨hvalues, hitems, hmembers⟩ := ih
    exact ⟨boundsValues_succ hitems hmembers, boundsItems_succ hvalues hitems,
      boundsMembers_succ hvalues hmembers⟩

end RecordStore.Json
