import Mathlib
import RecordStore.KeyCodec

/-!
A cache that holds nothing but keys that one codec derives makes no difference to what the codec
answers, and the codec leaves such a cache behind.
-/
namespace RecordStore

/-- Whether all keys in a cache are those that a codec derives. -/
def KeyCodec.Derives (c : KeyCodec) (cache : KeyCache) : Prop :=
  ∀ typeName k, cache.lookup typeName = some k → k = c.derive typeName

namespace KeyCodec.Derives
variable {c : KeyCodec} {cache : KeyCache}

theorem nil (c : KeyCodec) : c.Derives [] :=
  fun _ _ h => by cases h

theorem keyFor (h : c.Derives cache) (typeName : String) :
    (c.keyFor typeName cache).1 = c.derive typeName ∧ c.Derives (c.keyFor typeName cache).2 := by
  have hkey : (c.keyFor typeName cache).1 = c.derive typeName := by
    unfold KeyCodec.keyFor
    split
    · next k hk => exact h typeName k hk
    · rfl
  refine ⟨hkey, ?_⟩
  intro other k hk
  by_cases hother : other = typeName
  · rw [hother, c.lookup_keyFor typeName cache, Option.some.injEq] at hk
    rw [hother, ← hk, hkey]
  · rw [c.lookup_keyFor_of_ne hother] at hk
    exact h other k hk

/-- Decoding does not depend on the cache. -/
theorem decode (h : c.Derives cache) (text : String) :
    (c.decode text cache).1 = (c.decode text []).1 ∧ c.Derives (c.decode text cache).2 := by
  unfold KeyCodec.decode
  split
  · exact ⟨rfl, h⟩
  · split
    · next body _ =>
      cases opaqueParts? body with
      | none => exact ⟨rfl, h⟩
      | some p =>
        obtain ⟨typeName, block⟩ := p
        obtain ⟨hkey, hcache⟩ := h.keyFor typeName
        have hfresh := ((nil c).keyFor typeName).1
        refine ⟨?_, hcache⟩
        simp only [hkey, hfresh]
    · exact ⟨rfl, h⟩

/-- Encoding does not depend on the cache. -/
theorem encode (h : c.Derives cache) (key : Key) :
    (c.encode key cache).1 = (c.encode key []).1 ∧ c.Derives (c.encode key cache).2 := by
  unfold KeyCodec.encode
  split
  · obtain ⟨hkey, hcache⟩ := h.keyFor key.typeName
    have hfresh := ((nil c).keyFor key.typeName).1
    refine ⟨?_, hcache⟩
    simp only [hkey, hfresh]
  · exact ⟨rfl, h⟩

end KeyCodec.Derives

end RecordStore
