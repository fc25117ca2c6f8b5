import Mathlib
import RecordStore.Proofs.Number.Radix
import RecordStore.Proofs.Outcome
import RecordStore.Text.Hex

/-!
Numbers of a fixed width in lower-case hexadecimal digits.  Reading undoes writing, and a text that is
read is the one text that is written for its number.
-/
namespace RecordStore.Text
open Number

theorem length_lowerHex (width n : Nat) : (lowerHex width n).length = width := by
  rw [lowerHex, List.length_map, length_digits]

theorem isLowerHex_hexDigit {d : Nat} (h : d < 16) :
    '0' ≤ hexDigit d ∧ hexDigit d ≤ '9' ∨ 'a' ≤ hexDigit d ∧ hexDigit d ≤ 'f' := by
  have key : ∀ d ∈ List.range 16,
      '0' ≤ hexDigit d ∧ hexDigit d ≤ '9' ∨ 'a' ≤ hexDigit d ∧ hexDigit d ≤ 'f' := by decide
  exact key d (List.mem_range.2 h)

theorem isLowerHex_of_mem_lowerHex {width n : Nat} {c : Char} (h : c ∈ lowerHex width n) :
    '0' ≤ c ∧ c ≤ '9' ∨ 'a' ≤ c ∧ c ≤ 'f' := by
  rw [lowerHex, List.mem_map] at h
  obtain ⟨d, hd, rfl⟩ := h
  exact isLowerHex_hexDigit (lt_of_mem_digits (by decide) hd)

theorem mapM_lowerHexValue?_map {ds : List Nat} (h : ∀ d ∈ ds, d < 16) :
    (ds.map hexDigit).mapM lowerHexValue? = some ds :=
  mapM_map_eq_some fun d hd => lowerHexValue?_hexDigit (h d hd)

theorem map_hexDigit_of_mapM {cs : List Char} {ds : List Nat}
    (h : cs.mapM lowerHexValue? = some ds) : (∀ d ∈ ds, d < 16) ∧ ds.map hexDigit = cs :=
  map_eq_of_mapM (fun _ _ => hexDigit_of_lowerHexValue?) h

theorem ofLowerHex?_lowerHex {width n : Nat} (h : n < 16 ^ width) :
    ofLowerHex? width (lowerHex width n) = some n := by
  have hds : ∀ d ∈ digits 16 width n, d < 16 := fun d hd => lt_of_mem_digits (by decide) hd
  rw [ofLowerHex?, if_pos (length_lowerHex width n), lowerHex, mapM_lowerHexValue?_map hds,
    Option.map_some, ofDigits_digits h]

theorem lowerHex_of_ofLowerHex? {width n : Nat} {cs : List Char} (h : ofLowerHex? width cs = some n) :
    n < 16 ^ width ∧ lowerHex width n = cs := by
  rw [ofLowerHex?] at h
  split at h
  · next hlength =>
    obtain ⟨ds, hds, rfl⟩ := Option.map_eq_some_iff.1 h
    obtain ⟨hlt, hmap⟩ := map_hexDigit_of_mapM hds
    have hwidth : ds.length = width := by rw [← hlength, ← hmap, List.length_map]
    constructor
    · rw [← hwidth]
      exact ofDigits_lt hlt
    · rw [lowerHex, ← hwidth, digits_ofDigits hlt, hmap]
  · cases h

theorem lowerHex_injective {width n m : Nat} (hn : n < 16 ^ width) (hm : m < 16 ^ width)
    (h : lowerHex width n = lowerHex width m) : n = m := by
  have hread := ofLowerHex?_lowerHex hn
  rw [h, ofLowerHex?_lowerHex hm] at hread
  exact (Option.some.inj hread).symm

end RecordStore.Text
