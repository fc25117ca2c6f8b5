import Mathlib

/-!
Texts are ordered by their characters as they are by their octets: the UTF-8 encoding keeps the order,
since a lesser character has the lesser octet where the two encodings first differ.
-/
namespace RecordStore.Text

/-- The octets of a text. -/
def utf8Octets (s : String) : List UInt8 :=
  s.toUTF8.data.toList

theorem utf8Octets_eq (s : String) : utf8Octets s = s.toList.flatMap String.utf8EncodeChar := by
  conv_lhs => rw [← String.ofList_toList (s := s)]
  have hbytes : (String.ofList s.toList).toUTF8 =
      (s.toList.flatMap String.utf8EncodeChar).toByteArray := by
    rw [String.toUTF8_eq_toByteArray]
    rfl
  rw [utf8Octets, hbytes]
  simp

theorem ofNat_lt_ofNat {n m : Nat} (hm : m < 256) (h : n < m) : UInt8.ofNat n < UInt8.ofNat m := by
  have hn : n < 256 := by omega
  rw [UInt8.lt_iff_toNat_lt, UInt8.toNat_ofNat_of_lt' hn, UInt8.toNat_ofNat_of_lt' hm]
  exact h

/-- Of two numbers the lesser has the lesser leading digit, or the same one and a lesser rest. -/
theorem digit_lt_or_eq {b d v w : Nat} (h : v % (b * d) < w % (b * d)) :
    v / b % d < w / b % d ∨ v / b % d = w / b % d ∧ v % b < w % b := by
  rw [Nat.mod_mul, Nat.mod_mul] at h
  rcases lt_trichotomy (v / b % d) (w / b % d) with hlt | heq | hgt
  · exact .inl hlt
  · rw [heq] at h
    exact .inr ⟨heq, by omega⟩
  · have hb : 0 < b := Nat.pos_of_ne_zero (by rintro rfl; simp at hgt)
    have hw := Nat.mod_lt w hb
    have hstep : b * (w / b % d + 1) ≤ b * (v / b % d) := Nat.mul_le_mul_left b hgt
    rw [Nat.mul_add, Nat.mul_one] at hstep
    omega

/-- An octet that carries the leading digit decides, unless the digits are equal and the rest does. -/
theorem cons_lt_of_mod_lt {b d o v w : Nat} {x y : List UInt8} (ho : d + o ≤ 256) (hd : 0 < d)
    (h : v % (b * d) < w % (b * d)) (hrest : v % b < w % b → x < y) :
    UInt8.ofNat (v / b % d + o) :: x < UInt8.ofNat (w / b % d + o) :: y := by
  have hw := Nat.mod_lt (w / b) hd
  rw [List.cons_lt_cons_iff]
  rcases digit_lt_or_eq h with hlt | ⟨heq, hlt⟩
  · exact .inl (ofNat_lt_ofNat (by omega) (by omega))
  · exact .inr ⟨by rw [heq], hrest hlt⟩

theorem cons_lt_of_lt {n m : Nat} (hm : m < 256) (h : n < m) (x y : List UInt8) :
    UInt8.ofNat n :: x < UInt8.ofNat m :: y :=
  List.cons_lt_cons_iff.2 (.inl (ofNat_lt_ofNat hm h))

theorem encode_lt_append {c d : Char} (h : c < d) (x y : List UInt8) :
    String.utf8EncodeChar c ++ x < String.utf8EncodeChar d ++ y := by
  have hlt : c.val.toNat < d.val.toNat := h
  have hmax : d.val.toNat < 0x110000 := by
    rcases d.valid with hd | hd
    · exact lt_trans hd (by decide)
    · exact hd.2
  unfold String.utf8EncodeChar
  simp only
  generalize c.val.toNat = v at *
  generalize d.val.toNat = w at *
  have hlast (h : v % 64 < w % 64) :
      UInt8.ofNat (v % 64 + 128) :: x < UInt8.ofNat (w % 64 + 128) :: y :=
    cons_lt_of_lt (by omega) (by omega) x y
  -- the number of octets grows with the character, and with it the first octet
  by_cases h₁ : w ≤ 0x7f
  · rw [if_pos (by omega), if_pos h₁]
    exact cons_lt_of_lt (by omega) hlt x y
  rw [if_neg h₁]
  by_cases h₂ : w ≤ 0x7ff
  · rw [if_pos h₂]
    split
    · exact cons_lt_of_lt (by omega) (by omega) _ _
    · rw [if_pos (by omega)]
      exact cons_lt_of_mod_lt (by decide) (by decide) (by omega) hlast
  rw [if_neg h₂]
  by_cases h₃ : w ≤ 0xffff
  · rw [if_pos h₃]
    have hv : v ≤ 0xffff := by omega
    rw [if_pos hv]
    split_ifs
    · exact cons_lt_of_lt (by omega) (by omega) _ _
    · exact cons_lt_of_lt (by omega) (by omega) _ _
    · exact cons_lt_of_mod_lt (b := 4096) (by decide) (by decide) (by omega) fun h =>
        cons_lt_of_mod_lt (by decide) (by decide) h hlast
  rw [if_neg h₃]
  split_ifs
  · exact cons_lt_of_lt (by omega) (by omega) _ _
  · exact cons_lt_of_lt (by omega) (by omega) _ _
  · exact cons_lt_of_lt (by omega) (by omega) _ _
  · exact cons_lt_of_mod_lt (b := 262144) (by decide) (by decide) (by omega) fun h =>
      cons_lt_of_mod_lt (b := 4096) (by decide) (by decide) h fun h =>
        cons_lt_of_mod_lt (by decide) (by decide) h hlast

theorem flatMap_encode_lt {cs ds : List Char} (h : cs < ds) :
    cs.flatMap String.utf8EncodeChar < ds.flatMap String.utf8EncodeChar := by
  induction cs generalizing ds with
  | nil =>
    cases ds with
    | nil => exact absurd h (List.lt_irrefl [])
    | cons d ds =>
      rw [List.flatMap_nil, List.flatMap_cons]
      obtain ⟨b, bs, hb⟩ := List.exists_cons_of_ne_nil (String.utf8EncodeChar_ne_nil (c := d))
      rw [hb, List.cons_append]
      exact List.nil_lt_cons _ _
  | cons c cs ih =>
    cases ds with
    | nil => exact absurd h (List.not_lt_nil _)
    | cons d ds =>
      rw [List.flatMap_cons, List.flatMap_cons]
      rcases List.cons_lt_cons_iff.1 h with hlt | ⟨rfl, hlt⟩
      · exact encode_lt_append hlt _ _
      · exact List.append_left_lt (ih hlt)

/-- Texts stand in the order of their octets. -/
theorem lt_iff_utf8Octets_lt {s t : String} : s < t ↔ utf8Octets s < utf8Octets t := by
  rw [utf8Octets_eq, utf8Octets_eq]
  have hto (a b : String) (h : a < b) :
      a.toList.flatMap String.utf8EncodeChar < b.toList.flatMap String.utf8EncodeChar :=
    flatMap_encode_lt h
  refine ⟨hto s t, fun h => ?_⟩
  rcases lt_trichotomy s t with hlt | rfl | hgt
  · exact hlt
  · exact absurd h (List.lt_irrefl _)
  · exact absurd h (List.lt_asymm (hto t s hgt))

end RecordStore.Text
