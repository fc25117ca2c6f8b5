import Mathlib
import RecordStore.Token
import RecordStore.Proofs.Number.Radix
import RecordStore.Proofs.Outcome

/-!
Base-64 texts of octets, with the URL-safe digits and without padding.  The bits of the octets are taken six
to a digit from the front, and the spare bits of the last digit are zeros.  A text is read only if it is
such a text: every character is a digit, no digit is left over and no spare bit is set.

`decode?_encode` and `encode_of_decode?` say that octets of any number have one text, and that nothing else
is read.
-/
namespace RecordStore
open Number

/-! ### Digits -/

namespace Token

theorem value?_digit : ∀ d < 64, value? (digit d) = some d := by
  decide

theorem digit_of_value? {c : Char} {d : Nat} (h : value? c = some d) : d < 64 ∧ digit d = c := by
  unfold value? at h
  split_ifs at h with hupper hlower hdecimal hminus hline
  · obtain rfl := Option.some.inj h
    have hleast : 65 ≤ c.toNat := hupper.1
    have hgreatest : c.toNat ≤ 90 := hupper.2
    have hcode : 65 + (c.toNat - 65) = c.toNat := by omega
    refine ⟨by omega, ?_⟩
    rw [digit, if_pos (by omega), hcode, Char.ofNat_toNat]
  · obtain rfl := Option.some.inj h
    have hleast : 97 ≤ c.toNat := hlower.1
    have hgreatest : c.toNat ≤ 122 := hlower.2
    have hcode : 71 + (c.toNat - 71) = c.toNat := by omega
    refine ⟨by omega, ?_⟩
    rw [digit, if_neg (by omega), if_pos (by omega), hcode, Char.ofNat_toNat]
  · obtain rfl := Option.some.inj h
    have hleast : 48 ≤ c.toNat := hdecimal.1
    have hgreatest : c.toNat ≤ 57 := hdecimal.2
    have hcode : c.toNat + 4 - 4 = c.toNat := by omega
    refine ⟨by omega, ?_⟩
    rw [digit, if_neg (by omega), if_neg (by omega), if_pos (by omega), hcode, Char.ofNat_toNat]
  · obtain rfl := Option.some.inj h
    exact ⟨by decide, hminus.symm⟩
  · obtain rfl := Option.some.inj h
    exact ⟨by decide, hline.symm⟩

theorem mapM_value?_map {ds : List Nat} (h : ∀ d ∈ ds, d < 64) :
    (ds.map digit).mapM value? = some ds :=
  mapM_map_eq_some fun d hd => value?_digit d (h d hd)

/-- A text whose characters are digits is written with these. -/
theorem map_digit_of_mapM {cs : List Char} {ds : List Nat} (h : cs.mapM value? = some ds) :
    (∀ d ∈ ds, d < 64) ∧ ds.map digit = cs :=
  map_eq_of_mapM (fun _ _ => digit_of_value?) h

end Token

namespace Base64
open Token

/-! ### Octets -/

/-- The number that octets name, the first of them being the most significant. -/
def number (octets : List UInt8) : Nat :=
  ofDigits 256 (octets.map UInt8.toNat)

/-- The last `count` octets of a number, the most significant first. -/
def octets (count n : Nat) : List UInt8 :=
  (digits 256 count n).map UInt8.ofNat

theorem length_octets (count n : Nat) : (octets count n).length = count := by
  rw [octets, List.length_map, length_digits]

theorem number_octets {count n : Nat} (h : n < 256 ^ count) : number (octets count n) = n := by
  have hmap : (octets count n).map UInt8.toNat = digits 256 count n := by
    have heach : ∀ d ∈ digits 256 count n, (UInt8.ofNat d).toNat = d := by
      intro d hd
      exact UInt8.toNat_ofNat_of_lt' (lt_of_mem_digits (by decide) hd)
    rw [octets, List.map_map]
    exact (List.map_congr_left heach).trans (List.map_id' _)
  rw [number, hmap, ofDigits_digits h]

theorem octet_lt (os : List UInt8) : ∀ d ∈ os.map UInt8.toNat, d < 256 := by
  intro d hd
  obtain ⟨o, -, rfl⟩ := List.mem_map.1 hd
  exact o.toNat_lt

theorem octets_number (os : List UInt8) : octets os.length (number os) = os := by
  have hdigits := digits_ofDigits (octet_lt os)
  rw [List.length_map] at hdigits
  rw [octets, number, hdigits, List.map_map]
  refine List.map_id'' (fun o => ?_) _
  exact UInt8.ofNat_toNat

theorem number_lt (os : List UInt8) : number os < 256 ^ os.length := by
  have hlt := ofDigits_lt (octet_lt os)
  rwa [List.length_map] at hlt

/-! ### Texts -/

/-- The number of digits that hold the bits of some octets. -/
def width (count : Nat) : Nat := (8 * count + 5) / 6

/-- The number of bits in some digits that are behind the last whole octet. -/
def spareBits (width : Nat) : Nat := 6 * width % 8

/-- The text of octets. -/
def encode (os : List UInt8) : List Char :=
  (digits 64 (width os.length) (number os * 2 ^ spareBits (width os.length))).map digit

/-- The octets of a text. -/
def decode? (cs : List Char) : Option (List UInt8) :=
  (cs.mapM value?).bind fun ds =>
    -- six bits behind the last octet are a digit of which no octet has a part
    if spareBits ds.length < 6 ∧ ofDigits 64 ds % 2 ^ spareBits ds.length = 0 then
      some (octets (6 * ds.length / 8) (ofDigits 64 ds / 2 ^ spareBits ds.length))
    else none

/-- The digits of octets hold their bits and the spare ones. -/
theorem six_mul_width (count : Nat) :
    6 * width count = 8 * count + spareBits (width count) ∧ spareBits (width count) < 6 := by
  unfold spareBits width
  omega

theorem width_of_spareBits {n : Nat} (h : spareBits n < 6) :
    6 * n = 8 * (6 * n / 8) + spareBits n ∧ width (6 * n / 8) = n := by
  unfold spareBits width at *
  omega

theorem pow_digits {n count spare : Nat} (h : 6 * n = 8 * count + spare) :
    64 ^ n = 256 ^ count * 2 ^ spare := by
  calc 64 ^ n = (2 ^ 6) ^ n := by norm_num
    _ = 2 ^ (8 * count + spare) := by rw [← pow_mul, h]
    _ = (2 ^ 8) ^ count * 2 ^ spare := by rw [pow_add, pow_mul]
    _ = 256 ^ count * 2 ^ spare := by norm_num

theorem decode?_encode (os : List UInt8) : decode? (encode os) = some os := by
  obtain ⟨hbits, hspare⟩ := six_mul_width os.length
  have hfits : number os * 2 ^ spareBits (width os.length) < 64 ^ width os.length := by
    rw [pow_digits hbits]
    exact Nat.mul_lt_mul_of_pos_right (number_lt os) (by positivity)
  have hwhole : 6 * width os.length / 8 = os.length := by omega
  have hdigits : ∀ d ∈ digits 64 (width os.length) (number os * 2 ^ spareBits (width os.length)),
      d < 64 := fun d hd => lt_of_mem_digits (by decide) hd
  rw [encode, decode?, mapM_value?_map hdigits, Option.bind_some, length_digits,
    ofDigits_digits hfits, if_pos ⟨hspare, Nat.mul_mod_left _ _⟩,
    Nat.mul_div_cancel _ (by positivity), hwhole, octets_number]

theorem encode_of_decode? {cs : List Char} {os : List UInt8} (h : decode? cs = some os) :
    encode os = cs := by
  obtain ⟨ds, hds, h⟩ := Option.bind_eq_some_iff.1 h
  obtain ⟨hlt, hmap⟩ := map_digit_of_mapM hds
  split at h
  · next hread =>
    obtain ⟨hspare, hzero⟩ := hread
    obtain ⟨hbits, hwidth⟩ := width_of_spareBits hspare
    obtain rfl := Option.some.inj h
    have hfits : ofDigits 64 ds / 2 ^ spareBits ds.length < 256 ^ (6 * ds.length / 8) := by
      rw [Nat.div_lt_iff_lt_mul (by positivity), ← pow_digits hbits]
      exact ofDigits_lt hlt
    rw [encode, length_octets, number_octets hfits, hwidth,
      Nat.div_mul_cancel (Nat.dvd_of_mod_eq_zero hzero), digits_ofDigits hlt, hmap]
  · cases h

end Base64

end RecordStore
