import Mathlib
import RecordStore.Query.Plan
import RecordStore.Proofs.Text.Base64

/-!
The texts of tokens.  A token is the base-64 text of the eight octets of an offset, and it is read back
where a signed word holds the offset.  Every other text is refused, so an offset has one token.
-/
namespace RecordStore
open Number

namespace Token

/-- The offset that octets name.  There have to be eight, and a signed word has to hold the offset. -/
def offset? (os : List UInt8) : Option UInt64 :=
  if os.length = 8 ∧ Base64.number os < 2 ^ 63 then some (UInt64.ofNat (Base64.number os)) else none

theorem offset?_octets {n : Nat} (h : n < 256 ^ 8) :
    offset? (Base64.octets 8 n) = if n < 2 ^ 63 then some (UInt64.ofNat n) else none := by
  rw [offset?, Base64.length_octets, Base64.number_octets h]
  by_cases hlt : n < 2 ^ 63
  · rw [if_pos ⟨rfl, hlt⟩, if_pos hlt]
  · rw [if_neg fun hboth => hlt hboth.2, if_neg hlt]

theorem encode_eq_base64 (offset : UInt64) :
    encode offset = String.ofList (Base64.encode (Base64.octets 8 offset.toNat)) := by
  have hwidth : Base64.width 8 = 11 := rfl
  have hspare : 2 ^ Base64.spareBits 11 = 4 := rfl
  rw [encode, Base64.encode, Base64.length_octets, Base64.number_octets offset.toNat_lt, hwidth,
    hspare, Nat.mul_comm]

/-- The token of an offset shows all its bits. -/
theorem encode_injective {n m : UInt64} (h : encode n = encode m) : n = m := by
  rw [encode_eq_base64, encode_eq_base64] at h
  have hoctets : Base64.octets 8 n.toNat = Base64.octets 8 m.toNat := by
    have htexts := congrArg (fun t => Base64.decode? t.toList) h
    simpa only [String.toList_ofList, Base64.decode?_encode, Option.some.injEq] using htexts
  have hnumber := congrArg Base64.number hoctets
  rw [Base64.number_octets n.toNat_lt, Base64.number_octets m.toNat_lt] at hnumber
  exact UInt64.toNat_inj.1 hnumber

/-- A text is read as a token in two steps, first as octets and then as an offset. -/
theorem decode?_eq_base64 (token : String) :
    decode? token = (Base64.decode? token.toList).bind offset? := by
  unfold decode? Base64.decode?
  cases hds : token.toList.mapM value? with
  | none => simp
  | some ds =>
    obtain ⟨hlt, hmap⟩ := map_digit_of_mapM hds
    have hlength : token.toList.length = ds.length := by rw [← hmap, List.length_map]
    simp only [hlength, Option.bind_some]
    by_cases heleven : ds.length = 11
    · have hnumber : ofDigits 64 ds / 4 < 256 ^ 8 := by
        have hfits := ofDigits_lt hlt
        rw [heleven] at hfits
        norm_num at hfits ⊢
        omega
      have hspare : Base64.spareBits 11 = 2 := rfl
      rw [if_pos heleven, heleven, hspare]
      have hoctets := offset?_octets hnumber
      by_cases hzero : ofDigits 64 ds % 4 = 0
      · have hread : 2 < 6 ∧ ofDigits 64 ds % 2 ^ 2 = 0 := ⟨by decide, hzero⟩
        simp only [hzero, true_and]
        rw [if_pos hread, Option.bind_some]
        exact hoctets.symm
      · have hunread : ¬ (2 < 6 ∧ ofDigits 64 ds % 2 ^ 2 = 0) := fun h => hzero h.2
        simp only [hzero, false_and]
        rw [if_neg hunread, Option.bind_none, if_neg not_false]
    · rw [if_neg heleven]
      split_ifs with hread
      · -- eight octets take eleven digits
        have hoctets : 6 * ds.length / 8 ≠ 8 := by
          have hspare := hread.1
          unfold Base64.spareBits at hspare
          omega
        rw [Option.bind_some, offset?, Base64.length_octets, if_neg fun h => hoctets h.1]
      · rfl

theorem decode?_encode {offset : UInt64} (h : offset.toNat < 0x8000000000000000) :
    decode? (encode offset) = some offset := by
  have hlt : offset.toNat < 2 ^ 63 := h
  rw [decode?_eq_base64, encode_eq_base64, String.toList_ofList, Base64.decode?_encode,
    Option.bind_some, offset?_octets offset.toNat_lt, if_pos hlt, UInt64.ofNat_toNat]

/-- Whatever is read as a token is the token of what it is read as. -/
theorem encode_of_decode? {token : String} {offset : UInt64} (h : decode? token = some offset) :
    offset.toNat < 2 ^ 63 ∧ encode offset = token := by
  rw [decode?_eq_base64] at h
  obtain ⟨os, hos, hoffset⟩ := Option.bind_eq_some_iff.1 h
  unfold offset? at hoffset
  split at hoffset
  · next hread =>
    obtain rfl := Option.some.inj hoffset
    have hnumber : (UInt64.ofNat (Base64.number os)).toNat = Base64.number os :=
      UInt64.toNat_ofNat_of_lt' (hread.2.trans (by norm_num))
    have hoctets : Base64.octets 8 (Base64.number os) = os := by
      rw [← hread.1]
      exact Base64.octets_number os
    rw [encode_eq_base64, hnumber, hoctets, Base64.encode_of_decode? hos, String.ofList_toList]
    exact ⟨hread.2, rfl⟩
  · cases hoffset

theorem decode?_eq_some_iff {token : String} {offset : UInt64} :
    decode? token = some offset ↔ offset.toNat < 2 ^ 63 ∧ encode offset = token := by
  refine ⟨encode_of_decode?, ?_⟩
  rintro ⟨hlt, rfl⟩
  exact decode?_encode hlt

end Token

namespace Query

theorem offsetOf_eq_ok_iff {token : String} {offset : UInt64} :
    offsetOf (some token) = .ok offset ↔ offset.toNat < 2 ^ 63 ∧ Token.encode offset = token := by
  rw [← Token.decode?_eq_some_iff]
  simp only [offsetOf]
  cases Token.decode? token with
  | none => exact ⟨nofun, nofun⟩
  | some n => simp only [Except.ok.injEq, Option.some.injEq]

theorem offsetOf_encode {offset : UInt64} (h : offset.toNat < 2 ^ 63) :
    offsetOf (some (Token.encode offset)) = .ok offset :=
  offsetOf_eq_ok_iff.2 ⟨h, rfl⟩

/-- A text that is not read is an invalid cursor. -/
theorem offsetOf_cases (token : String) :
    (∃ offset, offsetOf (some token) = .ok offset) ∨
      offsetOf (some token) = .error (.invalidCursor token) := by
  simp only [offsetOf]
  cases Token.decode? token with
  | none => exact .inr rfl
  | some n => exact .inl ⟨n, rfl⟩

end Query

/-- A token is the base-64 text of the eight octets of an offset.  The tokens of the offsets that a signed
word holds are read as these offsets, and those of greater offsets are invalid cursors.  A text that is read
is the token of the offset that it is read as, so the texts that are read are the tokens of the offsets that
a signed word holds, each of one such offset, and every other text is an invalid cursor. -/
theorem tokens_name_offsets :
    (∀ n : UInt64, (Token.encode n).toList = Base64.encode (Base64.octets 8 n.toNat)) ∧
      (∀ n : UInt64, n.toNat < 2 ^ 63 → Query.offsetOf (some (Token.encode n)) = .ok n) ∧
      (∀ n : UInt64, 2 ^ 63 ≤ n.toNat →
        Query.offsetOf (some (Token.encode n)) = .error (.invalidCursor (Token.encode n))) ∧
      (∀ t n, Query.offsetOf (some t) = .ok n → Token.encode n = t) ∧
      (∀ t, (∃ n, Query.offsetOf (some t) = .ok n) ↔
        ∃! n : UInt64, n.toNat < 2 ^ 63 ∧ Token.encode n = t) ∧
      ∀ t, (¬ ∃ n : UInt64, n.toNat < 2 ^ 63 ∧ Token.encode n = t) →
        Query.offsetOf (some t) = .error (.invalidCursor t) := by
  have hrefused (t : String) (h : ∀ n, Query.offsetOf (some t) ≠ .ok n) :
      Query.offsetOf (some t) = .error (.invalidCursor t) :=
    (Query.offsetOf_cases t).resolve_left fun ⟨n, hn⟩ => h n hn
  refine ⟨fun n => ?_, fun n hn => ?_, fun n hn => ?_, fun t n h => ?_, fun t => ⟨?_, ?_⟩,
    fun t h => ?_⟩
  · rw [Token.encode_eq_base64, String.toList_ofList]
  · exact Query.offsetOf_encode hn
  · refine hrefused _ fun m hm => ?_
    obtain ⟨hlt, hm⟩ := Query.offsetOf_eq_ok_iff.1 hm
    rw [Token.encode_injective hm] at hlt
    omega
  · exact (Query.offsetOf_eq_ok_iff.1 h).2
  · rintro ⟨n, hn⟩
    refine ⟨n, Query.offsetOf_eq_ok_iff.1 hn, ?_⟩
    rintro m ⟨-, hm⟩
    exact Token.encode_injective (hm.trans (Query.offsetOf_eq_ok_iff.1 hn).2.symm)
  · rintro ⟨n, hn, -⟩
    exact ⟨n, Query.offsetOf_eq_ok_iff.2 hn⟩
  · exact hrefused t fun n hn => h ⟨n, Query.offsetOf_eq_ok_iff.1 hn⟩

/-- The greatest offset of a signed word is read back and the next one is not. -/
theorem tokens_name_offsets_at_bound :
    (0x7fffffffffffffff : UInt64).toNat < 2 ^ 63 ∧
      Token.encode 0x7fffffffffffffff = "f_________8" ∧
      Query.offsetOf (some "f_________8") = .ok 0x7fffffffffffffff ∧
      2 ^ 63 ≤ (0x8000000000000000 : UInt64).toNat ∧
      Token.encode 0x8000000000000000 = "gAAAAAAAAAA" ∧
      Query.offsetOf (some "gAAAAAAAAAA") = .error (.invalidCursor "gAAAAAAAAAA") := by
  have hgreatest : Token.encode 0x7fffffffffffffff = "f_________8" := by decide +kernel
  have hnext : Token.encode 0x8000000000000000 = "gAAAAAAAAAA" := by decide +kernel
  have hread := tokens_name_offsets.2.1 0x7fffffffffffffff (by decide)
  have hrefused := tokens_name_offsets.2.2.1 0x8000000000000000 (by decide)
  rw [hgreatest] at hread
  rw [hnext] at hrefused
  exact ⟨by decide, hgreatest, hread, by decide, hnext, hrefused⟩

end RecordStore
