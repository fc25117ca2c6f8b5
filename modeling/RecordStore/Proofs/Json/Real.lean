import Mathlib
import RecordStore.Proofs.Json.Range

/-!
Every double-precision number is written as a literal that can be read.  The decimal that is printed
lies within half a unit of the number, so it is small enough to be read for all but the three largest
numbers, and these are checked one by one.
-/
namespace RecordStore

namespace Number
open NumberLiteral

/-- A magnitude in the form that its width of 53 bits and its exponents allow. -/
structure Magnitude.Canonical (x : Magnitude) : Prop where
  significand_lt : x.significand < 0x20000000000000
  exponent_ge : -1074 ≤ x.exponent
  exponent_le : x.exponent ≤ 971
  normal : 0x10000000000000 ≤ x.significand ∨ x.exponent = -1074

namespace Magnitude

theorem neighbourhood_spec (x : Magnitude) : 0 < x.neighbourhood.2.2.2 ∧
    (x.neighbourhood.2.1 : ℚ) / x.neighbourhood.2.2.2 =
      (x.significand + 1 / 2) * 2 ^ x.exponent := by
  unfold neighbourhood
  simp only
  split
  · next h =>
    obtain ⟨k, hk⟩ := Int.eq_ofNat_of_zero_le h
    refine ⟨by norm_num, ?_⟩
    rw [hk]
    simp only [Int.toNat_natCast, Nat.one_shiftLeft, zpow_natCast]
    push_cast
    ring
  · next h =>
    obtain ⟨k, hk⟩ := Int.eq_ofNat_of_zero_le (a := -x.exponent) (by omega)
    have he : x.exponent = -(k : ℤ) := by omega
    refine ⟨?_, ?_⟩
    · simp only [hk, Int.toNat_natCast, Nat.shiftLeft_eq]
      positivity
    · simp only [hk, Int.toNat_natCast, Nat.shiftLeft_eq]
      rw [he, zpow_neg, zpow_natCast]
      push_cast
      field_simp
      ring

/-- A decimal that reads back is at most half a unit above the number. -/
theorem le_of_readsBack {x : Magnitude} {d : ℕ} {k : ℤ} (h : x.readsBack d k = true) :
    (d : ℚ) * 10 ^ k ≤ (x.significand + 1 / 2) * 2 ^ x.exponent := by
  obtain ⟨hden, hhigh⟩ := neighbourhood_spec x
  have hden' : (0 : ℚ) < x.neighbourhood.2.2.2 := by exact_mod_cast hden
  rw [← hhigh, le_div_iff₀ hden']
  unfold readsBack at h
  generalize x.neighbourhood = nb at *
  obtain ⟨low, high, value, den⟩ := nb
  simp only at h hden hden' ⊢
  have hle : (if 0 ≤ k then (d * tenPower k.toNat * den, 1)
      else (d * den, tenPower (-k).toNat)).1 ≤
      high * (if 0 ≤ k then (d * tenPower k.toNat * den, 1)
        else (d * den, tenPower (-k).toNat)).2 := by
    split at h
    · simp only [Bool.and_eq_true, decide_eq_true_eq] at h
      exact h.2
    · simp only [Bool.and_eq_true, decide_eq_true_eq] at h
      exact h.2.le
  split at hle
  · next hk =>
    obtain ⟨j, rfl⟩ := Int.eq_ofNat_of_zero_le hk
    simp only [Int.toNat_natCast, Nat.mul_one] at hle
    have hq : ((d * tenPower j * den : ℕ) : ℚ) ≤ (high : ℕ) := by exact_mod_cast hle
    rw [zpow_natCast, ← cast_tenPower]
    push_cast at hq
    exact hq
  · next hk =>
    obtain ⟨j, hj⟩ := Int.eq_ofNat_of_zero_le (a := -k) (by omega)
    have he : k = -(j : ℤ) := by omega
    rw [hj] at hle
    simp only [Int.toNat_natCast] at hle
    have hq : ((d * den : ℕ) : ℚ) ≤ (high * tenPower j : ℕ) := by exact_mod_cast hle
    have hp : (0 : ℚ) < 10 ^ j := by positivity
    push_cast at hq
    rw [cast_tenPower] at hq
    rw [he, zpow_neg, zpow_natCast, mul_right_comm, ← div_eq_mul_inv, div_le_iff₀ hp]
    exact hq

theorem shortestWith_spec {x : Magnitude} {count d : ℕ} {k : ℤ}
    (h : x.shortestWith count = some (d, k)) : d ≠ 0 ∧ x.readsBack d k = true := by
  unfold shortestWith at h
  simp only at h
  have hlower {q : ℕ} (hb : (x.readsBack q (x.pointPosition - count) && q != 0) = true) :
      q ≠ 0 ∧ x.readsBack q (x.pointPosition - count) = true := by
    simp only [Bool.and_eq_true, bne_iff_ne, ne_eq] at hb
    exact ⟨hb.2, hb.1⟩
  split at h
  · next hboth =>
    rw [Bool.and_eq_true] at hboth
    split at h
    · obtain ⟨rfl, rfl⟩ := Prod.mk.inj (Option.some.inj h)
      exact hlower hboth.1
    · obtain ⟨rfl, rfl⟩ := Prod.mk.inj (Option.some.inj h)
      exact ⟨Nat.succ_ne_zero _, hboth.2⟩
  · split at h
    · next hl =>
      obtain ⟨rfl, rfl⟩ := Prod.mk.inj (Option.some.inj h)
      exact hlower hl
    · split at h
      · next hu =>
        obtain ⟨rfl, rfl⟩ := Prod.mk.inj (Option.some.inj h)
        exact ⟨Nat.succ_ne_zero _, hu⟩
      · cases h

end Magnitude

/-! ### Digits without zeros at the end -/

theorem head_toDigits_ne_zero {n : ℕ} (hn : 0 < n) : (Nat.toDigits 10 n).head? ≠ some '0' := by
  induction n using Nat.strong_induction_on with
  | h n ih =>
    rcases lt_or_ge n 10 with hlt | hge
    · rw [Nat.toDigits_of_lt_base hlt]
      have : ∀ m < 10, 0 < m → Nat.digitChar m ≠ '0' := by decide
      simpa using this n hlt hn
    · rw [Nat.toDigits_of_base_le (by decide) hge]
      have hq : 0 < n / 10 := Nat.div_pos hge (by decide)
      have hne : Nat.toDigits 10 (n / 10) ≠ [] := Nat.toDigits_ne_nil
      rw [List.head?_append_of_ne_nil _ hne]
      exact ih (n / 10) (Nat.div_lt_self hn (by decide)) hq

theorem isDigit_of_mem_toDigits {n : ℕ} {c : Char} (hc : c ∈ Nat.toDigits 10 n) :
    c.isDigit = true :=
  Nat.isDigit_of_mem_toDigits (by decide) (by decide) hc

theorem isWhole_toDigits (n : ℕ) : NumberLiteral.IsWhole (Nat.toDigits 10 n) := by
  rcases Nat.eq_zero_or_pos n with rfl | hn
  · exact .inl (Nat.toDigits_zero 10)
  · exact .inr ⟨Nat.toDigits_ne_nil, fun c hc => isDigit_of_mem_toDigits hc,
      head_toDigits_ne_zero hn⟩

/-- A list without the zeros at its end, and how many these are. -/
theorem dropZeros_spec (ds : List Char) :
    ds = (ds.reverse.dropWhile (· == '0')).reverse ++
      List.replicate (ds.length - (ds.reverse.dropWhile (· == '0')).reverse.length) '0' := by
  have hsplit := List.takeWhile_append_dropWhile (p := (· == '0')) (l := ds.reverse)
  have hall : ∀ c ∈ ds.reverse.takeWhile (· == '0'), c = '0' := by
    intro c hc
    simpa using List.mem_takeWhile_imp hc
  have hrep := List.eq_replicate_of_mem hall
  have hrev : ds = (ds.reverse.dropWhile (· == '0')).reverse ++
      (ds.reverse.takeWhile (· == '0')).reverse := by
    rw [← List.reverse_append, hsplit, List.reverse_reverse]
  have hlen : ds.length - (ds.reverse.dropWhile (· == '0')).reverse.length =
      (ds.reverse.takeWhile (· == '0')).length := by
    have := congrArg List.length hrev
    rw [List.length_append, @List.length_reverse _ (ds.reverse.takeWhile _)] at this
    omega
  rw [hlen]
  conv_lhs => rw [hrev]
  congr 1
  rw [hrep]
  simp

/-- The printed decimal: digits that start with no zero and name at most half a unit more than the
number. -/
theorem shortest_spec (x : Magnitude) :
    (x.shortest.digits = [] ∧ x.shortest.exponent = 1) ∨
    (x.shortest.digits ≠ [] ∧ (∀ c ∈ x.shortest.digits, c.isDigit = true) ∧
      x.shortest.digits.head? ≠ some '0' ∧
      (Nat.ofDigitChars 10 x.shortest.digits 0 : ℚ) * 10 ^ x.shortest.exponent ≤
        (x.significand + 1 / 2) * 2 ^ x.exponent) := by
  unfold Magnitude.shortest
  cases hf : (List.range 17).findSome? fun i => x.shortestWith (i + 1) with
  | none =>
    left
    simp only [Option.getD_none]
    decide
  | some p =>
    right
    obtain ⟨d, k⟩ := p
    obtain ⟨i, -, hi⟩ := List.exists_of_findSome?_eq_some hf
    obtain ⟨hd, hback⟩ := Magnitude.shortestWith_spec hi
    have hsplit := dropZeros_spec (Nat.toDigits 10 d)
    simp only [Option.getD_some]
    generalize hkept : ((Nat.toDigits 10 d).reverse.dropWhile (· == '0')).reverse = kept at *
    generalize (Nat.toDigits 10 d).length - kept.length = z at *
    have hval : Nat.ofDigitChars 10 kept 0 * 10 ^ z = d := by
      have h := Nat.ofDigitChars_ten_toDigits (n := d)
      rw [hsplit, Nat.ofDigitChars_append, Nat.ofDigitChars_replicate_zero] at h
      rw [Nat.mul_comm]
      exact h
    have hne : kept ≠ [] := by
      rintro rfl
      simp at hval
      exact hd hval.symm
    refine ⟨hne, fun c hc => ?_, ?_, ?_⟩
    · refine isDigit_of_mem_toDigits (n := d) ?_
      rw [hsplit]
      exact List.mem_append_left _ hc
    · have hhead := head_toDigits_ne_zero (Nat.pos_of_ne_zero hd)
      rwa [hsplit, List.head?_append_of_ne_nil _ hne] at hhead
    · refine le_trans (le_of_eq ?_) (Magnitude.le_of_readsBack hback)
      rw [zpow_add₀ (by norm_num), zpow_natCast, mul_comm ((10 : ℚ) ^ k), ← mul_assoc]
      congr 1
      exact_mod_cast hval

end Number

/-! ### The literal of a number -/

namespace Json
open Number NumberLiteral

/-- The literal that a double is written as. -/
def realLiteral (x : Binary64) : NumberLiteral :=
  if x.magnitude.isZero then ⟨x.negative, ['0'], some ['0'], none⟩
  else
    let d := x.magnitude.shortest
    let point : ℤ := d.digits.length + d.exponent
    if 0 ≤ d.exponent ∧ point ≤ 16 then
      ⟨x.negative, d.digits ++ List.replicate d.exponent.toNat '0', some ['0'], none⟩
    else if -5 < point ∧ point ≤ 16 then
      if 0 < point then
        ⟨x.negative, d.digits.take point.toNat, some (d.digits.drop point.toNat), none⟩
      else ⟨x.negative, ['0'], some (List.replicate (-point).toNat '0' ++ d.digits), none⟩
    else
      ⟨x.negative, d.digits.take 1, if d.digits.drop 1 = [] then none else some (d.digits.drop 1),
        some (point - 1 < 0, (point - 1).natAbs.repr.toList)⟩

theorem isRun_append_zeros {ds : List Char} {n : ℕ} (hd : ∀ c ∈ ds, c.isDigit = true)
    (hne : ds ≠ []) : IsRun (List.replicate n '0' ++ ds) := by
  refine ⟨by simp [hne], fun c hc => ?_⟩
  rcases List.mem_append.1 hc with h | h
  · rw [List.eq_of_mem_replicate h]
    decide
  · exact hd c h

theorem realChars_eq (x : Binary64) : realChars x = (realLiteral x).chars := by
  unfold realChars realLiteral
  by_cases hz : x.magnitude.isZero = true
  · simp [hz, NumberLiteral.chars, signChars, fractionChars, exponentChars]
  · rcases shortest_spec x.magnitude with ⟨hd, he⟩ | ⟨hne, -⟩
    · simp [hz, hd, he, NumberLiteral.chars, signChars, fractionChars, exponentChars,
        Decimal.positional]
    · rw [if_neg hz, if_neg hz]
      generalize x.magnitude.shortest = d at *
      obtain ⟨digits, e⟩ := d
      simp only at hne ⊢
      by_cases h1 : 0 ≤ e ∧ (digits.length : ℤ) + e ≤ 16
      · rw [if_pos h1, if_pos h1]
        simp [NumberLiteral.chars, signChars, fractionChars, exponentChars, Decimal.positional,
          h1.1]
      rw [if_neg h1, if_neg h1]
      by_cases h2 : -5 < (digits.length : ℤ) + e ∧ (digits.length : ℤ) + e ≤ 16
      · have he : ¬ 0 ≤ e := fun he => h1 ⟨he, h2.2⟩
        rw [if_pos h2, if_pos h2]
        by_cases h3 : 0 < (digits.length : ℤ) + e
        · simp [NumberLiteral.chars, signChars, fractionChars, exponentChars,
            Decimal.positional, he, h3]
        · simp [NumberLiteral.chars, signChars, fractionChars, exponentChars,
            Decimal.positional, he, h3]
      rw [if_neg h2, if_neg h2]
      obtain ⟨c, cs, rfl⟩ := List.exists_cons_of_ne_nil hne
      cases cs <;>
        simp [NumberLiteral.chars, signChars, fractionChars, exponentChars, Decimal.scientific]

/-- The forms of a written double: zero, a whole number, digits on both sides of the point, digits
behind zeros, and digits with a power of ten. -/
inductive RealForm (x : Binary64) : NumberLiteral → Prop
  | zero : x.magnitude.isZero = true ∨ x.magnitude.shortest.digits = [] →
    RealForm x ⟨x.negative, ['0'], some ['0'], none⟩
  | whole {z : ℕ} : x.magnitude.shortest.digits ≠ [] → x.magnitude.shortest.exponent = z →
    x.magnitude.shortest.digits.length + z ≤ 16 →
    RealForm x ⟨x.negative, x.magnitude.shortest.digits ++ List.replicate z '0', some ['0'], none⟩
  | parted {p : ℕ} : 0 < p → p < x.magnitude.shortest.digits.length → p ≤ 16 →
    (p : ℤ) = x.magnitude.shortest.digits.length + x.magnitude.shortest.exponent →
    RealForm x ⟨x.negative, x.magnitude.shortest.digits.take p,
      some (x.magnitude.shortest.digits.drop p), none⟩
  | small {z : ℕ} : x.magnitude.shortest.digits ≠ [] →
    -(z : ℤ) = x.magnitude.shortest.digits.length + x.magnitude.shortest.exponent →
    RealForm x ⟨x.negative, ['0'], some (List.replicate z '0' ++ x.magnitude.shortest.digits), none⟩
  | scientific {p : ℤ} : x.magnitude.shortest.digits ≠ [] →
    p = x.magnitude.shortest.digits.length + x.magnitude.shortest.exponent - 1 →
    RealForm x ⟨x.negative, x.magnitude.shortest.digits.take 1,
      if x.magnitude.shortest.digits.drop 1 = [] then none
        else some (x.magnitude.shortest.digits.drop 1),
      some (p < 0, p.natAbs.repr.toList)⟩

theorem realLiteral_of_zero {x : Binary64}
    (h : x.magnitude.isZero = true ∨ x.magnitude.shortest.digits = []) :
    realLiteral x = ⟨x.negative, ['0'], some ['0'], none⟩ := by
  unfold realLiteral
  split
  · rfl
  · next hz =>
    have hd := h.resolve_left hz
    obtain ⟨-, he⟩ := (shortest_spec x.magnitude).resolve_right fun hne => hne.1 hd
    simp only [hd, he]
    rfl

theorem realForm_realLiteral (x : Binary64) : RealForm x (realLiteral x) := by
  by_cases hzero : x.magnitude.isZero = true ∨ x.magnitude.shortest.digits = []
  · rw [realLiteral_of_zero hzero]
    exact .zero hzero
  · obtain ⟨hz, hne⟩ := not_or.1 hzero
    unfold realLiteral
    rw [if_neg hz]
    simp only
    split
    · next h => exact .whole hne (by omega) (by omega)
    · split
      · split
        · exact .parted (by omega) (by omega) (by omega) (by omega)
        · exact .small hne (by omega)
      · exact .scientific hne rfl

theorem isDigit_of_mem_shortest {x : Magnitude} {c : Char} (hc : c ∈ x.shortest.digits) :
    c.isDigit = true := by
  rcases shortest_spec x with ⟨hd, -⟩ | ⟨-, hd, -⟩
  · rw [hd] at hc
    cases hc
  · exact hd c hc

theorem head_shortest_ne_zero (x : Magnitude) : x.shortest.digits.head? ≠ some '0' := by
  rcases shortest_spec x with ⟨hd, -⟩ | ⟨-, -, hhead, -⟩
  · rw [hd]
    simp
  · exact hhead

/-- The digits of a double are a whole part, cut off anywhere. -/
theorem isWhole_take {x : Magnitude} {p : ℕ} (hp : 0 < p) (hne : x.shortest.digits ≠ []) :
    IsWhole (x.shortest.digits.take p) := by
  refine .inr ⟨by simp [hne, hp.ne'], fun c hc => ?_, ?_⟩
  · exact isDigit_of_mem_shortest (List.mem_of_mem_take hc)
  · rw [List.head?_take, if_neg hp.ne']
    exact head_shortest_ne_zero x

theorem wellFormed_realLiteral (x : Binary64) : (realLiteral x).WellFormed := by
  have hform := realForm_realLiteral x
  generalize realLiteral x = l at hform
  cases hform with
  | zero h => exact ⟨.inl rfl, by simp [IsRun], by simp⟩
  | whole hne he hle =>
    refine ⟨.inr ⟨by simp [hne], fun c hc => ?_, ?_⟩, by simp [IsRun], by simp⟩
    · rcases List.mem_append.1 hc with h | h
      · exact isDigit_of_mem_shortest h
      · rw [List.eq_of_mem_replicate h]
        decide
    · rw [List.head?_append_of_ne_nil _ hne]
      exact head_shortest_ne_zero x.magnitude
  | parted hpos hlt hle hp =>
    refine ⟨isWhole_take hpos (List.ne_nil_of_length_pos (by omega)), ?_, by simp⟩
    intro ds hds
    obtain rfl := Option.some.inj hds
    exact ⟨by simp [hlt], fun c hc => isDigit_of_mem_shortest (List.mem_of_mem_drop hc)⟩
  | small hne hz =>
    refine ⟨.inl rfl, ?_, by simp⟩
    intro ds hds
    obtain rfl := Option.some.inj hds
    exact isRun_append_zeros (fun c hc => isDigit_of_mem_shortest hc) hne
  | scientific hne hp =>
    refine ⟨isWhole_take Nat.one_pos hne, ?_, ?_⟩
    · intro ds hds
      simp only at hds
      split at hds
      · cases hds
      · next hdrop =>
        obtain rfl := Option.some.inj hds
        exact ⟨hdrop, fun c hc => isDigit_of_mem_shortest (List.mem_of_mem_drop hc)⟩
    · intro p hp
      obtain rfl := Option.some.inj hp
      rw [Nat.toList_repr]
      exact ⟨Nat.toDigits_ne_nil, fun c hc => isDigit_of_mem_toDigits hc⟩

theorem size_realLiteral {x : Binary64} (hz : ¬ x.magnitude.isZero = true)
    (hne : x.magnitude.shortest.digits ≠ []) :
    (realLiteral x).size = Nat.ofDigitChars 10 x.magnitude.shortest.digits 0 *
      10 ^ x.magnitude.shortest.exponent := by
  have hform := realForm_realLiteral x
  generalize realLiteral x = l at hform
  cases hform with
  | zero h => exact absurd h (not_or.2 ⟨hz, hne⟩)
  | @whole z _ he _ =>
    simp only [size, fractionDigits, power, Option.getD_some, List.append_assoc]
    have hrep : List.replicate z '0' ++ ['0'] = List.replicate (z + 1) '0' :=
      List.replicate_succ'.symm
    rw [hrep, Nat.ofDigitChars_append, Nat.ofDigitChars_replicate_zero, he]
    push_cast
    rw [pow_succ, zpow_natCast]
    norm_num
    ring
  | parted _ hlt _ hp =>
    simp only [size, fractionDigits, power, Option.getD_some, List.take_append_drop,
      List.length_drop]
    congr 2
    omega
  | @small z _ hz =>
    have hlead : Nat.ofDigitChars 10 (['0'] ++ (List.replicate z '0' ++
        x.magnitude.shortest.digits)) 0 = Nat.ofDigitChars 10 x.magnitude.shortest.digits 0 := by
      rw [List.singleton_append, Nat.ofDigitChars_cons, Nat.ofDigitChars_append,
        Nat.ofDigitChars_replicate_zero]
      simp
    simp only [size, fractionDigits, power, Option.getD_some, List.length_append,
      List.length_replicate]
    rw [hlead]
    congr 2
    omega
  | @scientific p _ hp =>
    have hpos : 0 < x.magnitude.shortest.digits.length := List.length_pos_iff.2 hne
    have hfrac (ds : List Char) : (if ds = [] then none else some ds).getD [] = ds := by
      split
      · next hd => exact hd.symm
      · rfl
    have hpow : (if p < 0 then -(p.natAbs : ℤ) else p.natAbs) = p := by
      split <;> omega
    simp only [size, fractionDigits, hfrac, List.take_append_drop, List.length_drop, power,
      Nat.toList_repr, Nat.ofDigitChars_ten_toDigits, decide_eq_true_eq, hpow]
    congr 2
    omega

theorem length_whole_realLiteral (x : Binary64) : (realLiteral x).whole.length ≤ 18 := by
  have hform := realForm_realLiteral x
  generalize realLiteral x = l at hform
  cases hform with
  | zero h => simp
  | whole hne he hle =>
    simp only [List.length_append, List.length_replicate]
    omega
  | parted hpos hlt hle hp =>
    simp only [List.length_take]
    omega
  | small hne hz => simp
  | scientific hne hp =>
    simp only [List.length_take]
    omega

theorem pow_le_ofDigitChars {ds : List Char} (hne : ds ≠ []) (hd : ∀ c ∈ ds, c.isDigit = true)
    (hhead : ds.head? ≠ some '0') : 10 ^ (ds.length - 1) ≤ Nat.ofDigitChars 10 ds 0 := by
  cases ds with
  | nil => exact absurd rfl hne
  | cons c cs =>
    have hc := hd c (by simp)
    simp only [Char.isDigit, Bool.and_eq_true, decide_eq_true_eq] at hc
    have h48 : 48 ≤ c.toNat := hc.1
    have hne0 : c.toNat ≠ 48 := by
      intro h
      have : c = '0' := by
        rw [← Char.ofNat_toNat c, h]
      simp [this] at hhead
    rw [ofDigitChars_cons_of_isDigit, List.length_cons, Nat.add_sub_cancel]
    refine le_trans ?_ (le_ofDigitChars cs _)
    exact Nat.le_mul_of_pos_left _ (by omega)

/-- The largest power of ten that a double reaches, from the decimal that is printed for it. -/
theorem le_of_pow_le_decimal {x : Magnitude} (hx : x.Canonical) {digits p : ℕ} {e : ℤ}
    (hle : (digits : ℚ) * 10 ^ e ≤ (x.significand + 1 / 2) * 2 ^ x.exponent)
    (hp : (10 : ℚ) ^ p ≤ digits * 10 ^ e) : p ≤ 309 := by
  have hm : (x.significand : ℚ) + 1 ≤ 2 ^ 53 := by
    have hlt := hx.significand_lt
    have hsucc : x.significand + 1 ≤ 2 ^ 53 := by omega
    exact_mod_cast hsucc
  have hmax : ((x.significand : ℚ) + 1 / 2) * 2 ^ x.exponent ≤ 2 ^ 53 * 2 ^ (971 : ℤ) := by
    refine mul_le_mul (by linarith) ?_ (by positivity) (by positivity)
    exact zpow_le_zpow_right₀ one_le_two hx.exponent_le
  have hle309 : (10 : ℚ) ^ p ≤ 10 ^ 309 := hp.trans (hle.trans (hmax.trans two_pow_le_ten_pow))
  by_contra hc
  exact absurd hle309 (not_le.2 (pow_lt_pow_right₀ (by norm_num) (by omega)))

theorem power_realLiteral_le {x : Binary64} (hx : x.magnitude.Canonical) (ds : List Char)
    (h : (realLiteral x).exponent = some (false, ds)) :
    Nat.ofDigitChars 10 ds 0 ≤ exponentMax := by
  have hform := realForm_realLiteral x
  generalize realLiteral x = l at h hform
  cases hform with
  | zero => cases h
  | whole => cases h
  | parted => cases h
  | small => cases h
  | @scientific p hne hp =>
    simp only [Option.some.injEq, Prod.mk.injEq, decide_eq_false_iff_not, not_lt] at h
    obtain ⟨hsign, rfl⟩ := h
    rw [Nat.toList_repr, Nat.ofDigitChars_ten_toDigits]
    obtain ⟨-, hd, hhead, hle⟩ := (shortest_spec x.magnitude).resolve_left fun h => hne h.1
    have hpos : 0 < x.magnitude.shortest.digits.length := List.length_pos_iff.2 hne
    have hpow := pow_le_ofDigitChars hne hd hhead
    obtain ⟨p, rfl⟩ := Int.eq_ofNat_of_zero_le hsign
    -- the number is at least the power that is printed
    refine (le_of_pow_le_decimal hx hle ?_).trans (by decide)
    have hq : ((10 ^ (x.magnitude.shortest.digits.length - 1) : ℕ) : ℚ) ≤
        (Nat.ofDigitChars 10 x.magnitude.shortest.digits 0 : ℕ) := by exact_mod_cast hpow
    have hexp : (10 : ℚ) ^ p = ((10 ^ (x.magnitude.shortest.digits.length - 1) : ℕ) : ℚ) *
        10 ^ x.magnitude.shortest.exponent := by
      push_cast
      rw [← zpow_natCast, ← zpow_natCast, ← zpow_add₀ (by norm_num)]
      congr 1
      omega
    rw [Int.natAbs_natCast, hexp]
    exact mul_le_mul_of_nonneg_right hq (by positivity)

/-- Only the three largest magnitudes come near the bound up to which reading is certain. -/
theorem largest_of_safeBound_lt {x : Magnitude} (hx : x.Canonical)
    (h : safeBound < (x.significand + 1 / 2) * 2 ^ x.exponent) :
    x.exponent = 971 ∧ 9007199254740989 ≤ x.significand := by
  obtain ⟨m, e⟩ := x
  have hpos : (0 : ℚ) < 2 ^ (971 : ℤ) := by positivity
  have hm := hx.significand_lt
  have he := hx.exponent_le
  simp only at hm he h ⊢
  have hm53 : (m : ℚ) + 1 ≤ 2 ^ 53 := by
    have hsucc : m + 1 ≤ 2 ^ 53 := by omega
    exact_mod_cast hsucc
  obtain rfl : e = 971 := by
    by_contra hc
    refine absurd h (not_lt.2 ?_)
    have h970 : (2 : ℚ) ^ e ≤ 2 ^ (971 : ℤ) / 2 := by
      rw [div_eq_mul_inv, ← zpow_sub_one₀ (two_ne_zero : (2 : ℚ) ≠ 0)]
      exact zpow_le_zpow_right₀ one_le_two (by omega)
    calc ((m : ℚ) + 1 / 2) * 2 ^ e ≤ 2 ^ 53 * (2 ^ (971 : ℤ) / 2) :=
          mul_le_mul (by linarith) h970 (by positivity) (by positivity)
      _ = 2 ^ 52 * 2 ^ (971 : ℤ) := by ring
      _ ≤ safeBound := mul_le_mul_of_nonneg_right (by norm_num) hpos.le
  refine ⟨rfl, ?_⟩
  have hlt := lt_of_mul_lt_mul_right h hpos.le
  have hq : ((9007199254740988 : ℕ) : ℚ) < m := by
    push_cast
    linarith
  exact_mod_cast hq

/-- Every double that is written is read as some double. -/
theorem isSome_toDouble?_realLiteral {x : Binary64} (hx : x.magnitude.Canonical) :
    (realLiteral x).toDouble?.isSome = true := by
  by_cases hsafe : (realLiteral x).size ≤ safeBound
  · exact isSome_toDouble? (wellFormed_realLiteral x) (length_whole_realLiteral x)
      (power_realLiteral_le hx) hsafe
  · by_cases hzero : x.magnitude.isZero = true ∨ x.magnitude.shortest.digits = []
    · refine absurd ?_ hsafe
      have hbound : 0 ≤ safeBound := mul_nonneg (by norm_num) (by positivity)
      rw [realLiteral_of_zero hzero]
      simpa [size, fractionDigits, Nat.ofDigitChars_cons] using hbound
    · obtain ⟨hz, hne⟩ := not_or.1 hzero
      obtain ⟨-, -, -, hle⟩ := (shortest_spec x.magnitude).resolve_left fun h => hne h.1
      rw [size_realLiteral hz hne] at hsafe
      obtain ⟨he, hm⟩ := largest_of_safeBound_lt hx ((not_le.1 hsafe).trans_le hle)
      have hlt := hx.significand_lt
      obtain ⟨negative, m, e⟩ := x
      simp only at he hm hlt
      subst he
      have hthree : m = 9007199254740989 ∨ m = 9007199254740990 ∨ m = 9007199254740991 := by omega
      rcases hthree with rfl | rfl | rfl <;> cases negative <;> decide +kernel

end Json

end RecordStore
