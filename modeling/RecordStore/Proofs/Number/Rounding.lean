import Mathlib
import RecordStore.Number.Binary64

/-!
How far rounding to a double-precision number can go.  A ratio below the middle between the largest
finite value and its successor rounds to a finite number, and rounding a ratio of at least one adds
at most one part in `2 ^ 53`.
-/
namespace RecordStore.Number.Magnitude

/-- The number that a magnitude stands for. -/
def value (x : Magnitude) : ℚ := x.significand * (2 : ℚ) ^ x.exponent

theorem value_nonneg (x : Magnitude) : 0 ≤ x.value := by
  unfold value
  positivity

theorem ratio_den_pos (x : Magnitude) : 0 < x.ratio.2 := by
  unfold ratio
  split
  · exact Nat.one_pos
  · rw [Nat.one_shiftLeft]
    exact Nat.two_pow_pos _

theorem ratio_value (x : Magnitude) : (x.ratio.1 : ℚ) / x.ratio.2 = x.value := by
  unfold ratio value
  split
  · next h =>
    obtain ⟨k, hk⟩ := Int.eq_ofNat_of_zero_le h
    simp [hk, Nat.shiftLeft_eq]
  · next h =>
    obtain ⟨k, hk⟩ := Int.eq_ofNat_of_zero_le (a := -x.exponent) (by omega)
    have he : x.exponent = -(k : ℤ) := by omega
    simp [he, Nat.shiftLeft_eq, div_eq_mul_inv]

theorem powerAtMost_iff {k : ℤ} {num den : ℕ} (hd : 0 < den) :
    powerAtMost k num den = true ↔ (2 : ℚ) ^ k ≤ num / den := by
  have hd' : (0 : ℚ) < den := by exact_mod_cast hd
  rw [le_div_iff₀ hd']
  unfold powerAtMost
  split
  · next h =>
    obtain ⟨j, rfl⟩ := Int.eq_ofNat_of_zero_le h
    simp only [Int.toNat_natCast, Nat.shiftLeft_eq, decide_eq_true_eq, zpow_natCast]
    rw [← Nat.cast_le (α := ℚ)]
    push_cast
    rw [mul_comm]
  · next h =>
    obtain ⟨j, hj⟩ := Int.eq_ofNat_of_zero_le (a := -k) (by omega)
    have hk : k = -(j : ℤ) := by omega
    have hp : (0 : ℚ) < 2 ^ j := by positivity
    simp only [hj, Int.toNat_natCast, Nat.shiftLeft_eq, decide_eq_true_eq]
    rw [hk, zpow_neg, zpow_natCast, inv_mul_le_iff₀ hp, ← Nat.cast_le (α := ℚ)]
    push_cast
    rw [mul_comm]

/-- The place of the leading bit of a ratio. -/
def leading (num den : ℕ) : ℤ :=
  let guess : ℤ := num.log2 - den.log2
  if powerAtMost guess num den then guess else guess - 1

theorem leading_spec {num den : ℕ} (hn : 0 < num) (hd : 0 < den) :
    (2 : ℚ) ^ leading num den ≤ num / den ∧ (num : ℚ) / den < 2 ^ (leading num den + 1) := by
  have hd' : (0 : ℚ) < den := by exact_mod_cast hd
  have hn1 : ((2 ^ num.log2 : ℕ) : ℚ) ≤ num := by exact_mod_cast Nat.log2_self_le hn.ne'
  have hn2 : (num : ℚ) < ((2 ^ (num.log2 + 1) : ℕ) : ℚ) := by exact_mod_cast Nat.lt_log2_self
  have hd1 : ((2 ^ den.log2 : ℕ) : ℚ) ≤ den := by exact_mod_cast Nat.log2_self_le hd.ne'
  have hd2 : (den : ℚ) < ((2 ^ (den.log2 + 1) : ℕ) : ℚ) := by exact_mod_cast Nat.lt_log2_self
  push_cast at hn1 hn2 hd1 hd2
  have hupper : (num : ℚ) / den < 2 ^ ((num.log2 : ℤ) - den.log2 + 1) := by
    rw [div_lt_iff₀ hd']
    have he : (2 : ℚ) ^ ((num.log2 : ℤ) - den.log2 + 1) * 2 ^ den.log2 = 2 ^ (num.log2 + 1) := by
      rw [← zpow_natCast, ← zpow_natCast, ← zpow_add₀ two_ne_zero]
      congr 1
      push_cast
      ring
    have hp : (0 : ℚ) < 2 ^ ((num.log2 : ℤ) - den.log2 + 1) := by positivity
    nlinarith [mul_le_mul_of_nonneg_left hd1 hp.le]
  have hlower : (2 : ℚ) ^ ((num.log2 : ℤ) - den.log2 - 1) ≤ num / den := by
    rw [le_div_iff₀ hd']
    have he : (2 : ℚ) ^ ((num.log2 : ℤ) - den.log2 - 1) * 2 ^ (den.log2 + 1) = 2 ^ num.log2 := by
      rw [← zpow_natCast, ← zpow_natCast, ← zpow_add₀ two_ne_zero]
      congr 1
      push_cast
      ring
    have hp : (0 : ℚ) < 2 ^ ((num.log2 : ℤ) - den.log2 - 1) := by positivity
    nlinarith [mul_le_mul_of_nonneg_left hd2.le hp.le]
  unfold leading
  simp only
  split
  · next h => exact ⟨(powerAtMost_iff hd).1 h, hupper⟩
  · next h =>
    refine ⟨hlower, ?_⟩
    rw [sub_add_cancel]
    rw [powerAtMost_iff hd, not_le] at h
    exact h

/-- The exponent that rounding a ratio uses. -/
def roundExponent (num den : ℕ) : ℤ := max (leading num den - 52) (-1074)

/-- A ratio over a power of two, as natural numbers. -/
def scaledRatio (e : ℤ) (num den : ℕ) : ℕ × ℕ :=
  if 0 ≤ e then (num, den <<< e.toNat) else (num <<< (-e).toNat, den)

theorem scaledRatio_spec (e : ℤ) (num : ℕ) {den : ℕ} (hd : 0 < den) :
    0 < (scaledRatio e num den).2 ∧
      ((scaledRatio e num den).1 : ℚ) / (scaledRatio e num den).2 = num / den / 2 ^ e := by
  unfold scaledRatio
  split
  · next h =>
    obtain ⟨k, rfl⟩ := Int.eq_ofNat_of_zero_le h
    refine ⟨by simp [Nat.shiftLeft_eq, hd], ?_⟩
    simp [Nat.shiftLeft_eq, div_div]
  · next h =>
    obtain ⟨k, hk⟩ := Int.eq_ofNat_of_zero_le (a := -e) (by omega)
    have he : e = -(k : ℤ) := by omega
    refine ⟨hd, ?_⟩
    simp [he, Nat.shiftLeft_eq]
    ring

/-- The natural number nearest to a ratio, a tie going to the even one. -/
def nearest (a b : ℕ) : ℕ :=
  if 2 * (a % b) < b || (2 * (a % b) == b && a / b % 2 == 0) then a / b else a / b + 1

theorem nearest_le {a b : ℕ} (hb : 0 < b) : (nearest a b : ℚ) ≤ a / b + 1 / 2 := by
  have hb' : (0 : ℚ) < b := by exact_mod_cast hb
  have hdiv : (a : ℚ) = b * (a / b : ℕ) + (a % b : ℕ) := by exact_mod_cast (Nat.div_add_mod a b).symm
  have hq : (a : ℚ) / b = (a / b : ℕ) + (a % b : ℕ) / b := by
    field_simp
    linarith
  have hr : (0 : ℚ) ≤ (a % b : ℕ) / b := by positivity
  rw [hq]
  unfold nearest
  split
  · linarith
  · next h =>
    simp only [Bool.or_eq_true, decide_eq_true_eq, not_or, not_lt] at h
    have h2 : (b : ℚ) ≤ 2 * (a % b : ℕ) := by exact_mod_cast h.1
    have : (1 : ℚ) / 2 ≤ (a % b : ℕ) / b := by
      rw [div_le_div_iff₀ two_pos hb']
      linarith
    push_cast
    linarith

theorem nearest_lt {a b n : ℕ} (hb : 0 < b) (h : (a : ℚ) / b < n - 1 / 2) : nearest a b < n := by
  have hle := nearest_le (a := a) hb
  have hlt : (nearest a b : ℚ) < n := by linarith
  exact_mod_cast hlt

/-- A significand that has grown by a bit, brought back to its width. -/
def carried (m : ℕ) (e : ℤ) : ℕ × ℤ :=
  if m = 0x20000000000000 then (0x10000000000000, e + 1) else (m, e)

theorem ofRatio?_eq {num den : ℕ} (hn : 0 < num) :
    ofRatio? num den =
      (let e := roundExponent num den
       let ab := scaledRatio e num den
       let me := carried (nearest ab.1 ab.2) e
       if me.2 > 971 then none else some ⟨me.1, me.2⟩) := by
  unfold ofRatio?
  rw [if_neg hn.ne']
  rfl

theorem carried_value (m : ℕ) (e : ℤ) :
    ((carried m e).1 : ℚ) * 2 ^ (carried m e).2 = m * 2 ^ e := by
  unfold carried
  split
  · next h =>
    rw [h, zpow_add₀ two_ne_zero]
    norm_num
    ring
  · rfl

/-- The middle between the largest finite value and what would follow it. -/
def overflowBound : ℚ := (2 ^ 53 - 1 / 2) * (2 : ℚ) ^ (971 : ℤ)

theorem isSome_ofRatio? {num den : ℕ} (hd : 0 < den) (h : (num : ℚ) / den < overflowBound) :
    (ofRatio? num den).isSome = true := by
  rcases Nat.eq_zero_or_pos num with rfl | hn
  · rfl
  · have hspec := leading_spec hn hd
    have hsc := scaledRatio_spec (roundExponent num den) num hd
    have hlead : leading num den ≤ 1023 := by
      by_contra hc
      have h1024 : (2 : ℚ) ^ (1024 : ℤ) ≤ num / den :=
        le_trans (zpow_le_zpow_right₀ one_le_two (by omega)) hspec.1
      have hb : overflowBound ≤ (2 : ℚ) ^ (1024 : ℤ) := by
        have hpos : (0 : ℚ) ≤ (2 : ℚ) ^ (971 : ℤ) := by positivity
        rw [show (1024 : ℤ) = 53 + 971 by rfl, zpow_add₀ two_ne_zero]
        exact mul_le_mul_of_nonneg_right (by norm_num) hpos
      exact absurd h (not_lt.2 (hb.trans h1024))
    rw [ofRatio?_eq hn]
    simp only
    have he : roundExponent num den ≤ 971 := by
      unfold roundExponent
      omega
    generalize hm : nearest (scaledRatio (roundExponent num den) num den).1
      (scaledRatio (roundExponent num den) num den).2 = m
    have hle : (carried m (roundExponent num den)).2 ≤ 971 := by
      unfold carried
      split
      · next hcarry =>
        rcases lt_or_eq_of_le he with hlt | heq
        · exact hlt
        · exfalso
          -- at the largest exponent there is no room for a carry
          have hpos : (0 : ℚ) < 2 ^ (971 : ℤ) := by positivity
          have hlt : (num : ℚ) / den / 2 ^ (971 : ℤ) < (0x20000000000000 : ℕ) - 1 / 2 := by
            have hc : ((0x20000000000000 : ℕ) : ℚ) = 2 ^ 53 := by norm_num
            rw [div_lt_iff₀ hpos, hc]
            exact h
          rw [← heq, ← hsc.2] at hlt
          exact absurd (nearest_lt hsc.1 hlt) (by omega)
      · exact he
    rw [if_neg (by omega)]
    rfl

theorem le_nearest (a b : ℕ) : a / b ≤ nearest a b := by
  unfold nearest
  split
  · exact le_rfl
  · exact Nat.le_succ _

/-- What a rounded value is: a nearest significand at the exponent of the ratio. -/
theorem value_of_ofRatio? {num den : ℕ} {x : Magnitude} (hn : 0 < num)
    (h : ofRatio? num den = some x) :
    x.value = nearest (scaledRatio (roundExponent num den) num den).1
      (scaledRatio (roundExponent num den) num den).2 * 2 ^ roundExponent num den := by
  rw [ofRatio?_eq hn] at h
  simp only at h
  split at h
  · cases h
  · obtain rfl := Option.some.inj h
    exact carried_value _ _

theorem value_le_add_half {num den : ℕ} {x : Magnitude} (hn : 0 < num) (hd : 0 < den)
    (h : ofRatio? num den = some x) :
    x.value ≤ num / den + 2 ^ roundExponent num den / 2 := by
  have hsc := scaledRatio_spec (roundExponent num den) num hd
  have hnear := nearest_le (a := (scaledRatio (roundExponent num den) num den).1) hsc.1
  have hpos : (0 : ℚ) < 2 ^ roundExponent num den := by positivity
  rw [hsc.2] at hnear
  rw [value_of_ofRatio? hn h]
  calc _ ≤ ((num : ℚ) / den / 2 ^ roundExponent num den + 1 / 2) * 2 ^ roundExponent num den :=
        mul_le_mul_of_nonneg_right hnear hpos.le
    _ = num / den + 2 ^ roundExponent num den / 2 := by field_simp

theorem leading_nonneg {num den : ℕ} (hn : 0 < num) (hd : 0 < den) (h1 : (1 : ℚ) ≤ num / den) :
    0 ≤ leading num den := by
  by_contra hc
  have hle : (2 : ℚ) ^ (leading num den + 1) ≤ 2 ^ (0 : ℤ) :=
    zpow_le_zpow_right₀ one_le_two (by omega)
  rw [zpow_zero] at hle
  linarith [(leading_spec hn hd).2]

theorem num_pos {num den : ℕ} (h1 : (1 : ℚ) ≤ num / den) : 0 < num := by
  rcases Nat.eq_zero_or_pos num with rfl | hn
  · norm_num at h1
  · exact hn

theorem value_le_of_ofRatio? {num den : ℕ} {x : Magnitude} (hd : 0 < den)
    (h1 : (1 : ℚ) ≤ num / den) (h : ofRatio? num den = some x) :
    x.value ≤ num / den * (1 + 1 / 2 ^ 53) := by
  have hn := num_pos h1
  have hlead := leading_nonneg hn hd h1
  have he : roundExponent num den = leading num den - 52 := by
    unfold roundExponent
    omega
  have hulp : (2 : ℚ) ^ roundExponent num den ≤ num / den * (1 / 2 ^ 52) := by
    have h52 : (2 : ℚ) ^ (52 : ℤ) = 2 ^ 52 := by norm_cast
    rw [he, zpow_sub₀ two_ne_zero, h52, div_eq_mul_one_div]
    exact mul_le_mul_of_nonneg_right (leading_spec hn hd).1 (by positivity)
  have := value_le_add_half hn hd h
  linarith

theorem value_le_two {num den : ℕ} {x : Magnitude} (hd : 0 < den) (h1 : (num : ℚ) / den ≤ 1)
    (h : ofRatio? num den = some x) : x.value ≤ 2 := by
  rcases Nat.eq_zero_or_pos num with rfl | hn
  · obtain rfl := Option.some.inj h
    simp [value, zero]
  · have hlead : leading num den ≤ 0 := by
      by_contra hc
      have hle : (2 : ℚ) ^ (1 : ℤ) ≤ 2 ^ leading num den :=
        zpow_le_zpow_right₀ one_le_two (by omega)
      rw [zpow_one] at hle
      linarith [(leading_spec hn hd).1]
    have he : (2 : ℚ) ^ roundExponent num den ≤ 2 ^ (0 : ℤ) := by
      apply zpow_le_zpow_right₀ one_le_two
      unfold roundExponent
      omega
    rw [zpow_zero] at he
    have := value_le_add_half hn hd h
    linarith

theorem half_lt_value {num den : ℕ} {x : Magnitude} (hd : 0 < den) (h1 : (1 : ℚ) ≤ num / den)
    (h : ofRatio? num den = some x) : (num : ℚ) / den / 2 < x.value := by
  have hn := num_pos h1
  have hlead := leading_nonneg hn hd h1
  have hspec := leading_spec hn hd
  have he : roundExponent num den = leading num den - 52 := by
    unfold roundExponent
    omega
  have hsc := scaledRatio_spec (roundExponent num den) num hd
  rw [value_of_ofRatio? hn h]
  set a := (scaledRatio (roundExponent num den) num den).1
  set b := (scaledRatio (roundExponent num den) num den).2
  have hb : (0 : ℚ) < b := by exact_mod_cast hsc.1
  have hpos : (0 : ℚ) < 2 ^ roundExponent num den := by positivity
  -- the significand has all its 53 bits, so nothing but the last one is rounded
  have hfull : 2 ^ 52 ≤ a / b := by
    rw [Nat.le_div_iff_mul_le hsc.1, ← Nat.cast_le (α := ℚ)]
    have hab : (2 : ℚ) ^ 52 ≤ a / b := by
      rw [hsc.2, le_div_iff₀ hpos, he, ← zpow_natCast, ← zpow_add₀ two_ne_zero]
      simpa using hspec.1
    rw [le_div_iff₀ hb] at hab
    push_cast
    exact hab
  have hnear : (2 : ℚ) ^ 52 ≤ nearest a b := by
    have := hfull.trans (le_nearest a b)
    exact_mod_cast this
  calc (num : ℚ) / den / 2 < 2 ^ (leading num den + 1) / 2 := by linarith [hspec.2]
    _ = 2 ^ 52 * 2 ^ roundExponent num den := by
      rw [he, ← zpow_natCast, ← zpow_add₀ two_ne_zero, zpow_add_one₀ two_ne_zero]
      norm_num
    _ ≤ nearest a b * 2 ^ roundExponent num den := mul_le_mul_of_nonneg_right hnear hpos.le

end RecordStore.Number.Magnitude
