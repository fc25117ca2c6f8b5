import Mathlib
import RecordStore.Proofs.Json.Literal
import RecordStore.Proofs.Number.Rounding

/-!
Which literals are small enough to be read as doubles.  Reading rounds three times, once for the
significand, once for the power of ten and once for their product, so a literal is certainly read
when its value stays a few units below the largest finite value.
-/
namespace RecordStore.NumberLiteral
open RecordStore.Number Magnitude

/-- A value that three rounding steps do not carry past the largest finite one. -/
def safeBound : ℚ := (2 ^ 53 - 7 / 2) * (2 : ℚ) ^ (971 : ℤ)

theorem safeBound_mul_lt : safeBound * ((1 + 1 / 2 ^ 53) * (1 + 1 / 2 ^ 53)) < overflowBound := by
  have hpos : (0 : ℚ) < 2 ^ (971 : ℤ) := by positivity
  have hc : ((2 : ℚ) ^ 53 - 7 / 2) * ((1 + 1 / 2 ^ 53) * (1 + 1 / 2 ^ 53)) < 2 ^ 53 - 1 / 2 := by
    norm_num
  calc safeBound * ((1 + 1 / 2 ^ 53) * (1 + 1 / 2 ^ 53))
      = (2 ^ 53 - 7 / 2) * ((1 + 1 / 2 ^ 53) * (1 + 1 / 2 ^ 53)) * 2 ^ (971 : ℤ) := by
        unfold safeBound
        ring
    _ < (2 ^ 53 - 1 / 2) * 2 ^ (971 : ℤ) := mul_lt_mul_of_pos_right hc hpos

theorem lt_overflowBound {x : ℚ} (h : x ≤ 2 ^ 100) : x < overflowBound := by
  have hpow : (2 : ℚ) ^ (100 : ℤ) ≤ 2 ^ (971 : ℤ) :=
    zpow_le_zpow_right₀ one_le_two (by decide)
  have hpos : (0 : ℚ) < 2 ^ (971 : ℤ) := by positivity
  calc x ≤ 2 ^ (100 : ℤ) := h
    _ ≤ 2 ^ (971 : ℤ) := hpow
    _ = 1 * 2 ^ (971 : ℤ) := (one_mul _).symm
    _ < overflowBound := mul_lt_mul_of_pos_right (by norm_num) hpos

theorem cast_tenPower (k : ℕ) : (tenPower k : ℚ) = 10 ^ k := by
  have h : tenPower k = 10 ^ k := rfl
  rw [h]
  push_cast
  rfl

theorem ten_pow_lt_overflowBound {k : ℕ} (h : k ≤ 308) : (10 : ℚ) ^ k < overflowBound := by
  -- powers of five against powers of two, in steps that are small enough to compute
  have h31 : (5 : ℚ) ^ 31 ≤ 2 ^ 72 := by norm_num
  have h29 : (5 : ℚ) ^ 29 ≤ 2 ^ 68 * (3 / 4) := by norm_num
  have h9 : ((5 : ℚ) ^ 31) ^ 9 ≤ (2 ^ 72) ^ 9 := pow_le_pow_left₀ (by positivity) h31 9
  have hpos : (0 : ℚ) < 2 ^ (971 : ℤ) := by positivity
  calc (10 : ℚ) ^ k ≤ 10 ^ (31 * 9 + 29) := pow_le_pow_right₀ (by norm_num) h
    _ = (5 ^ 31) ^ 9 * 5 ^ 29 * 2 ^ (31 * 9 + 29) := by
      rw [← pow_mul, ← pow_add, ← mul_pow, show (5 : ℚ) * 2 = 10 by norm_num]
    _ ≤ (2 ^ 72) ^ 9 * (2 ^ 68 * (3 / 4)) * 2 ^ (31 * 9 + 29) := by gcongr
    _ = 3 / 4 * 2 ^ 53 * 2 ^ (971 : ℤ) := by
      have h971 : (2 : ℚ) ^ (971 : ℤ) = 2 ^ 971 := zpow_natCast 2 971
      have he : ((2 : ℚ) ^ 72) ^ 9 * 2 ^ 68 * 2 ^ (31 * 9 + 29) = 2 ^ 53 * 2 ^ 971 := by
        rw [← pow_mul, ← pow_add, ← pow_add, ← pow_add]
      rw [h971, mul_assoc (3 / 4 : ℚ), ← he]
      generalize ((2 : ℚ) ^ 72) ^ 9 = a, (2 : ℚ) ^ (31 * 9 + 29) = c
      ring
    _ < overflowBound := mul_lt_mul_of_pos_right (by norm_num) hpos

theorem two_pow_le_ten_pow : (2 : ℚ) ^ 53 * 2 ^ (971 : ℤ) ≤ 10 ^ 309 := by
  have h28 : (2 : ℚ) ^ 65 ≤ 5 ^ 28 := by norm_num
  have h11 : ((2 : ℚ) ^ 65) ^ 11 ≤ (5 ^ 28) ^ 11 := pow_le_pow_left₀ (by positivity) h28 11
  calc (2 : ℚ) ^ 53 * 2 ^ (971 : ℤ) = (2 ^ 65) ^ 11 * 2 ^ 309 := by
        have h971 : (2 : ℚ) ^ (971 : ℤ) = 2 ^ 971 := zpow_natCast 2 971
        rw [h971, ← pow_mul, ← pow_add, ← pow_add]
    _ ≤ (5 ^ 28) ^ 11 * 2 ^ 309 := by gcongr
    _ ≤ (5 ^ 28) ^ 11 * 5 * 2 ^ 309 := by
      have hp : (0 : ℚ) ≤ (5 ^ 28) ^ 11 := by positivity
      exact mul_le_mul_of_nonneg_right (le_mul_of_one_le_right hp (by norm_num)) (by positivity)
    _ = 10 ^ 309 := by
      rw [← pow_mul, ← pow_succ, ← mul_pow, show (5 : ℚ) * 2 = 10 by norm_num]

theorem safeBound_lt_ten_pow : safeBound < (10 : ℚ) ^ 309 := by
  have hpos : (0 : ℚ) < 2 ^ (971 : ℤ) := by positivity
  exact (mul_lt_mul_of_pos_right (by norm_num) hpos).trans_le two_pow_le_ten_pow

theorem ten_pow_double {k : ℕ} (h : k ≤ 308) : ∃ p, ofRatio? (tenPower k) 1 = some p ∧
    p.value ≤ 10 ^ k * (1 + 1 / 2 ^ 53) ∧ (10 : ℚ) ^ k / 2 < p.value := by
  have hv : ((tenPower k : ℕ) : ℚ) / (1 : ℕ) = 10 ^ k := by rw [cast_tenPower, Nat.cast_one, div_one]
  have h1 : (1 : ℚ) ≤ (tenPower k : ℕ) / (1 : ℕ) := by
    rw [hv]
    exact one_le_pow₀ (by norm_num)
  have hlt : ((tenPower k : ℕ) : ℚ) / (1 : ℕ) < overflowBound := by
    rw [hv]
    exact ten_pow_lt_overflowBound h
  obtain ⟨p, hp⟩ := Option.isSome_iff_exists.1 (isSome_ofRatio? Nat.one_pos hlt)
  have hle := value_le_of_ofRatio? Nat.one_pos h1 hp
  have hhalf := half_lt_value Nat.one_pos h1 hp
  rw [hv] at hle hhalf
  exact ⟨p, hp, hle, hhalf⟩

theorem mul?_ratio (x y : Magnitude) :
    (((x.ratio.1 * y.ratio.1 : ℕ) : ℚ) / (x.ratio.2 * y.ratio.2 : ℕ)) = x.value * y.value := by
  rw [← ratio_value x, ← ratio_value y]
  push_cast
  exact (div_mul_div_comm _ _ _ _).symm

theorem isSome_mul? {x y : Magnitude} (h : x.value * y.value < overflowBound) :
    (x.mul? y).isSome = true := by
  refine isSome_ofRatio? (Nat.mul_pos (ratio_den_pos x) (ratio_den_pos y)) ?_
  rwa [mul?_ratio]

theorem ratio_num_pos {y : Magnitude} (hy : 0 < y.value) : 0 < y.ratio.1 := by
  rw [← ratio_value y] at hy
  rcases Nat.eq_zero_or_pos y.ratio.1 with h | h
  · rw [h] at hy
    norm_num at hy
  · exact h

theorem div?_ratio (x y : Magnitude) :
    (((x.ratio.1 * y.ratio.2 : ℕ) : ℚ) / (x.ratio.2 * y.ratio.1 : ℕ)) = x.value / y.value := by
  rw [← ratio_value x, ← ratio_value y]
  push_cast
  exact (div_div_div_eq _ _ _ _).symm

theorem isSome_div? {x y : Magnitude} (hy : 0 < y.value) (h : x.value / y.value < overflowBound) :
    (x.div? y).isSome = true := by
  refine isSome_ofRatio? (Nat.mul_pos (ratio_den_pos x) (ratio_num_pos hy)) ?_
  rwa [div?_ratio]

/-- A quotient by at least two does not grow, unless it is below two. -/
theorem div?_value_le {x y z : Magnitude} (hy : 2 ≤ y.value) (h : x.div? y = some z) :
    z.value ≤ max 2 x.value := by
  have hden : 0 < x.ratio.2 * y.ratio.1 :=
    Nat.mul_pos (ratio_den_pos x) (ratio_num_pos (two_pos.trans_le hy))
  have hratio := div?_ratio x y
  have hx := x.value_nonneg
  have hhalf : x.value / y.value ≤ x.value / 2 := div_le_div_of_nonneg_left hx two_pos hy
  rcases le_total (x.value / y.value) 1 with h1 | h1
  · exact (value_le_two hden (hratio.trans_le h1) h).trans (le_max_left _ _)
  · have hle := value_le_of_ofRatio? hden (hratio.symm ▸ h1) h
    rw [hratio] at hle
    refine le_trans ?_ (le_max_right 2 x.value)
    calc z.value ≤ x.value / y.value * (1 + 1 / 2 ^ 53) := hle
      _ ≤ x.value / 2 * 2 := by
        apply mul_le_mul hhalf (by norm_num) (by norm_num)
        positivity
      _ = x.value := by ring

section
attribute [local irreducible] tenPower ofRatio?

theorem scaled?_succ (fuel : ℕ) (x : Magnitude) (e : ℤ) :
    scaled? (fuel + 1) x e =
      if e.natAbs ≤ 308 then
        match ofRatio? (tenPower e.natAbs) 1 with
        | none => none
        | some p => if 0 ≤ e then x.mul? p else x.div? p
      else if x.isZero then some x
      else if 0 ≤ e then none
      else
        match ofRatio? (tenPower 308) 1 with
        | none => none
        | some p => (x.div? p).bind fun y => scaled? fuel y (e + 308) := rfl

/-- Making a number smaller never leaves the range. -/
theorem isSome_scaled?_of_neg (fuel : ℕ) {x : Magnitude} {e : ℤ} (he : e < 0)
    (hx : x.value ≤ 2 ^ 100) : (scaled? fuel x e).isSome = true := by
  induction fuel generalizing x e with
  | zero => rfl
  | succ fuel ih =>
    have hquot (k : ℕ) (hk : k ≤ 308) (hk0 : 0 < k) : ∃ p, ofRatio? (tenPower k) 1 = some p ∧
        2 ≤ p.value ∧ (x.div? p).isSome = true := by
      obtain ⟨p, hp, -, hhalf⟩ := ten_pow_double hk
      have h10 : (10 : ℚ) ≤ 10 ^ k := le_self_pow₀ (by norm_num) hk0.ne'
      have h2 : 2 ≤ p.value := by linarith
      refine ⟨p, hp, h2, isSome_div? (two_pos.trans_le h2) ?_⟩
      have hle : x.value / p.value ≤ x.value :=
        div_le_self x.value_nonneg (one_le_two.trans h2)
      exact lt_overflowBound (hle.trans hx)
    rw [scaled?_succ]
    split
    · next hsmall =>
      obtain ⟨p, hp, -, hdiv⟩ := hquot e.natAbs hsmall (by omega)
      rw [hp]
      simp only
      rw [if_neg (by omega)]
      exact hdiv
    · split
      · rfl
      · rw [if_neg (by omega)]
        obtain ⟨p, hp, h2, hdiv⟩ := hquot 308 le_rfl (by decide)
        rw [hp]
        obtain ⟨y, hy⟩ := Option.isSome_iff_exists.1 hdiv
        simp only [hy, Option.bind_some]
        have hle : y.value ≤ 2 ^ 100 :=
          (div?_value_le h2 hy).trans (max_le (by norm_num) hx)
        exact ih (by omega) hle

/-- Zero stays zero under every scaling. -/
theorem isSome_scaled?_zero (e : ℤ) : (scaled? 8 zero e).isSome = true := by
  have hz : zero.value = 0 := by simp [value, zero]
  rcases lt_or_ge e 0 with he | he
  · exact isSome_scaled?_of_neg 8 he (by rw [hz]; positivity)
  · rw [scaled?_succ]
    split
    · next hsmall =>
      obtain ⟨p, hp, -⟩ := ten_pow_double hsmall
      rw [hp]
      simp only
      exact isSome_mul? (lt_overflowBound (by rw [hz, zero_mul]; positivity))
    · rfl

end

theorem isSome_double? (negative : Bool) {n : ℕ} {e : ℤ} (hn : n ≤ wordMax)
    (hv : (n : ℚ) * 10 ^ e ≤ safeBound) : (double? negative n e).isSome = true := by
  have hword : n < 2 ^ 64 := by
    have : wordMax < 2 ^ 64 := by decide
    omega
  have hnq : (n : ℚ) ≤ 2 ^ 64 := by exact_mod_cast hword.le
  have hlt : (n : ℚ) / (1 : ℕ) < overflowBound := by
    rw [Nat.cast_one, div_one]
    exact lt_overflowBound (hnq.trans (by norm_num))
  obtain ⟨x, hx⟩ := Option.isSome_iff_exists.1 (isSome_ofRatio? Nat.one_pos hlt)
  suffices h : (scaled? 8 x e).isSome = true by
    simp [double?, hx, h]
  rcases Nat.eq_zero_or_pos n with rfl | hpos
  · obtain rfl : zero = x := Option.some.inj hx
    exact isSome_scaled?_zero e
  · have h1 : (1 : ℚ) ≤ (n : ℚ) / (1 : ℕ) := by
      rw [Nat.cast_one, div_one]
      exact_mod_cast hpos
    have hxle := value_le_of_ofRatio? Nat.one_pos h1 hx
    rw [Nat.cast_one, div_one] at hxle h1
    rcases lt_or_ge e 0 with he | he
    · refine isSome_scaled?_of_neg 8 he (hxle.trans ?_)
      calc (n : ℚ) * (1 + 1 / 2 ^ 53) ≤ 2 ^ 64 * (1 + 1 / 2 ^ 53) := by gcongr
        _ ≤ 2 ^ 100 := by norm_num
    · obtain ⟨k, rfl⟩ := Int.eq_ofNat_of_zero_le he
      rw [zpow_natCast] at hv
      have hk : k ≤ 308 := by
        by_contra hc
        have h309 : (10 : ℚ) ^ 309 ≤ 10 ^ k := pow_le_pow_right₀ (by norm_num) (by omega)
        have hmul : (10 : ℚ) ^ k ≤ n * 10 ^ k := le_mul_of_one_le_left (by positivity) h1
        exact absurd (h309.trans (hmul.trans hv)) (not_le.2 safeBound_lt_ten_pow)
      obtain ⟨p, hp, hple, -⟩ := ten_pow_double hk
      rw [scaled?_succ, if_pos (by simpa using hk), Int.natAbs_natCast, hp]
      simp only [he, if_true]
      refine isSome_mul? (lt_of_le_of_lt ?_ safeBound_mul_lt)
      calc x.value * p.value
          ≤ n * (1 + 1 / 2 ^ 53) * (10 ^ k * (1 + 1 / 2 ^ 53)) :=
            mul_le_mul hxle hple p.value_nonneg (by positivity)
        _ = n * 10 ^ k * ((1 + 1 / 2 ^ 53) * (1 + 1 / 2 ^ 53)) := by ring
        _ ≤ safeBound * ((1 + 1 / 2 ^ 53) * (1 + 1 / 2 ^ 53)) :=
            mul_le_mul_of_nonneg_right hv (by positivity)

/-! ### Literals -/

/-- The digits behind the point. -/
def fractionDigits (l : NumberLiteral) : List Char := l.fraction.getD []

/-- The power of ten that the exponent stands for. -/
def power (l : NumberLiteral) : ℤ :=
  match l.exponent with
  | none => 0
  | some (down, ds) => if down then -(Nat.ofDigitChars 10 ds 0 : ℤ) else Nat.ofDigitChars 10 ds 0

/-- The magnitude that a literal names. -/
def size (l : NumberLiteral) : ℚ :=
  (Nat.ofDigitChars 10 (l.whole ++ l.fractionDigits) 0 : ℚ) *
    10 ^ (l.power - l.fractionDigits.length)

theorem ofDigitChars_cons_of_isDigit {c : Char} {cs : List Char} {n : ℕ} :
    Nat.ofDigitChars 10 (c :: cs) n = Nat.ofDigitChars 10 cs (10 * n + (c.toNat - 48)) := by
  rw [Nat.ofDigitChars_cons]
  rfl

theorem le_ofDigitChars (cs : List Char) (n : ℕ) :
    n * 10 ^ cs.length ≤ Nat.ofDigitChars 10 cs n := by
  rw [Nat.ofDigitChars_eq_ofDigitChars_zero, Nat.mul_comm]
  exact Nat.le_add_right _ _

theorem ofDigitChars_lt {cs : List Char} (h : ∀ c ∈ cs, c.isDigit = true) (n : ℕ) :
    Nat.ofDigitChars 10 cs n < (n + 1) * 10 ^ cs.length := by
  induction cs generalizing n with
  | nil => simp
  | cons c cs ih =>
    have hc : c.toNat - 48 < 10 := by
      have := h c (by simp)
      simp only [Char.isDigit, Bool.and_eq_true, decide_eq_true_eq] at this
      have h2 : c.toNat ≤ 57 := this.2
      omega
    rw [ofDigitChars_cons_of_isDigit, List.length_cons, Nat.pow_succ]
    calc Nat.ofDigitChars 10 cs (10 * n + (c.toNat - 48))
        < (10 * n + (c.toNat - 48) + 1) * 10 ^ cs.length :=
          ih (fun d hd => h d (by simp [hd])) _
      _ ≤ (n + 1) * 10 * 10 ^ cs.length := Nat.mul_le_mul_right _ (by omega)
      _ = (n + 1) * (10 ^ cs.length * 10) := by ring

/-- What is collected is the number of the digits with some of its last places cut off. -/
theorem collect_spec (cs : List Char) {n : ℕ} (hn : n ≤ wordMax) :
    (collect n cs).1 ≤ wordMax ∧ (collect n cs).2.length ≤ cs.length ∧
      (collect n cs).1 * 10 ^ (collect n cs).2.length ≤ Nat.ofDigitChars 10 cs n := by
  induction cs generalizing n with
  | nil => simp [collect, hn]
  | cons c cs ih =>
    unfold collect
    simp only
    split
    · exact ⟨hn, le_rfl, le_ofDigitChars (c :: cs) n⟩
    · next h =>
      obtain ⟨h1, h2, h3⟩ := ih (n := 10 * n + (c.toNat - 48)) (by omega)
      refine ⟨h1, by simp only [List.length_cons]; omega, ?_⟩
      rwa [ofDigitChars_cons_of_isDigit]

theorem collect_eq {cs : List Char} {n : ℕ} (h : Nat.ofDigitChars 10 cs n ≤ wordMax) :
    collect n cs = (Nat.ofDigitChars 10 cs n, []) := by
  induction cs generalizing n with
  | nil => simp [collect]
  | cons c cs ih =>
    rw [ofDigitChars_cons_of_isDigit] at h ⊢
    have hle : 10 * n + (c.toNat - 48) ≤ wordMax := by
      refine le_trans ?_ ((le_ofDigitChars cs _).trans h)
      exact Nat.le_mul_of_pos_right _ (by positivity)
    unfold collect
    simp only
    rw [if_neg (by omega), ih h]

/-- A significand with its shift, scaled by an exponent. -/
def withExponent (negative : Bool) (exponent : Option (Bool × List Char)) (m : ℕ) (shift : ℤ) :
    Option Binary64 :=
  match exponent with
  | none => double? negative m shift
  | some (down, ds) =>
    let e := Nat.ofDigitChars 10 ds 0
    if e > exponentMax then
      if m ≠ 0 ∧ ¬ down then none else some ⟨negative, Magnitude.zero⟩
    else double? negative m (if down then shift - e else shift + e)

/-- A literal is read as a word that is no larger than its digits, scaled by its exponent. -/
theorem exists_significand {l : NumberLiteral} (hword : Nat.ofDigitChars 10 l.whole 0 ≤ wordMax) :
    ∃ (m : ℕ) (shift : ℤ), m ≤ wordMax ∧
      (m : ℚ) * 10 ^ shift ≤ Nat.ofDigitChars 10 (l.whole ++ l.fractionDigits) 0 *
        10 ^ (-l.fractionDigits.length : ℤ) ∧
      l.toDouble? = withExponent l.negative l.exponent m shift := by
  obtain ⟨negative, whole, fraction, exponent⟩ := l
  simp only at hword
  unfold fractionDigits
  simp only
  cases fraction with
  | none =>
    refine ⟨Nat.ofDigitChars 10 whole 0, 0, hword, by simp, ?_⟩
    unfold toDouble?
    rw [collect_eq hword]
    rfl
  | some ds =>
    obtain ⟨h1, h2, h3⟩ := collect_spec ds hword
    refine ⟨(collect (Nat.ofDigitChars 10 whole 0) ds).1,
      0 - (ds.length - (collect (Nat.ofDigitChars 10 whole 0) ds).2.length : ℕ), h1, ?_, ?_⟩
    · rw [Option.getD_some, Nat.ofDigitChars_append]
      generalize Nat.ofDigitChars 10 whole 0 = w at *
      generalize collect w ds = p at *
      have hz : (0 : ℤ) - (ds.length - p.2.length : ℕ) = p.2.length + -(ds.length : ℤ) := by
        push_cast [Nat.cast_sub h2]
        ring
      rw [hz, zpow_add₀ (by norm_num), ← mul_assoc, zpow_natCast]
      refine mul_le_mul_of_nonneg_right ?_ (by positivity)
      exact_mod_cast h3
    · unfold toDouble?
      rw [collect_eq hword]
      rfl

/-- A significand is read when its product with the power of the exponent is of safe size. -/
theorem isSome_withExponent {l : NumberLiteral} {m : ℕ} {shift : ℤ} (hm : m ≤ wordMax)
    (he : ∀ ds, l.exponent = some (false, ds) → Nat.ofDigitChars 10 ds 0 ≤ exponentMax)
    (hs : (m : ℚ) * 10 ^ (shift + l.power) ≤ safeBound) :
    (withExponent l.negative l.exponent m shift).isSome = true := by
  unfold withExponent
  unfold power at hs
  rcases hexponent : l.exponent with _ | ⟨down, ds⟩
  · simp only [hexponent, add_zero] at hs
    exact isSome_double? l.negative hm hs
  · cases down with
    | true =>
      simp only [hexponent, if_true, ← sub_eq_add_neg] at hs
      simp only
      split
      · simp
      · exact isSome_double? l.negative hm hs
    | false =>
      simp only [hexponent, Bool.false_eq_true, if_false] at hs
      simp only
      rw [if_neg (by have := he ds hexponent; omega)]
      exact isSome_double? l.negative hm hs

/-- A literal of safe size with at most eighteen digits in front of its point is read. -/
theorem isSome_toDouble? {l : NumberLiteral} (hl : l.WellFormed) (hw : l.whole.length ≤ 18)
    (he : ∀ ds, l.exponent = some (false, ds) → Nat.ofDigitChars 10 ds 0 ≤ exponentMax)
    (hs : l.size ≤ safeBound) : l.toDouble?.isSome = true := by
  have hdigits : ∀ c ∈ l.whole, c.isDigit = true := by
    rcases hl.whole with h | ⟨-, h, -⟩
    · simp [h]
    · exact h
  have hword : Nat.ofDigitChars 10 l.whole 0 ≤ wordMax := by
    have h1 := ofDigitChars_lt hdigits 0
    have h2 : 10 ^ l.whole.length ≤ 10 ^ 18 := Nat.pow_le_pow_right (by decide) hw
    have h3 : 10 ^ 18 ≤ wordMax := by decide
    omega
  obtain ⟨m, shift, hm, hle, hread⟩ := exists_significand hword
  rw [hread]
  refine isSome_withExponent hm he (le_trans ?_ hs)
  have h10 : (10 : ℚ) ≠ 0 := by norm_num
  rw [size, sub_eq_neg_add, zpow_add₀ h10, zpow_add₀ h10, ← mul_assoc, ← mul_assoc]
  exact mul_le_mul_of_nonneg_right hle (by positivity)

end RecordStore.NumberLiteral
