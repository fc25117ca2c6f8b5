import Mathlib
import RecordStore.Text.Blank
import RecordStore.Text.Decimal

/-!
Decimal texts of integers.  They consist of digits behind at most one sign, so there is nothing to trim,
and each is read back as the number that it was written for.
-/
namespace RecordStore.Text

/-! ### Digits -/

theorem isDigit_of_natural? {cs : List Char} {n : Nat} (h : natural? cs = some n) :
    ∀ c ∈ cs, c.isDigit = true := by
  unfold natural? at h
  split at h
  · next hcs => exact List.all_eq_true.1 hcs.2
  · cases h

theorem natural?_cons_of_not_isDigit {c : Char} (hc : c.isDigit = false) (cs : List Char) :
    natural? (c :: cs) = none := by
  cases h : natural? (c :: cs) with
  | none => rfl
  | some n =>
    have hdigit := isDigit_of_natural? h c List.mem_cons_self
    rw [hc] at hdigit
    cases hdigit

/-- Digits without a sign are read as an integer too. -/
theorem integer?_of_natural? {cs : List Char} {n : Nat} (h : natural? cs = some n) :
    integer? cs = some n := by
  unfold integer?
  split
  · exact absurd (isDigit_of_natural? h '-' List.mem_cons_self) (by decide)
  · exact absurd (isDigit_of_natural? h '+' List.mem_cons_self) (by decide)
  · rw [h]
    rfl

theorem unsigned?_of_natural? {cs : List Char} {n : Nat} (h : natural? cs = some n) :
    unsigned? cs = some n := by
  unfold unsigned?
  split
  · exact absurd (isDigit_of_natural? h '+' List.mem_cons_self) (by decide)
  · exact h

theorem isBlank_of_isDigit {c : Char} (h : c.isDigit = true) : isBlank c = false := by
  simp only [Char.isDigit, Bool.and_eq_true, decide_eq_true_eq] at h
  have hleast : 48 ≤ c.toNat := h.1
  have hgreatest : c.toNat ≤ 57 := h.2
  simp only [isBlank, Bool.or_eq_false_iff, Bool.and_eq_false_iff, decide_eq_false_iff_not,
    beq_eq_false_iff_ne]
  omega

/-! ### Written integers -/

theorem toList_decimal_negSucc (n : Nat) :
    (decimal (Int.negSucc n)).toList = '-' :: (n + 1).repr.toList := by
  rw [decimal, String.toList_append]
  rfl

theorem mem_decimal {n : Int} {c : Char} (h : c ∈ (decimal n).toList) :
    c = '-' ∨ c.isDigit = true := by
  cases n with
  | ofNat n => exact .inr (isDigit_of_natural? (natural?_repr n) c h)
  | negSucc n =>
    rw [toList_decimal_negSucc] at h
    rcases List.mem_cons.1 h with rfl | h
    · exact .inl rfl
    · exact .inr (isDigit_of_natural? (natural?_repr (n + 1)) c h)

theorem integer?_decimal (n : Int) : integer? (decimal n).toList = some n := by
  cases n with
  | ofNat n => exact integer?_of_natural? (natural?_repr n)
  | negSucc n =>
    rw [toList_decimal_negSucc, integer?, natural?_repr]
    rfl

theorem unsigned?_decimal_natCast (n : Nat) : unsigned? (decimal n).toList = some n :=
  unsigned?_of_natural? (natural?_repr n)

/-- A minus is no sign that is read over. -/
theorem unsigned?_decimal_negSucc (n : Nat) : unsigned? (decimal (Int.negSucc n)).toList = none := by
  rw [toList_decimal_negSucc]
  exact natural?_cons_of_not_isDigit rfl _

theorem trimBlanks_eq_self {cs : List Char} (h : ∀ c ∈ cs, isBlank c = false) :
    trimBlanks cs = cs := by
  have hdrop {ds : List Char} (hds : ∀ c ∈ ds, isBlank c = false) : ds.dropWhile isBlank = ds := by
    cases ds with
    | nil => rfl
    | cons d ds => exact List.dropWhile_cons_of_neg (by simp [hds d List.mem_cons_self])
  have hreverse : ∀ c ∈ cs.reverse, isBlank c = false := by
    intro c hc
    exact h c (List.mem_reverse.1 hc)
  rw [trimBlanks, hdrop h, hdrop hreverse, List.reverse_reverse]

theorem trimBlanks_decimal (n : Int) : trimBlanks (decimal n).toList = (decimal n).toList := by
  apply trimBlanks_eq_self
  intro c hc
  rcases mem_decimal hc with rfl | hdigit
  · rfl
  · exact isBlank_of_isDigit hdigit

end RecordStore.Text
