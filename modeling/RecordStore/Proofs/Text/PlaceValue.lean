import Mathlib
import RecordStore.Proofs.Json.Real
import RecordStore.Proofs.Text.Decimal

/-!
Runs of decimal digits by the places of their digits.  A run names the number that its digits add up to,
each counted by its place, and among the runs that name one number the shortest is the one that is
written.
-/
namespace RecordStore.Text

/-- A run of decimal digits, of which there is at least one. -/
structure IsDecimal (digits : List Char) : Prop where
  ne_nil : digits ≠ []
  digit : ∀ c ∈ digits, '0' ≤ c ∧ c ≤ '9'

/-- The sum of the digits, each of which counts ten times as much as the one behind it. -/
def placeValue (digits : List Char) : Nat :=
  Nat.ofDigits 10 (digits.reverse.map fun c => c.toNat - '0'.toNat)

/-- A run with a zero in front of other digits. -/
def HasSpareZero (digits : List Char) : Prop :=
  digits.head? = some '0' ∧ digits ≠ ['0']

theorem isDigit_iff {c : Char} : c.isDigit = true ↔ '0' ≤ c ∧ c ≤ '9' := by
  rw [Char.isDigit, Bool.and_eq_true, decide_eq_true_eq, decide_eq_true_eq]
  rfl

theorem placeValue_nil : placeValue [] = 0 := rfl

theorem placeValue_append_singleton (digits : List Char) (c : Char) :
    placeValue (digits ++ [c]) = 10 * placeValue digits + (c.toNat - '0'.toNat) := by
  rw [placeValue, List.reverse_append, List.reverse_singleton, List.singleton_append, List.map_cons,
    Nat.ofDigits_cons, Nat.add_comm]
  rfl

/-- Adding up by places gives what reading from the left gives. -/
theorem ofDigitChars_eq_placeValue (digits : List Char) :
    Nat.ofDigitChars 10 digits 0 = placeValue digits := by
  induction digits using List.reverseRecOn with
  | nil => rfl
  | append_singleton digits c ih =>
    rw [Nat.ofDigitChars_append, ih, placeValue_append_singleton]
    rfl

theorem natural?_eq_some_iff {digits : List Char} {n : Nat} :
    natural? digits = some n ↔ IsDecimal digits ∧ n = placeValue digits := by
  unfold natural?
  rw [ofDigitChars_eq_placeValue]
  constructor
  · intro h
    split at h
    · next hdigits =>
      have hall := List.all_eq_true.1 hdigits.2
      exact ⟨⟨hdigits.1, fun c hc => isDigit_iff.1 (hall c hc)⟩, (Option.some.inj h).symm⟩
    · cases h
  · rintro ⟨⟨hne, hdigit⟩, rfl⟩
    exact if_pos ⟨hne, List.all_eq_true.2 fun c hc => isDigit_iff.2 (hdigit c hc)⟩

theorem toNat_sub_lt {c : Char} (h : '0' ≤ c ∧ c ≤ '9') : c.toNat - '0'.toNat < 10 := by
  have hle : c.toNat ≤ 57 := h.2
  have hzero : '0'.toNat = 48 := rfl
  omega

theorem digitChar_toNat_sub {c : Char} (h : '0' ≤ c ∧ c ≤ '9') :
    Nat.digitChar (c.toNat - '0'.toNat) = c := by
  have hge : 48 ≤ c.toNat := h.1
  have hzero : '0'.toNat = 48 := rfl
  apply Char.toNat_inj.1
  rw [Nat.toNat_digitChar_of_lt_ten (toNat_sub_lt h)]
  omega

/-- Digits without a zero in front are the ones that are written for their number. -/
theorem toDigits_placeValue {digits : List Char} (h : IsDecimal digits)
    (hhead : digits.head? ≠ some '0') : Nat.toDigits 10 (placeValue digits) = digits := by
  induction digits using List.reverseRecOn with
  | nil => exact absurd rfl h.ne_nil
  | append_singleton front c ih =>
    have hc : '0' ≤ c ∧ c ≤ '9' := h.digit c (by simp)
    have hlast : Nat.toDigits 10 (c.toNat - '0'.toNat) = [c] := by
      rw [Nat.toDigits_of_lt_base (toNat_sub_lt hc), digitChar_toNat_sub hc]
    rw [placeValue_append_singleton]
    by_cases hfront : front = []
    · subst hfront
      rw [placeValue_nil, Nat.mul_zero, Nat.zero_add]
      exact hlast
    · have hfrontHead : front.head? ≠ some '0' := by
        rwa [List.head?_append_of_ne_nil _ hfront] at hhead
      have hwritten := ih ⟨hfront, fun d hd => h.digit d (List.mem_append_left _ hd)⟩ hfrontHead
      -- the digits in front name no zero, which is written with a zero
      have hpos : 0 < placeValue front := by
        apply Nat.pos_of_ne_zero
        intro hzero
        rw [hzero] at hwritten
        exact hfrontHead (by rw [← hwritten]; rfl)
      rw [← Nat.toDigits_append_toDigits (by decide) hpos (toNat_sub_lt hc), hwritten, hlast]

/-- What is written for the number of some digits is those digits, unless there is a zero to spare. -/
theorem toDigits_placeValue_eq_iff {digits : List Char} (h : IsDecimal digits) :
    Nat.toDigits 10 (placeValue digits) = digits ↔ ¬ HasSpareZero digits := by
  constructor
  · rintro hwritten ⟨hhead, hne⟩
    rcases Nat.eq_zero_or_pos (placeValue digits) with hzero | hpos
    · rw [hzero] at hwritten
      exact hne hwritten.symm
    · rw [← hwritten] at hhead
      exact Number.head_toDigits_ne_zero hpos hhead
  · intro hspare
    by_cases hhead : digits.head? = some '0'
    · have hzero : digits = ['0'] := by
        by_contra hne
        exact hspare ⟨hhead, hne⟩
      rw [hzero]
      rfl
    · exact toDigits_placeValue h hhead

end RecordStore.Text
