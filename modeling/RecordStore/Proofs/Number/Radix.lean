import Mathlib
import RecordStore.Number.Radix

/-!
Numerals of a fixed width name numbers one to one.  `ofDigits_digits` and `digits_ofDigits` say that
writing and reading are inverse to each other on the numbers below `base ^ width`.
-/
namespace RecordStore.Number

theorem ofDigits_digits {base width n : Nat} (h : n < base ^ width) :
    ofDigits base (digits base width n) = n := by
  induction width generalizing n with
  | zero => simp at h; simp [h, digits, ofDigits]
  | succ width ih =>
    have hq : n / base < base ^ width := by
      rw [Nat.pow_succ] at h
      exact Nat.div_lt_of_lt_mul (by rwa [Nat.mul_comm] at h)
    rw [digits, ofDigits_append_singleton, ih hq, Nat.mul_comm]
    exact Nat.div_add_mod n base

private theorem foldl_eq (base n : Nat) (ds : List Nat) :
    ds.foldl (fun n d => n * base + d) n = n * base ^ ds.length + ofDigits base ds := by
  induction ds generalizing n with
  | nil => simp [ofDigits]
  | cons d ds ih =>
    have hd : ofDigits base (d :: ds) = d * base ^ ds.length + ofDigits base ds := by
      simp only [ofDigits, List.foldl_cons, Nat.zero_mul, Nat.zero_add]
      exact ih d
    rw [List.foldl_cons, ih, hd, List.length_cons, Nat.pow_succ, Nat.add_mul, Nat.mul_assoc,
      Nat.mul_comm base, Nat.add_assoc]

theorem ofDigits_cons (base d : Nat) (ds : List Nat) :
    ofDigits base (d :: ds) = d * base ^ ds.length + ofDigits base ds := by
  simpa [ofDigits] using foldl_eq base d ds

theorem ofDigits_lt {base : Nat} {ds : List Nat} (h : ∀ d ∈ ds, d < base) :
    ofDigits base ds < base ^ ds.length := by
  induction ds with
  | nil => simp [ofDigits]
  | cons d ds ih =>
    have hd : d + 1 ≤ base := h d (by simp)
    have hr : ofDigits base ds < base ^ ds.length := ih fun e he => h e (by simp [he])
    rw [ofDigits_cons, List.length_cons]
    -- one more of the leading digit covers all that the rest can add
    calc d * base ^ ds.length + ofDigits base ds
        < d * base ^ ds.length + base ^ ds.length := Nat.add_lt_add_left hr _
      _ = (d + 1) * base ^ ds.length := (Nat.succ_mul _ _).symm
      _ ≤ base * base ^ ds.length := Nat.mul_le_mul_right _ hd
      _ = base ^ (ds.length + 1) := by rw [Nat.pow_succ, Nat.mul_comm]

private theorem digits_succ_left (base width n : Nat) :
    digits base (width + 1) n = n / base ^ width % base :: digits base width n := by
  induction width generalizing n with
  | zero => simp [digits]
  | succ width ih =>
    rw [digits, ih, digits, Nat.div_div_eq_div_mul, Nat.pow_succ, Nat.mul_comm base,
      List.cons_append]

theorem digits_ofDigits {base : Nat} {ds : List Nat} (h : ∀ d ∈ ds, d < base) :
    digits base ds.length (ofDigits base ds) = ds := by
  suffices H : ∀ n, digits base ds.length (n * base ^ ds.length + ofDigits base ds) = ds by
    simpa using H 0
  induction ds with
  | nil => simp [digits]
  | cons d ds ih =>
    intro n
    have hd : d < base := h d (by simp)
    have hds : ∀ e ∈ ds, e < base := fun e he => h e (by simp [he])
    have hlt := ofDigits_lt hds
    have he : n * base ^ (ds.length + 1) + ofDigits base (d :: ds) =
        (n * base + d) * base ^ ds.length + ofDigits base ds := by
      rw [ofDigits_cons, Nat.pow_succ, Nat.add_mul, Nat.mul_assoc, Nat.mul_comm base,
        Nat.add_assoc]
    rw [List.length_cons, he, digits_succ_left, ih hds, Nat.mul_comm _ (base ^ ds.length),
      Nat.mul_add_div (Nat.lt_of_le_of_lt (Nat.zero_le _) hlt), Nat.div_eq_of_lt hlt,
      Nat.add_zero, Nat.mul_comm n, Nat.mul_add_mod, Nat.mod_eq_of_lt hd]

end RecordStore.Number
