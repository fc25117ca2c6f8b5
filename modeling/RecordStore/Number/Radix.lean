/-!
Numerals of a fixed width, most significant digit first.  A numeral always has as many digits as the
width says, with zeros in front where the number is small.
-/
namespace RecordStore.Number

/-- The last `width` digits of `n`, most significant first. -/
def digits (base : Nat) : Nat → Nat → List Nat
  | 0, _ => []
  | width + 1, n => digits base width (n / base) ++ [n % base]

/-- The number that a list of digits names. -/
def ofDigits (base : Nat) (ds : List Nat) : Nat :=
  ds.foldl (fun n d => n * base + d) 0

theorem length_digits (base width n : Nat) : (digits base width n).length = width := by
  induction width generalizing n with
  | zero => rfl
  | succ width ih => simp [digits, ih]

theorem lt_of_mem_digits {base width n d : Nat} (hb : 0 < base) (h : d ∈ digits base width n) :
    d < base := by
  induction width generalizing n with
  | zero => simp [digits] at h
  | succ width ih =>
    simp only [digits, List.mem_append, List.mem_singleton] at h
    rcases h with h | rfl
    · exact ih h
    · exact Nat.mod_lt _ hb

theorem ofDigits_append_singleton (base : Nat) (ds : List Nat) (d : Nat) :
    ofDigits base (ds ++ [d]) = ofDigits base ds * base + d := by
  simp [ofDigits]

end RecordStore.Number
