/-!
Decimal numbers as texts.  A natural number is a non-empty run of the digits `0` to `9`; leading
zeros are read and never written.  `natural?_repr` says that reading undoes writing.  Numbers in
other bases are read only, with letters of either case for the digits above nine.
-/
namespace RecordStore.Text

/-- The number that a non-empty run of decimal digits names. -/
def natural? (cs : List Char) : Option Nat :=
  if cs ≠ [] ∧ cs.all Char.isDigit then some (Nat.ofDigitChars 10 cs 0) else none

/-- The number with an optional sign in front of its digits. -/
def integer? : List Char → Option Int
  | '-' :: cs => (natural? cs).map fun n => -(n : Int)
  | '+' :: cs => (natural? cs).map Int.ofNat
  | cs => (natural? cs).map Int.ofNat

/-- Digits with an optional plus in front, and no other sign. -/
def unsigned? : List Char → Option Nat
  | '+' :: cs => natural? cs
  | cs => natural? cs

/-- The number that a non-empty run of digits of some base names. -/
def naturalIn? (base : Nat) (cs : List Char) : Option Nat :=
  let digit (c : Char) : Nat :=
    if c.isDigit then c.toNat - 48
    else if 'a' ≤ c.toLower ∧ c.toLower ≤ 'z' then c.toLower.toNat - 87
    else base
  if cs ≠ [] ∧ cs.all fun c => digit c < base then
    some (cs.foldl (fun n c => base * n + digit c) 0)
  else none

/-- The decimal text, with a minus in front of a negative number. -/
def decimal (n : Int) : String :=
  match n with
  | .ofNat n => n.repr
  | .negSucc n => "-" ++ (n + 1).repr

/-- The decimal text filled up with zeros on the left. -/
def paddedDecimal (width n : Nat) : String :=
  let digits := Nat.toDigits 10 n
  String.ofList (List.replicate (width - digits.length) '0' ++ digits)

theorem natural?_repr (n : Nat) : natural? n.repr.toList = some n := by
  have hd : (Nat.toDigits 10 n).all Char.isDigit = true := by
    simp only [List.all_eq_true]
    exact fun c hc => Nat.isDigit_of_mem_toDigits (by decide) (by decide) hc
  have hn : Nat.toDigits 10 n ≠ [] := by
    intro h
    have := Nat.length_toDigits_pos (b := 10) (n := n)
    simp [h] at this
  simp [natural?, Nat.repr, hd, hn, Nat.ofDigitChars_toDigits]

end RecordStore.Text
