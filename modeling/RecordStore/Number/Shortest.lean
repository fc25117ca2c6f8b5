import RecordStore.Number.Binary64

/-!
The fewest decimal digits that read back as a given double-precision number.  For one digit, two
digits and so on, the two neighbours of the value on that decimal grid are tried against the
interval of reals that round to the value; the first grid with a hit wins, and of two hits the
nearer one.
-/
namespace RecordStore.Number

/-- A positive decimal `digits * 10 ^ exponent` whose last digit is not zero. -/
structure Decimal where
  digits : List Char
  exponent : Int
deriving DecidableEq, Repr

namespace Magnitude

/-- The ends of the interval that rounds to the value, and the value itself, as numerators over the
common denominator that comes last. -/
def neighbourhood (x : Magnitude) : Nat × Nat × Nat × Nat :=
  let m := x.significand
  -- below a power of two the next value is half as far away
  let below := if m = 0x10000000000000 ∧ x.exponent > -1074 then 4 * m - 1 else 4 * m - 2
  let (scale, den) :=
    if 0 ≤ x.exponent then (1 <<< x.exponent.toNat, 4) else (1, 4 <<< (-x.exponent).toNat)
  (below * scale, (4 * m + 2) * scale, 4 * m * scale, den)

/-- Whether `d * 10 ^ k` rounds to the value. -/
def readsBack (x : Magnitude) (d : Nat) (k : Int) : Bool :=
  let (low, high, _, den) := x.neighbourhood
  let (a, b) := if 0 ≤ k then (d * tenPower k.toNat * den, 1) else (d * den, tenPower (-k).toNat)
  if x.significand % 2 = 0 then low * b ≤ a && a ≤ high * b else low * b < a && a < high * b

/-- The value divided by `10 ^ k`, as a quotient, a remainder and the divisor. -/
def onGrid (x : Magnitude) (k : Int) : Nat × Nat × Nat :=
  let (_, _, value, den) := x.neighbourhood
  let (a, b) :=
    if 0 ≤ k then (value, den * tenPower k.toNat) else (value * tenPower (-k).toNat, den)
  (a / b, a % b, b)

/-- The number of digits in front of the decimal point, zero or less below one tenth. -/
def pointPosition (x : Magnitude) : Int :=
  let (n, d) := x.ratio
  let guess : Int := (Nat.toDigits 10 n).length - (Nat.toDigits 10 d).length
  let atLeast (k : Int) : Bool :=
    if 0 ≤ k then d * tenPower k.toNat ≤ n else d ≤ n * tenPower (-k).toNat
  if atLeast guess then guess + 1 else guess

/-- The neighbour with `count` digits that reads back, if there is one. -/
def shortestWith (x : Magnitude) (count : Nat) : Option (Nat × Int) :=
  let k := x.pointPosition - count
  let (q, r, b) := x.onGrid k
  let lower := x.readsBack q k && q != 0
  let upper := x.readsBack (q + 1) k
  if lower && upper then
    if 2 * r < b || (2 * r == b && q % 2 == 0) then some (q, k) else some (q + 1, k)
  else if lower then some (q, k)
  else if upper then some (q + 1, k)
  else none

/-- The shortest decimal of a positive value.  Seventeen digits always suffice. -/
def shortest (x : Magnitude) : Decimal :=
  let (d, k) := ((List.range 17).findSome? fun i => x.shortestWith (i + 1)).getD (0, 0)
  let digits := Nat.toDigits 10 d
  -- zeros at the end are no digits that are needed
  let kept := (digits.reverse.dropWhile (· == '0')).reverse
  ⟨kept, k + (digits.length - kept.length : Nat)⟩

end Magnitude

namespace Decimal

/-- The digits with the decimal point set among them or zeros filled in; no point is written after a
whole number. -/
def positional (d : Decimal) : List Char :=
  let point : Int := d.digits.length + d.exponent
  if 0 ≤ d.exponent then d.digits ++ List.replicate d.exponent.toNat '0'
  else if 0 < point then
    d.digits.take point.toNat ++ '.' :: d.digits.drop point.toNat
  else '0' :: '.' :: List.replicate (-point).toNat '0' ++ d.digits

/-- One digit in front of the point, then the power of ten after an `e`, always with its sign. -/
def scientific (d : Decimal) : List Char :=
  let power : Int := d.digits.length + d.exponent - 1
  let tail := 'e' :: (if power < 0 then '-' else '+') :: power.natAbs.repr.toList
  match d.digits with
  | [] => []
  | [c] => c :: tail
  | c :: cs => c :: '.' :: cs ++ tail

end Decimal

end RecordStore.Number
