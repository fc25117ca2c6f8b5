/-!
Finite double-precision numbers, as a sign, an integer significand and a power of two.  All rounding
is done on exact ratios of natural numbers, to nearest with ties to the even significand.
-/
namespace RecordStore.Number

/-- The power of ten with the exponent `k`. -/
def tenPower (k : Nat) : Nat := Nat.pow 10 k

/-- A non-negative finite value `significand * 2 ^ exponent`, with the exponent as small as 53 bits
and the least exponent `-1074` allow. -/
structure Magnitude where
  significand : Nat
  exponent : Int
deriving DecidableEq, Repr

/-- A finite double-precision number; the two zeros differ in sign. -/
structure Binary64 where
  negative : Bool
  magnitude : Magnitude
deriving DecidableEq, Repr

namespace Magnitude

def zero : Magnitude := ⟨0, -1074⟩

def isZero (x : Magnitude) : Bool := x.significand == 0

/-- Whether `2 ^ k` is at most `num / den`. -/
def powerAtMost (k : Int) (num den : Nat) : Bool :=
  if 0 ≤ k then den <<< k.toNat ≤ num else den ≤ num <<< (-k).toNat

/-- The magnitude nearest to `num / den`, a tie going to the even significand, or nothing when the
ratio rounds past the largest finite value. -/
def ofRatio? (num den : Nat) : Option Magnitude :=
  if num = 0 then some zero
  else
    -- the logarithms locate the leading bit up to one place
    let guess : Int := num.log2 - den.log2
    let top := if powerAtMost guess num den then guess else guess - 1
    let e := max (top - 52) (-1074)
    let (a, b) := if 0 ≤ e then (num, den <<< e.toNat) else (num <<< (-e).toNat, den)
    let q := a / b
    let r := a % b
    let m := if 2 * r < b || (2 * r == b && q % 2 == 0) then q else q + 1
    -- rounding up can carry into a further bit
    let (m, e) := if m = 0x20000000000000 then (0x10000000000000, e + 1) else (m, e)
    if e > 971 then none else some ⟨m, e⟩

/-- The value as a ratio of natural numbers. -/
def ratio (x : Magnitude) : Nat × Nat :=
  if 0 ≤ x.exponent then (x.significand <<< x.exponent.toNat, 1)
  else (x.significand, 1 <<< (-x.exponent).toNat)

def mul? (x y : Magnitude) : Option Magnitude :=
  ofRatio? (x.ratio.1 * y.ratio.1) (x.ratio.2 * y.ratio.2)

def div? (x y : Magnitude) : Option Magnitude :=
  ofRatio? (x.ratio.1 * y.ratio.2) (x.ratio.2 * y.ratio.1)

/-- The magnitude nearest to `n * 10 ^ k`.  Exponents so far out that the result is certain are
settled before any power is taken. -/
def ofDecimal? (n : Nat) (k : Int) : Option Magnitude :=
  if n = 0 then some zero
  else
    let size : Int := (Nat.toDigits 10 n).length + k
    if size > 400 then none
    else if size < -400 then some zero
    else if 0 ≤ k then ofRatio? (n * tenPower k.toNat) 1
    else ofRatio? n (tenPower (-k).toNat)

/-- The nearest integer, a half going away from zero. -/
def nearestNat (x : Magnitude) : Nat :=
  (2 * x.ratio.1 + x.ratio.2) / (2 * x.ratio.2)

end Magnitude

end RecordStore.Number
