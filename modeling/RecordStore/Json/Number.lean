import RecordStore.Json.Basic
import RecordStore.Json.Document

/-!
The value of a number literal.  A literal without fraction and exponent that fits a word is an
integer, negative zero excepted.  Any other literal is a double: the digits are collected into a
word for as long as they fit, and that word is scaled by one power of ten.  The result can therefore
differ in its last bit from the double nearest to the literal.
-/
namespace RecordStore.NumberLiteral
open RecordStore.Number

/-- The largest word. -/
def wordMax : Nat := 0xffffffffffffffff

/-- Appends digits to a significand while it fits a word; the digits that no longer fit
come back. -/
def collect : Nat → List Char → Nat × List Char
  | n, [] => (n, [])
  | n, c :: cs =>
    let next := 10 * n + (c.toNat - 48)
    if next > wordMax then (n, c :: cs) else collect next cs

/-- The exponent bound past which digits of an exponent no longer count. -/
def exponentMax : Nat := 0x7fffffff

/-- A significand times a power of ten, in one rounding step of the significand and one of the
product or quotient.  Below the table of powers the quotient is taken in steps of `10 ^ 308`. -/
def scaled? : Nat → Magnitude → Int → Option Magnitude
  | 0, x, _ => some x
  | fuel + 1, x, e =>
    if e.natAbs ≤ 308 then
      match Magnitude.ofRatio? (tenPower e.natAbs) 1 with
      | none => none
      | some p => if 0 ≤ e then x.mul? p else x.div? p
    else if x.isZero then some x
    else if 0 ≤ e then none
    else
      match Magnitude.ofRatio? (tenPower 308) 1 with
      | none => none
      | some p => (x.div? p).bind fun y => scaled? fuel y (e + 308)

/-- The word `n` scaled by `10 ^ e`, or nothing past the largest finite value. -/
def double? (negative : Bool) (n : Nat) (e : Int) : Option Binary64 :=
  (Magnitude.ofRatio? n 1).bind fun x =>
    (scaled? 8 x e).map fun y => ⟨negative, y⟩

/-- The double that a literal names. -/
def toDouble? (l : NumberLiteral) : Option Binary64 :=
  let (n, unread) := collect 0 l.whole
  let shift : Int := unread.length
  let (n, shift) := match l.fraction with
    | none => (n, shift)
    | some ds =>
      let (m, dropped) := collect n ds
      (m, shift - (ds.length - dropped.length : Nat))
  match l.exponent with
  | none => double? l.negative n shift
  | some (down, ds) =>
    let e := Nat.ofDigitChars 10 ds 0
    if e > exponentMax then
      if n ≠ 0 ∧ ¬ down then none else some ⟨l.negative, Magnitude.zero⟩
    else double? l.negative n (if down then shift - e else shift + e)

/-- The value of a literal; nothing when it is too large for a double. -/
def toJson? (l : NumberLiteral) : Option Json :=
  let n := Nat.ofDigitChars 10 l.whole 0
  if l.fraction.isNone ∧ l.exponent.isNone ∧ ¬ (l.negative ∧ n = 0) then
    match WordInt.ofInt? (if l.negative then -(n : Int) else n) with
    | some i => some (.integer i)
    | none => l.toDouble?.map .real
  else l.toDouble?.map .real

end RecordStore.NumberLiteral
