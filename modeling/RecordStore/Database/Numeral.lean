import RecordStore.Number.Double

/-!
Numbers that the database reads from texts: digits with a sign, a point and an exponent, blanks
around them left out.  A number that a signed word holds becomes an integer, however it is written,
and any other a real number.
-/
namespace RecordStore.Database

inductive Numeral
  | integer (n : Int64)
  | real (x : Number.Double)
deriving DecidableEq, Repr

namespace Numeral

def isBlank (c : Char) : Bool := c == ' ' || (9 ≤ c.toNat && c.toNat ≤ 13)

/-- The text without the blanks around it. -/
def trimmed (cs : List Char) : List Char :=
  ((cs.dropWhile isBlank).reverse.dropWhile isBlank).reverse

/-- A number from which on no further digit is read. -/
def significandBound : Nat := (0xffffffffffffffff - 9) / 10

/-- The number that digits add to another one, and how many of them it took. -/
def collect : Nat → List Char → Nat × Nat
  | n, [] => (n, 0)
  | n, c :: cs =>
    if n < significandBound then
      let (m, k) := collect (10 * n + (c.toNat - 48)) cs
      (m, k + 1)
    else (n, 0)

/-- The real number of its digits in front of and behind the point and its exponent. -/
def realOf (negative : Bool) (whole fraction : List Char) (exponent : Int) : Number.Double :=
  let (n, used) := collect 0 whole
  let (n, behind) := collect n fraction
  .ofDecimal negative n (exponent + (whole.length - used : Nat) - behind)

/-- A real number as the database keeps it: as an integer where a signed word holds it, except for
the least word. -/
def ofReal (x : Number.Double) : Numeral :=
  match x.integer?.bind Number.signedWord? with
  | some n => if n = Int64.minValue then .real x else .integer n
  | none => .real x

/-- The number of a text without sign, if it is one. -/
def ofUnsigned? (negative : Bool) (cs : List Char) : Option Numeral :=
  let whole := cs.takeWhile Char.isDigit
  let (fraction, rest) := match cs.dropWhile Char.isDigit with
    | '.' :: rest => (rest.takeWhile Char.isDigit, rest.dropWhile Char.isDigit)
    | rest => ([], rest)
  if whole ++ fraction = [] then none
  else
    (Number.Double.exponent? rest).map fun e =>
      ofReal (realOf negative whole fraction e)

/-- The number of a text, if it is one. -/
def read? (s : String) : Option Numeral :=
  let cs := trimmed s.toList
  match (Text.integer? cs).bind Number.signedWord? with
  | some n => some (.integer n)
  | none =>
    match cs with
    | '-' :: cs => ofUnsigned? true cs
    | '+' :: cs => ofUnsigned? false cs
    | cs => ofUnsigned? false cs

end Numeral

end RecordStore.Database
