import RecordStore.Number.Shortest
import RecordStore.Text.Decimal

/-!
Double-precision numbers of all kinds, with the texts that they are read from and shown as.  A text
is rounded to the nearest number once; one that is too large for a finite number is infinite.
-/
namespace RecordStore.Number

/-- An integer as a signed word, if one holds it. -/
def signedWord? (n : Int) : Option Int64 :=
  if -0x8000000000000000 ≤ n ∧ n < 0x8000000000000000 then some (Int64.ofInt n) else none

/-- The signed word that digits of some base name, with an optional sign in front. -/
def wordIn? (base : Nat) : List Char → Option Int64
  | '-' :: cs => (Text.naturalIn? base cs).bind fun n => signedWord? (-n)
  | '+' :: cs => (Text.naturalIn? base cs).bind fun n => signedWord? n
  | cs => (Text.naturalIn? base cs).bind fun n => signedWord? n

inductive Double
  | finite (x : Binary64)
  | infinite (negative : Bool)
  | notANumber
deriving DecidableEq, Repr

namespace Double

/-- The number nearest to `n * 10 ^ k`. -/
def ofDecimal (negative : Bool) (n : Nat) (k : Int) : Double :=
  match Magnitude.ofDecimal? n k with
  | some x => .finite ⟨negative, x⟩
  | none => .infinite negative

/-- The power of ten that a text ends with; nothing counts as zero. -/
def exponent? : List Char → Option Int
  | [] => some 0
  | c :: cs => if c = 'e' ∨ c = 'E' then Text.integer? cs else none

/-- The number of digits with a point in front of, among or behind them, and an exponent. -/
def ofDigits? (negative : Bool) (cs : List Char) : Option Double :=
  let whole := cs.takeWhile Char.isDigit
  let rest := cs.dropWhile Char.isDigit
  let (fraction, rest) := match rest with
    | '.' :: rest => (rest.takeWhile Char.isDigit, rest.dropWhile Char.isDigit)
    | rest => ([], rest)
  (Text.natural? (whole ++ fraction)).bind fun n =>
    (exponent? rest).map fun e => ofDecimal negative n (e - fraction.length)

/-- The number of a text without its sign.  The words for what is not finite are read in either
case. -/
def ofUnsigned? (negative : Bool) (cs : List Char) : Option Double :=
  match String.ofList (cs.map Char.toLower) with
  | "inf" | "infinity" => some (.infinite negative)
  | "nan" => some .notANumber
  | _ => ofDigits? negative cs

/-- The number of a text. -/
def ofText? (s : String) : Option Double :=
  match s.toList with
  | '-' :: cs => ofUnsigned? true cs
  | '+' :: cs => ofUnsigned? false cs
  | cs => ofUnsigned? false cs

/-- The text of a number: its fewest digits, and never a power of ten. -/
def text : Double → String
  | .notANumber => "NaN"
  | .infinite negative => if negative then "-inf" else "inf"
  | .finite x =>
    let digits := if x.magnitude.isZero then ['0'] else x.magnitude.shortest.positional
    String.ofList (if x.negative then '-' :: digits else digits)

/-- The nearest word: a half goes up, and what no word holds becomes zero or the largest word. -/
def nearestWord : Double → UInt64
  | .notANumber | .infinite true => 0
  | .infinite false => 0xffffffffffffffff
  | .finite x =>
    if x.negative then 0 else UInt64.ofNat (min x.magnitude.nearestNat 0xffffffffffffffff)

/-- A finite number as a ratio. -/
def ratio? : Double → Option (Int × Nat)
  | .finite x =>
    let (n, d) := x.magnitude.ratio
    some (if x.negative then -(n : Int) else n, d)
  | _ => none

/-- The integer that the number is, if it is one. -/
def integer? (x : Double) : Option Int :=
  x.ratio?.bind fun (n, d) => if n % d = 0 then some (n / d) else none

end Double

end RecordStore.Number
