import RecordStore.Database.Numeral
import RecordStore.Sql.Statement

/-!
What a table holds in one place: nothing, a number or a text.  The type of a column gives it an
affinity, by which numbers and texts are turned into each other before they are stored or compared.
Numbers are compared by value, whichever kind they are of.
-/
namespace RecordStore.Database

inductive Cell
  | null
  | integer (n : Int64)
  | real (x : Number.Double)
  | text (s : String)
deriving DecidableEq, Repr

inductive Affinity
  | numeric
  | text
deriving DecidableEq, Repr

/-- The affinity of a column type. -/
def affinityOf : Sql.ColumnType → Affinity
  | .boolean | .bigInt => .numeric
  | .character | .characters _ | .text => .text

/-- The cell of a bound value.  Truth values are the integers zero and one. -/
def Cell.ofValue : Sql.Value → Cell
  | .bool (some b) => .integer (if b then 1 else 0)
  | .bigInt (some n) => .integer n
  | .unsigned (some n) => .integer (Int64.ofInt n.toNat)
  | .bigUnsigned (some n) => .integer (Int64.ofInt n.toNat)
  | .text (some s) => .text s
  | _ => .null

/-- The cell as a column of an affinity holds it. -/
def Affinity.apply : Affinity → Cell → Cell
  | text, .integer n => .text (Text.decimal n.toInt)
  | numeric, .text s =>
    match Numeral.read? s with
    | some (.integer n) => .integer n
    | some (.real x) => .real x
    | none => .text s
  | _, c => c

namespace Cell

/-- Where a number stands among all numbers: below the finite ones, at a ratio, or above them. -/
def standing? : Cell → Option (Int × Int × Nat)
  | integer n => some (0, n.toInt, 1)
  | real (.infinite negative) => some (if negative then -1 else 1, 0, 1)
  | real x => x.ratio?.map fun (n, d) => (0, n, d)
  | _ => none

/-- Whether a number is less than another. -/
def less (a b : Cell) : Bool :=
  match a.standing?, b.standing? with
  | some (s, n, d), some (t, m, e) => s < t || (s == t && n * e < m * d)
  | _, _ => false

/-- The order of cells: nothing, then numbers by value, then texts by code point. -/
def before : Cell → Cell → Bool
  | null, null => false
  | null, _ => true
  | _, null => false
  | text s, text t => s < t
  | text _, _ => false
  | _, text _ => true
  | a, b => a.less b

/-- Whether two cells hold the same value. -/
def same (a b : Cell) : Bool := !a.before b && !b.before a

/-- Whether two cells stand in a relation.  Nothing stands in none. -/
def satisfies (op : Sql.Comparison) (a b : Cell) : Bool :=
  if a = null ∨ b = null then false
  else
    match op with
    | .eq => a.same b
    | .ne => !a.same b
    | .gt => b.before a
    | .ge => !a.before b
    | .lt => a.before b
    | .le => !b.before a

end Cell

end RecordStore.Database
