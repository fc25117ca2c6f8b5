import RecordStore.Json.Basic
import RecordStore.Text.Decimal

/-!
Scalar values, as records and query terms hold them.  Floating-point numbers, arrays and objects are
no field values.
-/
namespace RecordStore

/-- A scalar.  An integer may stand in either form where both hold it. -/
inductive FieldValue
  | null
  | bool (b : Bool)
  | int (n : Int64)
  | uint (n : UInt64)
  | text (s : String)
deriving DecidableEq, Repr

namespace FieldValue

/-- The scalar that a JSON value is.  Integers take the signed form where it holds them. -/
def ofJson? : Json → Option FieldValue
  | .null => some .null
  | .bool b => some (.bool b)
  | .integer n =>
    if n.val < 0x8000000000000000 then some (.int (Int64.ofInt n.val))
    else some (.uint (UInt64.ofNat n.val.toNat))
  | .string s => some (.text s)
  | .real _ | .array _ | .object _ => none

/-- The text of a scalar, as messages show it. -/
def display : FieldValue → String
  | .null => "null"
  | .bool true => "true"
  | .bool false => "false"
  | .int n => Text.decimal n.toInt
  | .uint n => Text.decimal n.toNat
  | .text s => s

def isNull : FieldValue → Bool
  | .null => true
  | _ => false

end FieldValue

end RecordStore
