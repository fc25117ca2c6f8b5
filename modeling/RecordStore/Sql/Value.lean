/-!
Values bound to statements and the column types they go into.
-/
namespace RecordStore.Sql

/-- A bound value.  A null carries the type of the values it stands for. -/
inductive Value
  | bool (b : Option Bool)
  | bigInt (n : Option Int64)
  | unsigned (n : Option UInt32)
  | bigUnsigned (n : Option UInt64)
  | text (s : Option String)
deriving DecidableEq, Repr

inductive ColumnType
  | boolean
  | character
  | characters (width : Nat)
  | text
  | bigInt
deriving DecidableEq, Repr

namespace Value

def ofInt (n : Int64) : Value := bigInt (some n)

def ofText (s : String) : Value := text (some s)

def isNull : Value → Bool
  | bool none | bigInt none | unsigned none | bigUnsigned none | text none => true
  | _ => false

end Value

end RecordStore.Sql
