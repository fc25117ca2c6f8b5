import RecordStore.Text.Quoted

/-!
The three dialects in which statements are written.
-/
namespace RecordStore.Sql

inductive Dialect
  | sqlite
  | postgres
  | mysql
deriving DecidableEq, Repr

namespace Dialect

/-- The mark around names. -/
def quoteMark : Dialect → Char
  | .mysql => '\x60'
  | _ => '"'

/-- The name of the dialect. -/
def name : Dialect → String
  | .sqlite => "sqlite"
  | .postgres => "postgres"
  | .mysql => "mysql"

/-- A name between quote marks, with nothing inside it changed. -/
def enclose (d : Dialect) (s : String) : String :=
  Text.enclosed d.quoteMark s

/-- A name between quote marks, with the marks inside it doubled. -/
def quote (d : Dialect) (s : String) : String :=
  Text.quoted d.quoteMark s

/-- The place holder of the value with this number, counted from one. -/
def placeholder : Dialect → Nat → String
  | .postgres, n => "$" ++ n.repr
  | _, _ => "?"

end Dialect

end RecordStore.Sql
