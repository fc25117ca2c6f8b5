import RecordStore.Schema.Basic
import RecordStore.Sql.Fragment

/-!
The statements that the store makes, as data, and the fragments each is written with.
-/
namespace RecordStore.Sql

inductive Comparison
  | eq
  | ne
  | gt
  | ge
  | lt
  | le
deriving DecidableEq, Repr

def Comparison.sign : Comparison → String
  | eq => "="
  | ne => "<>"
  | gt => ">"
  | ge => ">="
  | lt => "<"
  | le => "<="

/-- A condition on one column. -/
inductive Condition
  | compare (column : String) (op : Comparison) (v : Value)
  | within (column : String) (vs : List Value)
  | isNull (column : String)
  | isNotNull (column : String)
deriving DecidableEq, Repr

/-- A column that rows are sorted by. -/
structure SortKey where
  column : String
  direction : Direction
deriving DecidableEq, Repr

/-- One column of the rows that meet all conditions. -/
structure Select where
  column : String
  table : String
  conditions : List Condition
  order : List SortKey
  limit : Option UInt64
  offset : Option UInt64
deriving DecidableEq, Repr

/-- One new row. -/
structure Insert where
  table : String
  columns : List String
  values : List Value
deriving DecidableEq, Repr

/-- New values in the rows that meet a condition. -/
structure Update where
  table : String
  assignments : List (String × Value)
  condition : Condition
deriving DecidableEq, Repr

/-- The rows that meet a condition, removed. -/
structure Delete where
  table : String
  condition : Condition
deriving DecidableEq, Repr

structure ColumnSpec where
  name : String
  type : ColumnType
  notNull : Bool
  /-- The text that stands in for a missing value. -/
  default : Option String
  primaryKey : Bool
  unique : Bool
deriving DecidableEq, Repr

/-- A column of a type and nothing else. -/
def ColumnSpec.plain (name : String) (type : ColumnType) : ColumnSpec :=
  ⟨name, type, false, none, false, false⟩

/-- A column that must have a value. -/
def ColumnSpec.required (name : String) (type : ColumnType) : ColumnSpec :=
  ⟨name, type, true, none, false, false⟩

structure CreateTable where
  table : String
  columns : List ColumnSpec
  /-- A primary key of several columns. -/
  compositeKey : List String
deriving DecidableEq, Repr

/-- An index object.  Its own name is written as it is. -/
structure CreateIndex where
  index : String
  table : String
  unique : Bool
  columns : List SortKey
deriving DecidableEq, Repr

def directionWord : Direction → String
  | .ascending => " ASC"
  | .descending => " DESC"

namespace Condition

def fragments : Condition → List Fragment
  | compare c op v => [.name c, .verbatim (" " ++ op.sign ++ " "), .value v]
  | within c vs =>
    [.name c, .verbatim " IN ("] ++ separated ", " (vs.map fun v => [.value v]) ++ [.verbatim ")"]
  | isNull c => [.name c, .verbatim " IS NULL"]
  | isNotNull c => [.name c, .verbatim " IS NOT NULL"]

/-- The column that a condition looks at. -/
def column : Condition → String
  | compare c _ _ | within c _ | isNull c | isNotNull c => c

end Condition

def SortKey.fragments (k : SortKey) : List Fragment :=
  [.name k.column, .verbatim (directionWord k.direction)]

def optionalFragments (word : String) : Option UInt64 → List Fragment
  | none => []
  | some n => [.verbatim word, .value (.bigUnsigned (some n))]

namespace Select

def fragments (s : Select) : List Fragment :=
  [.verbatim "SELECT ", .name s.column, .verbatim " FROM ", .name s.table] ++
    (match s.conditions with
      | [] => []
      | cs => .verbatim " WHERE " :: separated " AND " (cs.map Condition.fragments)) ++
    (match s.order with
      | [] => []
      | ks => .verbatim " ORDER BY " :: separated ", " (ks.map SortKey.fragments)) ++
    optionalFragments " LIMIT " s.limit ++ optionalFragments " OFFSET " s.offset

end Select

namespace Insert

def fragments (s : Insert) : List Fragment :=
  [.verbatim "INSERT INTO ", .name s.table, .verbatim " ("] ++
    separated ", " (s.columns.map fun c => [.name c]) ++ [.verbatim ") VALUES ("] ++
    separated ", " (s.values.map fun v => [.value v]) ++ [.verbatim ")"]

end Insert

namespace Update

def fragments (s : Update) : List Fragment :=
  [.verbatim "UPDATE ", .name s.table, .verbatim " SET "] ++
    separated ", " (s.assignments.map fun (c, v) => [.name c, .verbatim " = ", .value v]) ++
    .verbatim " WHERE " :: s.condition.fragments

end Update

namespace Delete

def fragments (s : Delete) : List Fragment :=
  [.verbatim "DELETE FROM ", .name s.table, .verbatim " WHERE "] ++ s.condition.fragments

end Delete

/-- The word for a column type. -/
def ColumnType.word (d : Dialect) : ColumnType → String
  | boolean => if d = .sqlite then "boolean" else "bool"
  | character => "char(1)"
  | characters n => "varchar(" ++ n.repr ++ ")"
  | text => "text"
  | bigInt => "bigint"

def ColumnSpec.fragments (d : Dialect) (c : ColumnSpec) : List Fragment :=
  [.name c.name, .verbatim (" " ++ c.type.word d ++ (if c.notNull then " NOT NULL" else "") ++
    (match c.default with
      | some t => " DEFAULT '" ++ t ++ "'"
      | none => "") ++
    (if c.primaryKey then " PRIMARY KEY" else "") ++ (if c.unique then " UNIQUE" else ""))]

namespace CreateTable

/-- The definition of the table, from its name on. -/
def definition (d : Dialect) (s : CreateTable) : List Fragment :=
  .name s.table :: .verbatim " ( " ::
    separated ", " (s.columns.map (·.fragments d) ++
      (match s.compositeKey with
        | [] => []
        | ks => [.verbatim "PRIMARY KEY (" ::
            (separated ", " (ks.map fun k => [.name k]) ++ [.verbatim ")"])])) ++
    [.verbatim (if d = .mysql then
      " ) ENGINE=InnoDB DEFAULT CHARSET=utf8mb4 COLLATE=utf8mb4_bin" else " )")]

def fragments (d : Dialect) (s : CreateTable) : List Fragment :=
  .verbatim "CREATE TABLE IF NOT EXISTS " :: s.definition d

/-- The statement as a catalogue keeps it. -/
def catalogued (d : Dialect) (s : CreateTable) : List Fragment :=
  .verbatim "CREATE TABLE " :: s.definition d

end CreateTable

namespace CreateIndex

def fragments (s : CreateIndex) : List Fragment :=
  [.verbatim (if s.unique then "CREATE UNIQUE INDEX " else "CREATE INDEX "), .bareName s.index,
    .verbatim " ON ", .name s.table, .verbatim " ("] ++
    separated ", " (s.columns.map SortKey.fragments) ++ [.verbatim ")"]

end CreateIndex

/-- Removes a table if there is one. -/
def dropTable (table : String) : List Fragment :=
  [.verbatim "DROP TABLE IF EXISTS ", .name table]

/-- Removes an index object.  One dialect has no form for an object that may be missing. -/
def dropIndex (d : Dialect) (index table : String) : List Fragment :=
  match d with
  | .mysql => [.verbatim "DROP INDEX ", .bareName index, .verbatim " ON ", .bareName table]
  | _ => [.verbatim "DROP INDEX IF EXISTS ", .bareName index]

/-- Removes every row of a table. -/
def truncate (d : Dialect) (table : String) : List Fragment :=
  match d with
  | .sqlite => [.verbatim "DELETE FROM ", .bareName table]
  | _ => [.verbatim "TRUNCATE TABLE ", .bareName table]

end RecordStore.Sql
