import RecordStore.Database.Table

/-!
The order in which rows are found when a statement asks for none.  A search goes along an index
object whose first column the statement fixes; failing that along the primary key if the statement
bounds it, along an index object that holds all columns the statement uses and is clearly narrower
than the table, or through the rows as they are kept.
-/
namespace RecordStore.Database
open RecordStore.Sql

/-- Whether a condition leaves one value for a column. -/
def fixes (column : String) : Condition → Bool
  | .compare c .eq _ => sameName c column
  | _ => false

/-- Whether a condition leaves a range or a list of values for a column. -/
def bounds (column : String) : Condition → Bool
  | .compare c op _ => op != .ne && sameName c column
  | .within c _ => sameName c column
  | _ => false

/-- The estimated width of a column, in words of four octets. -/
def columnWidth : ColumnType → Nat
  | .boolean | .bigInt | .character => 1
  | .characters n => n / 4 + 1
  | .text => 5

/-- A size on a rough scale: eight steps for each doubling, found from the leading binary places. -/
def roughSize (n : Nat) : Nat :=
  let places := n.log2 - 3
  8 * places + n >>> places

namespace Table

/-- Whether the search for a statement can start at one place of an index object. -/
def leads (t : Table) (s : Select) (o : CreateIndex) : Bool :=
  match o.columns with
  | [] => false
  | k :: _ => (t.position? k.column).isSome && s.conditions.any (fixes k.column)

/-- Whether an index object holds all columns that a statement uses. -/
def covers (s : Select) (o : CreateIndex) : Bool :=
  (s.column :: s.conditions.map (·.column)).all fun c => o.columns.any fun k => sameName k.column c

/-- The estimated width of columns together with the number of a row; a name that is no column
counts one. -/
def width (t : Table) (columns : List String) : Nat :=
  let one (c : String) : Nat :=
    (((t.position? c).bind fun i => t.definition.columns[i]?).map fun spec =>
      columnWidth spec.type).getD 1
  columns.foldl (fun n c => n + one c) 1

/-- Whether an index object is narrower than the table by rough measure. -/
def narrower (t : Table) (o : CreateIndex) : Bool :=
  roughSize (4 * t.width (o.columns.map (·.column))) <
    roughSize (4 * t.width (t.definition.columns.map (·.name)))

/-- The columns of the table that an index object sorts by. -/
def sortedBy (t : Table) (o : CreateIndex) : List SortKey :=
  o.columns.filter fun k => (t.position? k.column).isSome

/-- The columns by which rows are found. -/
def path (t : Table) (objects : List CreateIndex) (s : Select) : List SortKey :=
  match objects.find? (t.leads s) with
  | some o => t.sortedBy o
  | none =>
    match t.primaryKey.filter fun c => s.conditions.any (bounds c) with
    | c :: _ => [⟨c, .ascending⟩]
    | [] => ((objects.find? fun o => covers s o && t.narrower o).map t.sortedBy).getD []

/-- The statement with the order in which its rows are found, if it asks for none. -/
def ordered (t : Table) (objects : List CreateIndex) (s : Select) : Select :=
  if s.order.isEmpty then { s with order := t.path objects s } else s

end Table

end RecordStore.Database
