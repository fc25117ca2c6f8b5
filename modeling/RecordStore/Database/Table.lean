import RecordStore.Database.Cell
import RecordStore.Error

/-!
Tables with the statements that read and change their rows.  Every row has a number, and rows are
kept by their numbers.  Column names are compared without regard to the case of the letters `A` to
`Z`.  One name stands for the number of a row unless it is a column; any other quoted name in a
condition or an order that is no column stands for the text of the name.
-/
namespace RecordStore.Database
open RecordStore.Sql

/-- A row with its number, by which rows are told apart. -/
structure Row where
  number : Int64
  cells : List Cell
deriving DecidableEq, Repr

structure Table where
  definition : CreateTable
  rows : List Row
deriving Repr

/-- Whether two names mean the same table, column or index object. -/
def sameName (a b : String) : Bool :=
  Text.foldAscii a == Text.foldAscii b

/-- Whether a statement can be read past a name. -/
def readable (name : String) : Bool :=
  !name.toList.contains '\x00'

/-- Nothing, if a statement with these names in order can be read. -/
def readNames (names : List String) : Except DatabaseFault Unit :=
  match names.find? (!readable ·) with
  | some n => .error (.cutName n)
  | none => .ok ()

/-- The name that is read from one written between quote marks as it is. -/
def readBare? (name : String) : Option String :=
  if readable name then (Text.unquoteBody '"' name.toList).map String.ofList else none

/-- The name for the number of a row. -/
def rowNumberName : String := "_rowid_"

/-- A column where there is one, and otherwise the number of the row or a constant text. -/
inductive Source
  | column (position : Nat) (affinity : Affinity)
  | rowNumber
  | constant (s : String)
deriving DecidableEq, Repr

def Source.cell (r : Row) : Source → Cell
  | column i _ => r.cells.getD i .null
  | rowNumber => .integer r.number
  | constant s => .text s

/-- The cell of a bound value as it is compared with a source. -/
def Source.operand : Source → Value → Cell
  | column _ a, v => a.apply (Cell.ofValue v)
  | rowNumber, v => Affinity.numeric.apply (Cell.ofValue v)
  | constant _, v => Cell.ofValue v

namespace Table

def position? (t : Table) (column : String) : Option Nat :=
  t.definition.columns.findIdx? fun c => sameName c.name column

/-- What a name in an index object stands for. -/
def indexed (t : Table) (column : String) : Source :=
  match t.position? column with
  | some i =>
    .column i (affinityOf ((t.definition.columns.map (·.type)).getD i .text))
  | none => .constant column

/-- Whether a name stands for the number of a row. -/
def namesNumber (t : Table) (column : String) : Bool :=
  sameName column rowNumberName && (t.position? column).isNone

/-- What a name in a condition or an order stands for. -/
def source (t : Table) (column : String) : Source :=
  if t.namesNumber column then .rowNumber else t.indexed column

/-- Whether a row meets a condition. -/
def meets (t : Table) (r : Row) (c : Condition) : Bool :=
  let src := t.source c.column
  match c with
  | .compare _ op v => (src.cell r).satisfies op (src.operand v)
  | .within _ vs => vs.any fun v => (src.cell r).satisfies .eq (src.operand v)
  | .isNull _ => src.cell r == .null
  | .isNotNull _ => src.cell r != .null

/-- Whether a row does not come after another by the given columns. -/
def notAfter (t : Table) : List SortKey → Row → Row → Bool
  | [], _, _ => true
  | k :: ks, a, b =>
    let x := (t.source k.column).cell a
    let y := (t.source k.column).cell b
    let (x, y) := if k.direction = .ascending then (x, y) else (y, x)
    if x.before y then true else if y.before x then false else t.notAfter ks a b

/-- The rows that a statement picks, in its order and within its limits. -/
def pick (t : Table) (s : Select) : List Row :=
  let found := t.rows.filter fun r => s.conditions.all (t.meets r)
  let sorted := if s.order.isEmpty then found else found.mergeSort (t.notAfter s.order)
  let rest := match s.offset with
    | some n => sorted.drop n.toNat
    | none => sorted
  match s.limit with
  | some n => rest.take n.toNat
  | none => rest

/-- The cells of a statement's column in the rows that it picks. -/
def select (t : Table) (s : Select) : List Cell :=
  (t.pick s).map (t.source s.column).cell

/-- The cells that have to differ between rows; nothing when one of them is null. -/
def uniqueKey? (sources : List Source) (r : Row) : Option (List Cell) :=
  let cells := sources.map (·.cell r)
  if cells.contains .null then none else some cells

/-- The keys that some columns give to rows. -/
def keys (t : Table) (columns : List String) (rows : List Row) : List (List Cell) :=
  rows.filterMap (uniqueKey? (columns.map t.indexed))

/-- Whether two keys hold the same values. -/
def sameKey : List Cell → List Cell → Bool
  | [], [] => true
  | a :: as, b :: bs => a.same b && sameKey as bs
  | _, _ => false

/-- Whether no two keys of a list are the same. -/
def distinctKeys : List (List Cell) → Bool
  | [] => true
  | k :: ks => !ks.any (sameKey k) && distinctKeys ks

/-- Whether no two rows share a key of some columns. -/
def distinctBy (t : Table) (columns : List String) (rows : List Row) : Bool :=
  distinctKeys (t.keys columns rows)

/-- Whether a row has the key of some columns that one of the rows has. -/
def taken (t : Table) (columns : List String) (rows : List Row) (r : Row) : Bool :=
  match uniqueKey? (columns.map t.indexed) r with
  | some k => (t.keys columns rows).any (sameKey k)
  | none => false

/-- The columns of the primary key of an index table. -/
def primaryKey (t : Table) : List String :=
  (t.definition.columns.filter (·.primaryKey)).map (·.name)

/-- The number after the largest in use.  After the largest of all one is taken that is not in
use. -/
def nextNumber (t : Table) : Int64 :=
  match t.rows.getLast? with
  | none => 1
  | some r =>
    if r.number < Int64.maxValue then r.number + 1
    else
      let candidates := (List.range (t.rows.length + 1)).map fun i => Int64.maxValue - .ofNat i
      (candidates.find? fun n => t.rows.all (·.number != n)).getD 1

/-- The number that is asked for by one of the values given for columns; the last one counts, and a
null asks for none. -/
def askedNumber (t : Table) (given : List (String × Value)) :
    Except DatabaseFault (Option Int64) :=
  match (given.filter fun cv => t.namesNumber cv.1).getLast? with
  | none => .ok none
  | some (_, v) =>
    match Affinity.numeric.apply (Cell.ofValue v) with
    | .null => .ok none
    | .integer n => .ok (some n)
    | _ => .error .notRowNumber

/-- The cells of a new row: the given values, and defaults where none is given.  Of several values
for one column the first counts. -/
def newCells (t : Table) (given : List (String × Value)) : List Cell :=
  t.definition.columns.map fun spec =>
    let cell := match given.find? fun cv => sameName cv.1 spec.name, spec.default with
      | some (_, v), _ => Cell.ofValue v
      | none, some s => .text s
      | none, none => .null
    (affinityOf spec.type).apply cell

/-- The first column that has to have a value and has none. -/
def missingValue? (t : Table) (cells : List Cell) : Option String :=
  ((t.definition.columns.zip cells).find? fun (spec, cell) => spec.notNull && cell == .null).map
    (·.1.name)

/-- The rows with one more among them. -/
def place (r : Row) : List Row → List Row
  | [] => [r]
  | s :: rows => if r.number < s.number then r :: s :: rows else s :: place r rows

/-- The table with a row added, unless another row has its number or one of its keys. -/
def addRow (t : Table) (uniques : List (List String)) (r : Row) : Except DatabaseFault Table :=
  match t.missingValue? r.cells with
  | some c => .error (.missingValue t.definition.table c)
  | none =>
    if t.rows.any (·.number == r.number) ||
        (t.primaryKey :: uniques).any fun cs => t.taken cs t.rows r then
      .error .uniqueViolation
    else .ok { t with rows := place r t.rows }

/-- The first of some columns that the table does not have. -/
def missing? (t : Table) (columns : List String) : Option String :=
  columns.find? fun c => (t.position? c).isNone && !t.namesNumber c

def insert (t : Table) (uniques : List (List String)) (s : Insert) : Except DatabaseFault Table :=
  match t.missing? s.columns with
  | some c => .error (.missingInsertColumn s.table c)
  | none => do
    let given := s.columns.zip s.values
    let number := (← t.askedNumber given).getD t.nextNumber
    t.addRow uniques ⟨number, t.newCells given⟩

/-- The cells of a row with new ones in some columns.  Of several values for one column the last
counts. -/
def assign (t : Table) (assignments : List (String × Value)) (cells : List Cell) : List Cell :=
  assignments.foldl
    (fun cells cv =>
      match t.indexed cv.1 with
      | .column i a => cells.set i (a.apply (Cell.ofValue cv.2))
      | _ => cells) cells

/-- A row with new cells and perhaps a new number. -/
def change (t : Table) (assignments : List (String × Value)) (r : Row) :
    Except DatabaseFault Row := do
  let number ←
    if assignments.any fun cv => t.namesNumber cv.1 then
      match ← t.askedNumber assignments with
      | some n => pure n
      | none => throw .notRowNumber
    else pure r.number
  let cells := t.assign assignments r.cells
  match t.missingValue? cells with
  | some c => throw (.missingValue t.definition.table c)
  | none => return ⟨number, cells⟩

def update (t : Table) (uniques : List (List String)) (s : Update) : Except DatabaseFault Table :=
  if s.assignments.isEmpty then .error .unreadableStatement
  else
    match t.missing? (s.assignments.map (·.1)) with
    | some c => .error (.missingColumn c)
    | none => do
      -- numbers and keys are compared once all rows have changed
      let rows ← t.rows.mapM fun r =>
        if t.meets r s.condition then t.change s.assignments r else .ok r
      if (rows.map (·.number)).Nodup &&
          (t.primaryKey :: uniques).all fun cs => t.distinctBy cs rows then
        return { t with rows := rows.foldr place [] }
      else throw .uniqueViolation

def delete (t : Table) (s : Delete) : Table :=
  { t with rows := t.rows.filter fun r => !t.meets r s.condition }

end Table

end RecordStore.Database
