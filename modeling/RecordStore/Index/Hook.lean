import RecordStore.Index.Target
import RecordStore.Sql.Statement

/-!
The statements that keep the row of a record in an index table in step with the record.
-/
namespace RecordStore.Index
open RecordStore.Sql

/-- A record number as a bound value. -/
def idValue (id : UInt64) : Except Error Value :=
  match storedId? id with
  | some n => .ok (.ofInt n)
  | none => .error (.invalidKey (.unstorableId id))

/-- The scalar of a record that a column is about; a missing member counts as null. -/
def columnScalar (t : Target) (c : IndexColumn) (r : Record) : Except Error FieldValue :=
  match Json.member? c.name r with
  | none => .ok .null
  | some v =>
    match FieldValue.ofJson? v with
    | some f => .ok f
    | none => .error (.schemaMismatch (.notScalar t.typeName c.name))

/-- The column of an attribute and the value that a record has in it. -/
def columnValue (t : Target) (r : Record) (c : IndexColumn) : Except Error (String × Value) := do
  let a ← t.schema.requireAttribute c.name
  let f ← columnScalar t c r
  match bindColumn a c f with
  | .ok v => return (columnName c.name, v)
  | .error e => throw (.schemaMismatch (.field t.typeName c.name (.refused e)))

/-- The values of a record in all attribute columns of an index. -/
def rowValues (t : Target) (r : Record) : Except Error (List (String × Value)) :=
  t.index.valueColumns.mapM (columnValue t r)

/-- The statement that adds a row, which needs as many values as columns. -/
def insertInto (table : String) (columns : List String) (values : List Value) :
    Except Error Insert :=
  if columns.length = values.length then .ok ⟨table, columns, values⟩
  else .error (.queryBuild columns.length values.length)

/-- The row of a new record. -/
def insertRow (t : Target) (id : UInt64) (r : Record) : Except Error Insert := do
  let n ← idValue id
  let row ← rowValues t r
  insertInto t.names.table (idColumn :: row.map (·.1) ++ [quarantinedColumn])
    (n :: row.map (·.2) ++ [.ofText flagNo])

/-- The condition that picks the row of a record. -/
def idCondition (n : Value) : Condition :=
  .compare idColumn .eq n

/-- The row of a changed record.  The quarantine flag stays. -/
def updateRow (t : Target) (id : UInt64) (r : Record) : Except Error Update := do
  let row ← rowValues t r
  let n ← idValue id
  return ⟨t.names.table, row, idCondition n⟩

/-- The row of a record that is gone. -/
def deleteRow (t : Target) (id : UInt64) : Except Error Delete := do
  let n ← idValue id
  return ⟨t.names.table, idCondition n⟩

/-- The quarantine flag of a record. -/
def flagRow (t : Target) (id : UInt64) (quarantined : Bool) : Except Error Update := do
  let n ← idValue id
  return ⟨t.names.table, [(quarantinedColumn, .ofText (quarantineFlag quarantined))],
    idCondition n⟩

/-- Texts by which drivers report a value that has to be unique and is not. -/
def conflictPhrases : List String :=
  ["unique constraint failed", "duplicate key value violates unique constraint",
    "duplicate entry", "unique index or primary key violation", "constraint violation"]

/-- Whether a text has another one inside it. -/
def occursIn (part : List Char) : List Char → Bool
  | [] => part.isEmpty
  | c :: cs => part.isPrefixOf (c :: cs) || occursIn part cs

/-- Whether the text of a fault tells of a conflict, in letters of either case. -/
def tellsConflict (text : String) : Bool :=
  conflictPhrases.any fun p => occursIn p.toList (Text.lower text).toList

/-- Whether a fault of the database is a conflict between values that have to be unique. -/
def isConflict : DatabaseFault → Bool
  | .uniqueViolation => true
  | f => tellsConflict f.message

/-- The error of a row that could not be written. -/
def writeError (t : Target) (f : DatabaseFault) : Error :=
  if isConflict f then .uniquenessConflict t.typeName t.index.name else .database f

end RecordStore.Index
