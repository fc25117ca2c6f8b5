import RecordStore.Database.Search
import RecordStore.Query.Plan

/-!
The database: three tables of fixed form, which the store reads and writes row by row, and the
tables and index objects that indexes bring with them, which are reached through statements.  Times
of creation and change are not kept.
-/
namespace RecordStore

open RecordStore.Sql

/-- Whether a stored record can be seen.  A flag that the store never writes keeps its text. -/
inductive RecordState
  | live
  | quarantined
  | deleted
  | other (flag : String)
deriving DecidableEq, Repr

namespace RecordState

def flag : RecordState → String
  | live => "N"
  | quarantined => "Q"
  | deleted => "Y"
  | other s => s

def ofFlag : String → RecordState
  | "N" => live
  | "Q" => quarantined
  | "Y" => deleted
  | s => other s

end RecordState

structure TypeRow where
  name : String
  typeId : Int64
  nextId : Int64
deriving DecidableEq, Repr

structure SchemaRow where
  typeName : String
  text : String
deriving DecidableEq, Repr

structure RecordRow where
  typeId : Int64
  id : Int64
  state : RecordState
  text : String
deriving DecidableEq, Repr

/-- An index object by the name that it is found under. -/
structure IndexObject where
  name : String
  definition : CreateIndex
deriving Repr

structure Database where
  types : List TypeRow
  schemas : List SchemaRow
  records : List RecordRow
  tables : List Database.Table
  indexObjects : List IndexObject
deriving Repr

namespace Database

def empty : Database := ⟨[], [], [], [], []⟩

/-! ### Fixed tables -/

def typeTable : CreateTable :=
  ⟨"_key_types",
    [⟨"_type_name", .characters 255, true, none, true, false⟩,
      ⟨"_type_id", .bigInt, true, none, false, true⟩, .required "_next_id" .bigInt], []⟩

def recordTable : CreateTable :=
  ⟨Scan.recordTable,
    [.required Scan.typeColumn .bigInt, .required Scan.keyColumn .bigInt,
      ⟨Scan.stateColumn, .character, true, some RecordState.live.flag, false, false⟩,
      .required "_created_dt" .bigInt, .required "_updated_dt" .bigInt, .required "_value" .text],
    [Scan.typeColumn, Scan.keyColumn]⟩

def schemaTable : CreateTable :=
  ⟨"_schemas",
    [⟨"_type_name", .characters 255, true, none, true, false⟩, .required "_schema" .text], []⟩

/-- A record as a row of its table, with zeros for its times. -/
def recordCells (r : RecordRow) : List Cell :=
  [.integer r.typeId, .integer r.id, .text r.state.flag, .integer 0, .integer 0, .text r.text]

/-- The records as a table that statements can read. -/
def recordView (db : Database) : Table :=
  ⟨recordTable, db.records.mapIdx fun i r => ⟨.ofNat (i + 1), recordCells r⟩⟩

def typeRow? (db : Database) (name : String) : Option TypeRow :=
  db.types.find? (·.name == name)

/-- The text of the schema of a type. -/
def schemaText? (db : Database) (typeName : String) : Option String :=
  (db.schemas.find? (·.typeName == typeName)).map (·.text)

def addSchema (db : Database) (typeName text : String) : Except DatabaseFault Database :=
  if (db.schemaText? typeName).isSome then .error .uniqueViolation
  else .ok { db with schemas := db.schemas ++ [⟨typeName, text⟩] }

def removeSchema (db : Database) (typeName : String) : Database :=
  { db with schemas := db.schemas.filter (·.typeName != typeName) }

/-- A record that is not deleted. -/
def record? (db : Database) (typeId id : Int64) : Option RecordRow :=
  db.records.find? fun r => r.typeId == typeId && r.id == id && r.state != .deleted

def addRecord (db : Database) (r : RecordRow) : Except DatabaseFault Database :=
  if db.records.any fun s => s.typeId == r.typeId && s.id == r.id then .error .uniqueViolation
  else .ok { db with records := db.records ++ [r] }

/-- The database with one record changed, if that record is there and in a state that allows it. -/
def changeRecord? (db : Database) (typeId id : Int64) (allowed : RecordState → Bool)
    (change : RecordRow → RecordRow) : Option Database :=
  let hit (r : RecordRow) : Bool := r.typeId == typeId && r.id == id && allowed r.state
  if db.records.any hit then
    some { db with records := db.records.map fun r => if hit r then change r else r }
  else none

/-- The records of a type that are not deleted, by number. -/
def recordsOf (db : Database) (typeId : Int64) : List RecordRow :=
  (db.records.filter fun r => r.typeId == typeId && r.state != .deleted).mergeSort
    fun a b => a.id ≤ b.id

/-- The database without the records of a type, and how many there were. -/
def clearRecords (db : Database) (typeId : Int64) : Nat × Database :=
  (db.records.countP (·.typeId == typeId),
    { db with records := db.records.filter (·.typeId != typeId) })

/-! ### Statements on other tables -/

def table? (db : Database) (name : String) : Option Table :=
  db.tables.find? fun t => sameName t.definition.table name

/-- The index objects of a table. -/
def indexesOf (db : Database) (table : String) : List CreateIndex :=
  (db.indexObjects.map (·.definition)).filter fun o => sameName o.table table

/-- The column lists that the index objects of a table keep unique. -/
def uniquesOf (db : Database) (table : String) : List (List String) :=
  ((db.indexesOf table).filter (·.unique)).map fun o => o.columns.map (·.column)

/-- The database with a table replaced. -/
def setTable (db : Database) (t : Table) : Database :=
  { db with tables := db.tables.map fun u =>
      if sameName u.definition.table t.definition.table then t else u }

/-- The first name that stands in a list twice. -/
def repeatedName? : List String → Option String
  | [] => none
  | n :: ns => if ns.any (sameName n) then some n else repeatedName? ns

/-- Whether a name is kept for the database itself. -/
def reserved (name : String) : Bool :=
  "sqlite_".toList.isPrefixOf (Text.foldAscii name).toList

/-- A table that is already there stays as it is. -/
def createTable (db : Database) (s : CreateTable) : Except DatabaseFault Database := do
  readNames (s.table :: s.columns.map (·.name))
  if reserved s.table then .error (.reservedName s.table)
  else if (db.table? s.table).isSome then .ok db
  else
    match repeatedName? (s.columns.map (·.name)) with
    | some n => .error (.repeatedColumn n)
    | none => .ok { db with tables := db.tables ++ [⟨s, []⟩] }

def createIndex (db : Database) (s : CreateIndex) : Except DatabaseFault Database :=
  match readBare? s.index with
  | none => .error .unreadableStatement
  | some name => do
    readNames (s.table :: s.columns.map (·.column))
    if s.columns.isEmpty then .error .noColumns
    else if reserved name then .error (.reservedName name)
    else
      match db.table? s.table with
      | none => .error (.missingTable s.table)
      | some t =>
        if db.indexObjects.any fun o => sameName o.name name then .error (.objectExists name)
        -- rows that are already there have to obey a unique index as well
        else if s.unique && !t.distinctBy (s.columns.map (·.column)) t.rows then
          .error .uniqueViolation
        else .ok { db with indexObjects := db.indexObjects ++ [⟨name, s⟩] }

/-- Removes a table and its index objects, if it is there. -/
def dropTable (db : Database) (name : String) : Except DatabaseFault Database := do
  readNames [name]
  return { db with
    tables := db.tables.filter fun t => !sameName t.definition.table name
    indexObjects := db.indexObjects.filter fun o => !sameName o.definition.table name }

/-- Removes an index object, if it is there.  Its name is written as it is. -/
def dropIndex (db : Database) (index : String) : Except DatabaseFault Database :=
  match readBare? index with
  | none => .error .unreadableStatement
  | some name =>
    .ok { db with indexObjects := db.indexObjects.filter fun o => !sameName o.name name }

/-- Removes the rows of a table.  Its name is written as it is. -/
def truncate (db : Database) (table : String) : Except DatabaseFault Database :=
  match readBare? table with
  | none => .error .unreadableStatement
  | some name =>
    match db.table? name with
    | none => .error (.missingTable name)
    | some t => .ok (db.setTable { t with rows := [] })

/-- The table that a statement works on which has these names behind that of the table. -/
def reach (db : Database) (table : String) (columns : List String) :
    Except DatabaseFault Table := do
  readNames (table :: columns)
  match db.table? table with
  | none => throw (.missingTable table)
  | some t => return t

def insert (db : Database) (s : Insert) : Except DatabaseFault Database := do
  let t ← db.reach s.table s.columns
  let t ← t.insert (db.uniquesOf s.table) s
  return db.setTable t

def update (db : Database) (s : Update) : Except DatabaseFault Database := do
  let t ← db.reach s.table (s.assignments.map (·.1) ++ [s.condition.column])
  let t ← t.update (db.uniquesOf s.table) s
  return db.setTable t

def delete (db : Database) (s : Delete) : Except DatabaseFault Database := do
  let t ← db.reach s.table [s.condition.column]
  return db.setTable (t.delete s)

/-- The integer that a cell holds. -/
def readInteger : Cell → Except DatabaseFault Int64
  | .integer n => .ok n
  | _ => .error (.driver "mismatched types")

/-- The cells that a statement on the table of records or on another table finds. -/
def cells (db : Database) (s : Select) : Except DatabaseFault (List Cell) :=
  if s.table = Scan.recordTable then .ok (db.recordView.select s)
  else do
    let t ← db.reach s.table (s.column :: s.conditions.map (·.column) ++ s.order.map (·.column))
    return t.select (t.ordered (db.indexesOf s.table) s)

/-- The integers that a statement finds. -/
def select (db : Database) (s : Select) : Except DatabaseFault (List Int64) := do
  (← db.cells s).mapM readInteger

end Database

end RecordStore
