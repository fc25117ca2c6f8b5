import RecordStore.Database.TypeRegistry

/-!
A database seen from outside: what its tables hold, in an order that does not depend on how it came
about, the statements that its catalogue keeps, and rows entered past the store.
-/
namespace RecordStore.Database
open RecordStore.Sql

/-! ### Contents -/

def typesByNumber (db : Database) : List TypeRow :=
  db.types.mergeSort fun a b => a.typeId ≤ b.typeId

def schemasByType (db : Database) : List SchemaRow :=
  db.schemas.mergeSort fun a b => !(b.typeName < a.typeName)

def recordsByNumber (db : Database) : List RecordRow :=
  db.records.mergeSort fun a b => a.typeId < b.typeId || (a.typeId == b.typeId && a.id ≤ b.id)

def tablesByName (db : Database) : List Table :=
  db.tables.mergeSort fun a b => !(b.definition.table < a.definition.table)

/-- The cells of the rows of a table, by the first one. -/
def Table.sortedCells (t : Table) : List (List Cell) :=
  (t.rows.map (·.cells)).mergeSort fun a b => !(b.headD .null).before (a.headD .null)

def indexNames (db : Database) : List String :=
  (db.indexObjects.map (·.name)).mergeSort fun a b => !(b < a)

/-! ### Catalogue -/

/-- The statements that made the tables and index objects, by the names of these. -/
def catalogue (db : Database) : List String :=
  let table (s : CreateTable) : String × List Fragment := (s.table, s.catalogued .sqlite)
  let objects := [typeTable, recordTable, schemaTable].map table ++
    db.tables.map (fun t => table t.definition) ++
    db.indexObjects.map fun o => (o.name, o.definition.fragments)
  (objects.mergeSort fun a b => !(b.1 < a.1)).map fun o => render .sqlite o.2

/-! ### Rows entered past the store -/

/-- Registers a type under given numbers.  Neither its name nor its number may be in use. -/
def addType (db : Database) (r : TypeRow) : Except DatabaseFault Database :=
  if db.types.any fun t => t.name == r.name || t.typeId == r.typeId then .error .uniqueViolation
  else .ok { db with types := db.types ++ [r] }

/-- Adds a row to the table of an index and removes the index object, which could refuse the row. -/
def addIndexRow (db : Database) (names : Index.Names) (given : List Cell) :
    Except DatabaseFault Database := do
  let db ← db.dropIndex names.index
  let t ← db.reach names.table []
  if given.length ≠ t.definition.columns.length then
    throw (.valueCount names.table t.definition.columns.length given.length)
  let cells := (t.definition.columns.zip given).map fun (c, cell) => (affinityOf c.type).apply cell
  return db.setTable (← t.addRow (db.uniquesOf names.table) ⟨t.nextNumber, cells⟩)

end RecordStore.Database
