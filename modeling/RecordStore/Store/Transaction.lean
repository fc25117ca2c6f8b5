import RecordStore.Database.TypeRegistry
import RecordStore.Index.Ddl
import RecordStore.Json.Printer
import RecordStore.Json.Reader
import RecordStore.Page
import RecordStore.Schema.Reader
import RecordStore.Settings.Basic

/-!
Steps of a transaction: functions of the database that either give a result and a new database or an
error and nothing else.  The rows of a record are written to the tables of all its indexes in the
order of declaration.
-/
namespace RecordStore

/-- A step on the database.  An error leaves no database, so whoever runs the step keeps the old
one. -/
abbrev Transaction (α : Type) := StateT Database (Except Error) α

/-- A record type whose indexes are looked after. -/
structure IndexedType where
  typeId : UInt32
  typeName : String
  schema : Schema

namespace Transaction

/-- A change of the database whose faults are errors. -/
def apply (f : Database → Except DatabaseFault Database) : Transaction Unit := fun db =>
  match f db with
  | .ok db => .ok ((), db)
  | .error e => .error (.database e)

/-- A change of the database that is left out when it has a fault. -/
def attempt (f : Database → Except DatabaseFault Database) : Transaction Unit := fun db =>
  match f db with
  | .ok db => .ok ((), db)
  | .error _ => .ok ((), db)

/-- A change of the row of an index table, whose conflicts are told apart from other faults. -/
def write (t : Index.Target) (f : Database → Except DatabaseFault Database) : Transaction Unit :=
  fun db =>
    match f db with
    | .ok db => .ok ((), db)
    | .error e => .error (Index.writeError t e)

/-- A part that does not depend on the database. -/
def lift {α : Type} (r : Except Error α) : Transaction α := fun db => r.map (·, db)

end Transaction

open Transaction

/-- The schema that the database holds for a type. -/
def storedSchema (typeName : String) : Transaction (Option Schema) := fun db =>
  match db.schemaText? typeName with
  | none => .ok (none, db)
  | some text =>
    match Schema.parse text with
    | .ok s => .ok (some s, db)
    | .error e => .error (.serialization e)

/-- The type number under which a row is stored. -/
def typeWord (n : UInt32) : Int64 := Int64.ofInt n.toNat

namespace IndexedType

def target (t : IndexedType) (s : StoreSettings) (ix : IndexDefinition) : Index.Target :=
  ⟨t.typeName, t.schema, ix, Index.names s.stem t.typeId ix.name⟩

/-- Creates the table and the index object of an index.  An index object of that name goes first; a
table of that name stays. -/
def createIndex (t : IndexedType) (s : StoreSettings) (name : String) : Transaction Unit := do
  let ix ← lift (t.schema.requireIndex t.typeName name)
  let names := Index.names s.stem t.typeId ix.name
  -- the index object is made anew, and a table that is there keeps its rows
  attempt (·.dropIndex names.index)
  let table ← lift (Index.createTable names ix t.schema)
  apply (·.createTable table)
  let index ← lift (Index.createIndex names ix t.schema)
  apply (·.createIndex index)

/-- Adds the rows of a record. -/
def insertRows (t : IndexedType) (s : StoreSettings) (id : UInt64) (r : Record) :
    Transaction Unit :=
  t.schema.indexes.forM fun ix => do
    let target := t.target s ix
    let row ← lift (Index.insertRow target id r)
    write target (·.insert row)

/-- Brings the rows of a record up to date.  A row that holds nothing but the record number never
changes. -/
def updateRows (t : IndexedType) (s : StoreSettings) (id : UInt64) (r : Record) :
    Transaction Unit :=
  (t.schema.indexes.filter (! ·.valueColumns.isEmpty)).forM fun ix => do
    let target := t.target s ix
    let row ← lift (Index.updateRow target id r)
    write target (·.update row)

/-- Removes the rows of a record. -/
def deleteRows (t : IndexedType) (s : StoreSettings) (id : UInt64) : Transaction Unit :=
  t.schema.indexes.forM fun ix => do
    let target := t.target s ix
    let row ← lift (Index.deleteRow target id)
    write target (·.delete row)

/-- Sets the quarantine flag in the rows of a record. -/
def flagRows (t : IndexedType) (s : StoreSettings) (id : UInt64) (quarantined : Bool) :
    Transaction Unit :=
  t.schema.indexes.forM fun ix => do
    let target := t.target s ix
    let row ← lift (Index.flagRow target id quarantined)
    write target (·.update row)

/-- Empties the tables of all indexes. -/
def truncateAll (t : IndexedType) (s : StoreSettings) : Transaction Unit :=
  t.schema.indexes.forM fun ix =>
    apply (·.truncate (Index.tableName s.stem t.typeId ix.name))

end IndexedType

/-- Removes the table of an index and then, if it is still there, the index object. -/
def dropIndexTable (s : StoreSettings) (typeId : UInt32) (name : String) : Transaction Unit := do
  apply (·.dropTable (Index.tableName s.stem typeId name))
  attempt (·.dropIndex (Index.indexName s.stem typeId name))

/-- A stored number as a record number, which is never negative. -/
def storedNumber (fault : Int64 → Inconsistency) (n : Int64) : Except Error UInt64 :=
  if 0 ≤ n.toInt then .ok (UInt64.ofNat n.toInt.toNat)
  else .error (.consistencyViolation (fault n))

/-- The number of a row in the table of records. -/
def recordId (n : Int64) : Except Error UInt64 :=
  storedNumber .negativeRecordId n

/-- The object that a stored text is. -/
def storedRecord (text : String) : Except Error Record :=
  match Json.parse? text with
  | none => .error (.serialization .malformed)
  | some v =>
    match v.record? with
    | none => .error (.schemaMismatch .notObject)
    | some r => .ok r

/-- Checks a record against the schema of its type. -/
def checkRecord (typeName : String) (s : Schema) (r : Record) : Except Error Unit :=
  match s.recordFault? r with
  | none => .ok ()
  | some (a, f) => .error (.schemaMismatch (.field typeName a f))

namespace IndexedType

/-- Enters a stored record into the tables of all indexes. -/
def backfill (t : IndexedType) (s : StoreSettings) (row : RecordRow) : Transaction Unit := do
  let id ← lift (recordId row.id)
  let r ← lift (storedRecord row.text)
  lift (checkRecord t.typeName t.schema r)
  t.insertRows s id r
  if row.state = .quarantined then t.flagRows s id true

/-- Stores the schema of a type, creates its indexes and enters the records that are
already there. -/
def publish (t : IndexedType) (s : StoreSettings) : Transaction Unit := do
  apply (·.addSchema t.typeName t.schema.text)
  t.schema.indexes.forM fun ix => t.createIndex s ix.name
  let rows := (← get).recordsOf (typeWord t.typeId)
  rows.forM (t.backfill s)

end IndexedType

/-- The number of a key as it is stored. -/
def keyWord (key : Key) : Except Error Int64 :=
  match storedId? key.id with
  | some n => .ok n
  | none => .error (.invalidKey (.outOfRange key))

/-- The schema of a type, after the record was checked against it if there is one. -/
def schemaFor (typeName : String) (r : Record) : Transaction (Option Schema) := do
  let schema ← storedSchema typeName
  if let some schema := schema then lift (checkRecord typeName schema r)
  return schema

/-- Adds a record with its rows. -/
def addRecord (s : StoreSettings) (typeId : UInt32) (key : Key) (r : Record) :
    Transaction Unit := do
  let schema ← schemaFor key.typeName r
  let n ← lift (keyWord key)
  apply (·.addRecord ⟨typeWord typeId, n, .live, (Json.object r).text⟩)
  if let some schema := schema then
    IndexedType.insertRows ⟨typeId, key.typeName, schema⟩ s key.id r

/-- Changes one record if it is there in a state that allows it, and then its rows.  The answer says
whether it was. -/
def changeRecord (typeId : UInt32) (key : Key) (schema : Option Schema)
    (allowed : RecordState → Bool) (change : RecordRow → RecordRow)
    (rows : IndexedType → Transaction Unit) : Transaction Bool := do
  let n ← lift (keyWord key)
  match (← get).changeRecord? (typeWord typeId) n allowed change with
  | none => return false
  | some db =>
    set db
    if let some schema := schema then rows ⟨typeId, key.typeName, schema⟩
    return true

/-- Replaces a record. -/
def replaceRecord (s : StoreSettings) (typeId : UInt32) (key : Key) (r : Record) :
    Transaction Bool := do
  let schema ← schemaFor key.typeName r
  changeRecord typeId key schema (· != .deleted) ({ · with text := (Json.object r).text })
    fun t => t.updateRows s key.id r

/-- Marks a record deleted and removes its rows. -/
def deleteRecord (s : StoreSettings) (typeId : UInt32) (key : Key) : Transaction Bool := do
  let schema ← storedSchema key.typeName
  changeRecord typeId key schema (· != .deleted) ({ · with state := .deleted })
    fun t => t.deleteRows s key.id

/-- Moves a record from one state to another and flags its rows. -/
def moveRecord (s : StoreSettings) (typeId : UInt32) (key : Key) (quarantined : Bool) :
    Transaction Bool := do
  let schema ← storedSchema key.typeName
  let (source, goal) : RecordState × RecordState :=
    if quarantined then (.live, .quarantined) else (.quarantined, .live)
  changeRecord typeId key schema (· == source) ({ · with state := goal })
    fun t => t.flagRows s key.id quarantined

/-- Removes all records of a type, deleted ones too, and empties its index tables. -/
def clearType (s : StoreSettings) (typeId : UInt32) (typeName : String) : Transaction Nat := do
  let schema ← storedSchema typeName
  let (n, db) := (← get).clearRecords (typeWord typeId)
  set db
  if let some schema := schema then IndexedType.truncateAll ⟨typeId, typeName, schema⟩ s
  return n

/-- Removes the schema of a type and the tables of its indexes.  The answer says whether there was
one. -/
def unpublish (s : StoreSettings) (typeId : UInt32) (typeName : String) : Transaction Bool := do
  match ← storedSchema typeName with
  | none => return false
  | some schema =>
    modify (·.removeSchema typeName)
    schema.indexes.forM fun ix => dropIndexTable s typeId ix.name
    return true

end RecordStore
