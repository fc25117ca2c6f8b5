import RecordStore.Store.Basic

/-!
Queries of a store: over one index, or over all records of a type.  A query reads the database and
changes nothing in it.  Where a term asks for a record number, an opaque key text stands for the key
that it encodes.
-/
namespace RecordStore

namespace Database

/-- The number of a type that has to be registered. -/
def requireTypeId (db : Database) (typeName : String) : Except Error UInt32 := do
  match ← db.typeId? typeName with
  | some n => return n
  | none => throw (.unknownType (.unregistered typeName))

/-- The record number that a cell of an index table holds. -/
def indexedId (table : String) (c : Cell) : Except Error UInt64 := do
  storedNumber (.negativeId · table) (← (readInteger c).mapError .database)

/-- The page of a query on an index.  A lookup that finds more than one row has met an index that is
not unique. -/
def queryIndex (db : Database) (s : StoreSettings) (typeName : String) (schema : Schema)
    (index : String) (q : Query) : Except Error Page := do
  let ix ← schema.requireIndex typeName index
  let n ← db.requireTypeId typeName
  let names := Index.names s.stem n index
  let plan ← q.compile ⟨typeName, schema, ix, names⟩ s.lookupLimit
  -- the rows of a lookup are counted before any of their numbers is read
  let cells ← (db.cells plan.select).mapError .database
  if plan.lookup && 1 < cells.length then
    throw (.consistencyViolation (.ambiguousLookup typeName index cells.length))
  let ids ← cells.mapM (indexedId names.table)
  return Page.ofIds typeName ids plan.offset plan.pageSize

/-- The rows of a plan as they are stored. -/
def found (db : Database) (plan : Plan) : Except Error (List Int64) :=
  (db.select plan.select).mapError .database

/-- A page of all records of a type, which is empty when the type is not registered. -/
def scan (db : Database) (typeName : String) (direction : Direction) (token : Option String)
    (pageSize : Option UInt64) (includeQuarantined : Bool) : Except Error Page := do
  match ← db.typeId? typeName with
  | none => return .empty
  | some n =>
    let plan ← Scan.compile n direction token pageSize includeQuarantined
    let ids ← (← db.found plan).mapM recordId
    return Page.ofIds typeName ids plan.offset plan.pageSize

end Database

namespace Store

/-- A value of a term on the record number, with an opaque text replaced by the plain one. -/
def resolveId (s : Store) : FieldValue → Action FieldValue
  | .text t =>
    if t.toList.head? = some '@' then do
      let key ← s.keyOf t fun f => .queryValidation (.undecodableId f)
      return .text key.text
    else return .text t
  | v => return v

/-- A term with its opaque texts replaced, if it is about the record number. -/
def resolveTerm (s : Store) (t : Term) : Action Term :=
  if t.field = idAttribute then
    match t.operand with
    | .scalar v => do return { t with operand := .scalar (← s.resolveId v) }
    | .list vs => do return { t with operand := .list (← vs.mapM s.resolveId) }
  else return t

/-- The schema of a type that has to have one. -/
def requireSchema (typeName : String) : Action Schema := do
  match ← schema typeName with
  | some s => return s
  | none => throw (.schemaMismatch (.noSchema typeName))

/-- One page of a query on an index. -/
def query (s : Store) (typeName index : String) (q : Query) : Action Page := do
  let schema ← requireSchema typeName
  let terms ← q.terms.mapM s.resolveTerm
  Action.read fun db => db.queryIndex s.settings typeName schema index { q with terms := terms }

/-- The pages of a query from its token on, at most as many as `limit`. -/
def queryPages (s : Store) (typeName index : String) (q : Query) : Nat → Action (List Page)
  | 0 => return []
  | limit + 1 => do
    let page ← s.query typeName index q
    match page.nextToken with
    | none => return [page]
    | some t => return page :: (← s.queryPages typeName index { q with token := some t } limit)

/-- One page of all records of a type. -/
def scan (typeName : String) (direction : Direction) (token : Option String)
    (pageSize : Option UInt64) (includeQuarantined : Bool) : Action Page :=
  Action.read fun db => db.scan typeName direction token pageSize includeQuarantined

end Store

end RecordStore
