import RecordStore.Store.Transaction

/-!
A store on a database.  Besides the database a store has a memory of its own, the schemas it has
seen and the keys it has derived.  What an action does to either stays when it fails; only the steps
of a transaction are undone together.
-/
namespace RecordStore

structure Store where
  settings : StoreSettings
  codec : KeyCodec
deriving DecidableEq, Repr

/-- What one store remembers between calls. -/
structure Session where
  schemas : List (String × Schema)
  keys : KeyCache

namespace Session

def fresh : Session := ⟨[], []⟩

/-- The session with a schema remembered. -/
def remember (s : Session) (typeName : String) (schema : Schema) : Session :=
  { s with schemas := (typeName, schema) :: s.schemas.filter (·.1 != typeName) }

/-- The session with a schema forgotten. -/
def forget (s : Session) (typeName : String) : Session :=
  { s with schemas := s.schemas.filter (·.1 != typeName) }

theorem lookup_remember (s : Session) (typeName : String) (schema : Schema) :
    (s.remember typeName schema).schemas.lookup typeName = some schema := by
  simp [remember]

theorem lookup_forget (s : Session) (typeName : String) :
    (s.forget typeName).schemas.lookup typeName = none := by
  simp only [forget, List.lookup_eq_none_iff, List.mem_filter, bne_iff_ne]
  intro m hm he
  exact hm.2 he.symm

end Session

/-- A database and the session of the store that works on it. -/
structure Workspace where
  database : Database
  session : Session

/-- What a store does when it is called. -/
abbrev Action (α : Type) := ExceptT Error (StateM Workspace) α

namespace Action

/-- Runs the steps of a transaction.  After an error the database is as it was. -/
def transact {α : Type} (t : Transaction α) : Action α := fun w =>
  match t.run w.database with
  | .ok (a, db) => (.ok a, { w with database := db })
  | .error e => (.error e, w)

theorem transact_of_ok {α : Type} {t : Transaction α} {w : Workspace} {a : α} {db : Database}
    (h : t.run w.database = .ok (a, db)) :
    transact t w = (.ok a, { w with database := db }) := by
  unfold transact
  rw [h]

/-- A transaction that fails changes nothing. -/
theorem transact_of_error {α : Type} {t : Transaction α} {w : Workspace} {e : Error}
    (h : t.run w.database = .error e) : transact t w = (.error e, w) := by
  unfold transact
  rw [h]

/-- Reads the database. -/
def read {α : Type} (f : Database → Except Error α) : Action α := fun w => (f w.database, w)

/-- Changes the session. -/
def onSession (f : Session → Session) : Action Unit := fun w =>
  (.ok (), { w with session := f w.session })

/-- A part that depends on nothing. -/
def lift {α : Type} (r : Except Error α) : Action α := fun w => (r, w)

end Action

/-- The greatest number of octets of a type name. -/
def typeNameLimit : Nat := 255

/-- Whether a type can have records: its name has letters, digits, underscores, hyphens and dots
only. -/
def validTypeName (typeName : String) : Bool :=
  typeName != "" && typeName.utf8ByteSize ≤ typeNameLimit &&
    typeName.toList.all fun c => c.isAlphanum || c == '_' || c == '-' || c == '.'

def checkTypeName (typeName : String) : Except Error Unit :=
  if validTypeName typeName then .ok () else .error (.invalidKey (.badTypeName typeName))

/-- The members of a value that is to be stored. -/
def checkObject (v : Json) : Except Error Record :=
  match v.record? with
  | some r => .ok r
  | none => .error (.schemaMismatch .notObject)

namespace Store

/-- The opaque text of a key. -/
def encodeKey (s : Store) (key : Key) : Action String := fun w =>
  let (r, keys) := s.codec.encode key w.session.keys
  (r.mapError .invalidKey, { w with session := { w.session with keys := keys } })

/-- The key of a plain or opaque text, or a fault as the error that it makes. -/
def keyOf (s : Store) (text : String) (refuse : Key.Fault → Error) : Action Key := fun w =>
  let (r, keys) := s.codec.decode text w.session.keys
  (r.mapError refuse, { w with session := { w.session with keys := keys } })

/-- The key of a plain or opaque text. -/
def decodeKey (s : Store) (text : String) : Action Key :=
  s.keyOf text .invalidKey

/-- The number of a type, if it is registered. -/
def typeId? (typeName : String) : Action (Option UInt32) :=
  Action.read (·.typeId? typeName)

/-- The number of a type, which is registered first if that is asked for. -/
def typeId (typeName : String) (create : Bool) : Action UInt32 := do
  match ← Action.transact fun db => db.typeId typeName create with
  | some n => return n
  | none => throw (.unknownType (.unregistered typeName))

/-- The key of a text and the number of its type; nothing when the type is not registered. -/
def resolve (s : Store) (text : String) : Action (Option (Key × UInt32)) := do
  let key ← s.decodeKey text
  let n ← typeId? key.typeName
  return n.map (key, ·)

/-- The schema of a type, from memory or from the database, and then remembered. -/
def schema (typeName : String) : Action (Option Schema) := fun w =>
  match w.session.schemas.lookup typeName with
  | some s => (.ok (some s), w)
  | none =>
    match (storedSchema typeName).run w.database with
    | .error e => (.error e, w)
    | .ok (none, _) => (.ok none, w)
    | .ok (some s, _) => (.ok (some s), { w with session := w.session.remember typeName s })

/-- Publishes the schema of a type.  The same schema may be published again; another may not. -/
def createSchema (s : Store) (typeName : String) (given : Schema) : Action Unit := do
  Action.lift (checkTypeName typeName)
  match ← schema typeName with
  | some known =>
    if known = given then return
    throw (.schemaMismatch (.otherSchema typeName))
  | none =>
    -- the type stays registered even when publishing fails
    let n ← typeId typeName true
    Action.transact (IndexedType.publish ⟨n, typeName, given⟩ s.settings)
    Action.onSession (·.remember typeName given)

/-- Removes the schema of a type, and says whether there was one. -/
def dropSchema (s : Store) (typeName : String) : Action Bool := do
  match ← typeId? typeName with
  | none => return false
  | some n =>
    let dropped ← Action.transact (unpublish s.settings n typeName)
    Action.onSession (·.forget typeName)
    return dropped

/-- Stores a new record under the next number of its type. -/
def create (s : Store) (typeName : String) (v : Json) : Action Key := do
  Action.lift (checkTypeName typeName)
  let r ← Action.lift (checkObject v)
  -- type and number are used up even when the record is refused
  let n ← typeId typeName true
  let id ← Action.transact fun db => db.nextId typeName
  let key : Key := ⟨typeName, id⟩
  Action.transact (addRecord s.settings n key r)
  return key

/-- A record that is not deleted. -/
def retrieve (s : Store) (text : String) : Action (Option Json) := do
  match ← s.resolve text with
  | none => return none
  | some (key, n) =>
    let word ← Action.lift (keyWord key)
    match (← Action.read fun db => .ok (db.record? (typeWord n) word)) with
    | none => return none
    | some row =>
      match Json.parse? row.text with
      | some v => return some v
      | none => throw (.serialization .malformed)

/-- How many records a statement asks for at most. -/
def fetchWidth : Nat := 500

/-- A list in portions of so many elements; the last one has what is left. -/
def portions {α : Type} (width : Nat) (xs : List α) : List (List α) :=
  (List.range ((xs.length + width - 1) / width)).map fun i => (xs.drop (i * width)).take width

/-- The numbers that are asked for, type by type and with their repeats. -/
def idsByType (wanted : List (Key × Int64)) : List (String × List Int64) :=
  (wanted.map (·.1.typeName)).eraseDups.map fun t =>
    (t, (wanted.filter (·.1.typeName == t)).map (·.2))

/-- The value of a stored record with its key. -/
def keyedValue (typeName : String) (row : RecordRow) : Except Error (Key × Json) := do
  let id ← recordId row.id
  match Json.parse? row.text with
  | some v => return (⟨typeName, id⟩, v)
  | none => throw (.serialization .malformed)

/-- The records of a type with the numbers of one portion.  Deleted ones are left out. -/
def fetchPortion (db : Database) (typeName : String) (n : UInt32) (ids : List Int64) :
    Except Error (List (Key × Json)) :=
  (db.records.filter fun row =>
    row.typeId == typeWord n && ids.contains row.id && row.state != .deleted).mapM
      (keyedValue typeName)

/-- The records of a type with given numbers, portion by portion; none if it is not registered. -/
def fetchType (db : Database) (typeName : String) (ids : List Int64) :
    Except Error (List (Key × Json)) := do
  match ← db.typeId? typeName with
  | none => return []
  | some n => return (← (portions fetchWidth ids).mapM (fetchPortion db typeName n)).flatten

/-- Values by key with one more, which replaces one that has its key. -/
def insertValue (found : List (Key × Json)) (p : Key × Json) : List (Key × Json) :=
  found.filter (·.1 != p.1) ++ [p]

/-- The records that are asked for, each once. -/
def fetch (db : Database) (wanted : List (Key × Int64)) : Except Error (List (Key × Json)) := do
  let found ← (idsByType wanted).mapM fun (typeName, ids) => fetchType db typeName ids
  return found.flatten.foldl insertValue []

/-- A key of a text and its number as it is stored. -/
def decodeWord (s : Store) (text : String) : Action (Key × Int64) := do
  let key ← s.decodeKey text
  let word ← Action.lift (keyWord key)
  return (key, word)

/-- The records of many keys, each once, by key.  Keys without a record are left out. -/
def multiRetrieve (s : Store) (texts : List String) : Action (List (Key × Json)) := do
  let wanted ← texts.mapM s.decodeWord
  let found ← Action.read fun db => fetch db wanted
  return found.mergeSort fun a b => a.1.precedes b.1

/-- Replaces a record, and says whether there was one. -/
def update (s : Store) (text : String) (v : Json) : Action Bool := do
  let r ← Action.lift (checkObject v)
  match ← s.resolve text with
  | none => return false
  | some (key, n) => Action.transact (replaceRecord s.settings n key r)

/-- Deletes a record, and says whether there was one. -/
def delete (s : Store) (text : String) : Action Bool := do
  match ← s.resolve text with
  | none => return false
  | some (key, n) => Action.transact (deleteRecord s.settings n key)

/-- Puts a record in quarantine or releases it, and says whether that was a change. -/
def setQuarantined (s : Store) (text : String) (quarantined : Bool) : Action Bool := do
  match ← s.resolve text with
  | none => return false
  | some (key, n) => Action.transact (moveRecord s.settings n key quarantined)

/-- Removes all records of a type, and says how many there were. -/
def clear (s : Store) (typeName : String) : Action Nat := do
  match ← typeId? typeName with
  | none => return 0
  | some n => Action.transact (clearType s.settings n typeName)

end Store

end RecordStore
