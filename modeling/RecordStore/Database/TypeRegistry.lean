import RecordStore.Database.Basic

/-!
Numbers for types and for records.  Types get numbers from one on in the order in which they are
registered, and the records of each type get numbers from one on.  One registry lives in memory and
one in the database.
-/
namespace RecordStore

/-- A registry in memory: each type with its number and the number of its next record. -/
abbrev MemoryRegistry := List (String × UInt32 × UInt64)

namespace MemoryRegistry

/-- The number of a type, which is registered first if that is asked for. -/
def typeId (reg : MemoryRegistry) (name : String) (create : Bool) :
    Option UInt32 × MemoryRegistry :=
  match reg.lookup name with
  | some (n, _) => (some n, reg)
  | none =>
    if create then
      let n := UInt32.ofNat reg.length + 1
      (some n, reg ++ [(name, n, 1)])
    else (none, reg)

/-- The number of a new record of a type. -/
def nextId (reg : MemoryRegistry) (name : String) : Except Error UInt64 × MemoryRegistry :=
  match reg.lookup name with
  | some (_, next) =>
    (.ok next, reg.map fun e => if e.1 == name then (e.1, e.2.1, e.2.2 + 1) else e)
  | none => (.error (.unknownType (.unregistered name)), reg)

end MemoryRegistry

namespace Database

/-- The largest signed word. -/
def maxWord : Int64 := Int64.maxValue

/-- A type number as it is used, if it is one. -/
def usableTypeId (name : String) (n : Int64) : Except Error UInt32 :=
  if 0 ≤ n.toInt ∧ n.toInt < 0x100000000 then .ok (UInt32.ofNat n.toInt.toNat)
  else .error (.unknownType (.invalidNumber name n))

/-- The number of a type, if it is registered. -/
def typeId? (db : Database) (name : String) : Except Error (Option UInt32) :=
  match db.typeRow? name with
  | none => .ok none
  | some row => (usableTypeId name row.typeId).map some

/-- The largest type number, or zero when no type is registered. -/
def lastTypeId (db : Database) : Int64 :=
  match db.types.map (·.typeId) with
  | [] => 0
  | n :: ns => ns.foldl max n

/-- Registers a type under the number after the largest. -/
def register (db : Database) (name : String) : Except Error (UInt32 × Database) :=
  if db.lastTypeId = maxWord then .error (.database .counterOverflow)
  else do
    let n := db.lastTypeId + 1
    let id ← usableTypeId name n
    return (id, { db with types := db.types ++ [⟨name, n, 1⟩] })

/-- The number of a type, which is registered first if that is asked for. -/
def typeId (db : Database) (name : String) (create : Bool) :
    Except Error (Option UInt32 × Database) := do
  match ← db.typeId? name with
  | some id => return (some id, db)
  | none =>
    if create then
      let (id, db) ← db.register name
      return (some id, db)
    else return (none, db)

/-- The number of a new record of a type. -/
def nextId (db : Database) (name : String) : Except Error (UInt64 × Database) :=
  match db.typeRow? name with
  | none => .error (.unknownType (.unregistered name))
  | some row =>
    if row.nextId = maxWord then .error (.database .counterOverflow)
    else
      .ok (UInt64.ofNat row.nextId.toInt.toNat,
        { db with types := db.types.map fun r =>
            if r.name == name then { r with nextId := r.nextId + 1 } else r })

end Database

end RecordStore
