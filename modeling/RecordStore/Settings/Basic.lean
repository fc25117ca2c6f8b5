import RecordStore.KeyCodec

/-!
What a store is set up with: where its database is, how its indexes are named and looked up, and how
its keys are made opaque.
-/
namespace RecordStore

/-- What concerns indexes. -/
structure StoreSettings where
  /-- What all names of index tables and index objects start with. -/
  stem : String
  /-- The most rows that a lookup reads. -/
  lookupLimit : UInt64
deriving DecidableEq, Repr

namespace StoreSettings

def default : StoreSettings := ⟨"", 10⟩

/-- The settings, if a statement can carry the limit: it is a positive signed word. -/
def checked (s : StoreSettings) : Except Error StoreSettings :=
  if 1 ≤ s.lookupLimit.toNat ∧ s.lookupLimit.toNat < 0x8000000000000000 then .ok s
  else .error (.settings (.lookupLimit s.lookupLimit))

end StoreSettings

/-- The kinds of database. -/
inductive StorageKind
  | sqlite
  | postgres
deriving DecidableEq, Repr

namespace StorageKind

def all : List StorageKind := [sqlite, postgres]

/-- The word for a kind in settings. -/
def word : StorageKind → String
  | sqlite => "sqlite"
  | postgres => "postgres"

end StorageKind

/-- What concerns the database.  Both kinds have settings, whichever is used. -/
structure StorageSettings where
  kind : StorageKind
  /-- The file of the database; without one it is held in memory. -/
  path : Option String
  uri : String
  maxConnections : UInt32
deriving DecidableEq, Repr

namespace StorageSettings

def default : StorageSettings := ⟨.sqlite, none, "postgres://localhost:5432/kvdex", 5⟩

/-- The address of the file, or of a database in memory. -/
def fileUrl (s : StorageSettings) : String :=
  match s.path with
  | some path => "sqlite://" ++ path ++ "?mode=rwc"
  | none => "sqlite::memory:"

end StorageSettings

structure Settings where
  storage : StorageSettings
  index : StoreSettings
  codec : CodecSettings
deriving DecidableEq, Repr

def Settings.default : Settings := ⟨.default, .default, .default⟩

end RecordStore
