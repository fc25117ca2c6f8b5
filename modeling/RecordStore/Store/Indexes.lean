import RecordStore.Store.Queries

/-!
Indexes worked on by themselves, with a schema that the caller brings along and that need not be
published.  All indexes of a type change together or not at all.
-/
namespace RecordStore

/-- What is done to the index rows of a type. -/
inductive RowChange
  | insert (id : UInt64) (r : Record)
  | update (id : UInt64) (r : Record)
  | delete (id : UInt64)
  | flag (id : UInt64) (quarantined : Bool)
  | truncate

/-- The step that makes a change in the tables of all indexes. -/
def IndexedType.change (t : IndexedType) (s : StoreSettings) : RowChange → Transaction Unit
  | .insert id r => t.insertRows s id r
  | .update id r => t.updateRows s id r
  | .delete id => t.deleteRows s id
  | .flag id quarantined => t.flagRows s id quarantined
  | .truncate => t.truncateAll s

namespace Store

/-- Creates one index of a type.  The type is registered even when the schema has no such index. -/
def createIndex (s : Store) (typeName : String) (schema : Schema) (index : String) :
    Action Unit := do
  let n ← typeId typeName true
  Action.transact (IndexedType.createIndex ⟨n, typeName, schema⟩ s.settings index)

/-- Removes one index of a registered type. -/
def dropIndex (s : Store) (typeName index : String) : Action Unit := do
  let n ← typeId typeName false
  Action.transact (dropIndexTable s.settings n index)

/-- One page of a query on an index.  Opaque texts are not understood here. -/
def queryIndex (s : Store) (typeName : String) (schema : Schema) (index : String) (q : Query) :
    Action Page :=
  Action.read fun db => db.queryIndex s.settings typeName schema index q

/-- Changes the rows of all indexes of a registered type. -/
def changeRows (s : Store) (typeName : String) (schema : Schema) (c : RowChange) :
    Action Unit := do
  let n ← typeId typeName false
  Action.transact (IndexedType.change ⟨n, typeName, schema⟩ s.settings c)

end Store

end RecordStore
