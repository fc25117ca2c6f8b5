import RecordStore.Store.Queries

/-!
The operations of a store as data, and their answers.  A run of operations is a list, and what a
store does in it depends on nothing but the database, the session and the list.
-/
namespace RecordStore

/-- What a store is asked to do. -/
inductive Operation
  | createSchema (typeName : String) (schema : Schema)
  | dropSchema (typeName : String)
  | schema (typeName : String)
  | create (typeName : String) (value : Json)
  | retrieve (key : String)
  | multiRetrieve (keys : List String)
  | update (key : String) (value : Json)
  | delete (key : String)
  | quarantine (key : String)
  | release (key : String)
  | clear (typeName : String)
  | query (typeName index : String) (q : Query)
  | scan (typeName : String) (direction : Direction) (token : Option String)
      (pageSize : Option UInt64) (includeQuarantined : Bool)
  | encodeKey (key : Key)
  | decodeKey (text : String)

inductive Answer
  | done
  | changed (b : Bool)
  | removed (n : Nat)
  | key (k : Key)
  | keyText (s : String)
  | schema (s : Option Schema)
  | record (v : Option Json)
  | records (vs : List (Key × Json))
  | page (p : Page)

/-- The action that an operation asks for. -/
def Store.perform (s : Store) : Operation → Action Answer
  | .createSchema t schema => do
    s.createSchema t schema
    return .done
  | .dropSchema t => .changed <$> s.dropSchema t
  | .schema t => .schema <$> Store.schema t
  | .create t v => .key <$> s.create t v
  | .retrieve k => .record <$> s.retrieve k
  | .multiRetrieve ks => .records <$> s.multiRetrieve ks
  | .update k v => .changed <$> s.update k v
  | .delete k => .changed <$> s.delete k
  | .quarantine k => .changed <$> s.setQuarantined k true
  | .release k => .changed <$> s.setQuarantined k false
  | .clear t => .removed <$> s.clear t
  | .query t ix q => .page <$> s.query t ix q
  | .scan t direction token pageSize includeQuarantined =>
    .page <$> Store.scan t direction token pageSize includeQuarantined
  | .encodeKey k => .keyText <$> s.encodeKey k
  | .decodeKey text => .key <$> s.decodeKey text

end RecordStore
