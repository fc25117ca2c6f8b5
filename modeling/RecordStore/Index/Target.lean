import RecordStore.Error
import RecordStore.Index.Naming

/-!
One index of one record type with the names of its table and index object, and the columns that
every statement on such a table refers to.
-/
namespace RecordStore

namespace Index

structure Target where
  typeName : String
  schema : Schema
  index : IndexDefinition
  names : Names

/-- The column of the record number. -/
def idColumn : String := "_id"

/-- The column of the quarantine flag. -/
def quarantinedColumn : String := "quarantined"

/-- The flag of a record that queries show. -/
def flagNo : String := "N"

/-- The flag of a record that queries hide. -/
def flagYes : String := "Y"

def quarantineFlag (quarantined : Bool) : String :=
  if quarantined then flagYes else flagNo

end Index

namespace Schema

/-- An index by name, or the mismatch that there is none. -/
def requireIndex (s : Schema) (typeName name : String) : Except Error IndexDefinition :=
  match s.index? name with
  | some ix => .ok ix
  | none => .error (.schemaMismatch (.noIndex typeName name))

/-- An attribute by name, or the mismatch that there is none. -/
def requireAttribute (s : Schema) (name : String) : Except Error Attribute :=
  match s.attribute? name with
  | some a => .ok a
  | none => .error (.schemaMismatch (.defect (.unknownAttribute name)))

end Schema

end RecordStore
