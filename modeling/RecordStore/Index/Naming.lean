import RecordStore.Hash.Xxh3
import RecordStore.Text.Hex
import RecordStore.Text.Decimal

/-!
Names of index tables, index objects and columns.  A name depends on nothing but a configured stem,
the number of the type and the name of the index, so all stores agree on it.
-/
namespace RecordStore.Index

/-- The names of the table and the index object of one index. -/
structure Names where
  table : String
  index : String
deriving DecidableEq, Repr

/-- The 64-bit hash of an index name. -/
def nameHash (indexName : String) : UInt64 :=
  Hash.Xxh3.hash64 indexName.toUTF8.data

/-- The hash as sixteen hexadecimal digits. -/
def hashText (indexName : String) : String :=
  String.ofList (Text.lowerHex 16 (nameHash indexName).toNat)

/-- The part of a name that tells indexes apart: the type number, filled up to four digits, and the
hash of the index name. -/
def identifier (typeId : UInt32) (indexName : String) : String :=
  Text.paddedDecimal 4 typeId.toNat ++ "__" ++ hashText indexName

def tableName (stem : String) (typeId : UInt32) (indexName : String) : String :=
  stem ++ "_i_" ++ identifier typeId indexName

def indexName (stem : String) (typeId : UInt32) (name : String) : String :=
  stem ++ "_idx_" ++ identifier typeId name

def names (stem : String) (typeId : UInt32) (name : String) : Names :=
  ⟨tableName stem typeId name, indexName stem typeId name⟩

/-- The column that holds the values of an attribute. -/
def columnName (attributeName : String) : String :=
  "_" ++ attributeName

end RecordStore.Index
