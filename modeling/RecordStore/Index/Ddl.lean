import RecordStore.Index.Target
import RecordStore.Sql.Statement

/-!
The table and the index object of an index.  The table has the record number, one column for each
attribute and the quarantine flag.  An index that is not unique ends with the record number.
-/
namespace RecordStore.Index
open RecordStore.Sql

/-- The specification of the column that holds an attribute. -/
def attributeSpec (s : Schema) (c : IndexColumn) : Except Error ColumnSpec := do
  let a ← s.requireAttribute c.name
  return .plain (columnName c.name) a.type.columnType

def idSpec : ColumnSpec :=
  ⟨idColumn, .bigInt, true, none, true, false⟩

def quarantinedSpec : ColumnSpec :=
  ⟨quarantinedColumn, .character, true, some flagNo, false, false⟩

/-- The table of an index. -/
def createTable (names : Names) (ix : IndexDefinition) (s : Schema) : Except Error CreateTable := do
  let specs ← ix.valueColumns.mapM (attributeSpec s)
  return ⟨names.table, idSpec :: specs ++ [quarantinedSpec], []⟩

/-- The direction declared for the record number. -/
def idDirection (ix : IndexDefinition) : Direction :=
  match ix.columns.find? IndexColumn.isId with
  | some c => c.direction
  | none => .ascending

def attributeKey (s : Schema) (c : IndexColumn) : Except Error SortKey := do
  let _ ← s.requireAttribute c.name
  return ⟨columnName c.name, c.direction⟩

/-- The index object of an index. -/
def createIndex (names : Names) (ix : IndexDefinition) (s : Schema) : Except Error CreateIndex := do
  let keys ← ix.valueColumns.mapM (attributeKey s)
  return ⟨names.index, names.table, ix.unique,
    if ix.unique then keys else keys ++ [⟨idColumn, idDirection ix⟩]⟩

end RecordStore.Index
