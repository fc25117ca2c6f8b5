import RecordStore.Index.Hook
import RecordStore.Token

/-!
Compiled queries.  The terms of a query become the conditions of one statement in the order of the
columns of its index, followed by a stable order and the limits of a page.  A query that gives every
column of a unique index one value takes a shorter path without an order.
-/
namespace RecordStore

open RecordStore.Sql RecordStore.Index

/-- A statement with what is needed to make a page of its rows. -/
structure Plan where
  select : Select
  /-- The number of rows that are passed over. -/
  offset : UInt64
  /-- The size of the page; the statement fetches one row more. -/
  pageSize : Option UInt64
  /-- Whether at most one row is expected. -/
  lookup : Bool
deriving DecidableEq, Repr

namespace Query

/-- The terms on one field, in order. -/
def termsFor (ts : List Term) (field : String) : List Term :=
  ts.filter (·.field == field)

/-- The column of the table that an index column stands for. -/
def physicalColumn (c : IndexColumn) : String :=
  if c.isId then idColumn else columnName c.name

/-- The value that a scalar of a term stands for. -/
def bindTerm (typeName : String) (s : Schema) (c : IndexColumn) (field : String) (v : FieldValue) :
    Except Error Value :=
  if c.isId then
    match bindId typeName v with
    | .ok b => .ok b
    | .error e => .error (.queryValidation (.term field (.refused e)))
  else do
    let a ← s.requireAttribute c.name
    match bindColumn a c v with
    | .ok b => return b
    | .error e => throw (.queryValidation (.term field (.refused e)))

/-- The comparison that an operator makes, unless it is about lists. -/
def comparison? : Operator → Option Comparison
  | .eq => some .eq
  | .ne => some .ne
  | .gt => some .gt
  | .ge => some .ge
  | .lt => some .lt
  | .le => some .le
  | .within => none

/-- The condition of a term on a column. -/
def condition (typeName : String) (s : Schema) (c : IndexColumn) (t : Term) :
    Except Error Condition :=
  let invalid (f : TermFault) : Except Error Condition :=
    .error (.queryValidation (.term t.field f))
  let col := physicalColumn c
  match comparison? t.operator, t.operand with
  | none, .list vs =>
    if vs.isEmpty || vs.any FieldValue.isNull then invalid .malformedList
    else do
      let bound ← vs.mapM (bindTerm typeName s c t.field)
      return .within col bound
  | none, .scalar _ => invalid .malformedList
  | some _, .list _ => invalid (.singleValue t.operator)
  | some .eq, .scalar .null => .ok (.isNull col)
  | some .ne, .scalar .null => .ok (.isNotNull col)
  | some _, .scalar .null => invalid (.nullComparison t.operator)
  | some op, .scalar v => do
    let b ← bindTerm typeName s c t.field v
    return .compare col op b

/-- The columns of an index in order, with the record number last unless it is declared. -/
def conditionColumns (ix : IndexDefinition) : List IndexColumn :=
  if (ix.column? idAttribute).isNone then ix.columns ++ [IndexColumn.id] else ix.columns

/-- The conditions of all terms, column by column. -/
def conditions (t : Target) (q : Query) : Except Error (List Condition) :=
  ((conditionColumns t.index).flatMap fun c => (termsFor q.terms c.name).map (c, ·)).mapM
    fun (c, term) => condition t.typeName t.schema c term

/-- The condition that hides quarantined rows. -/
def quarantineFilter (includeQuarantined : Bool) : List Condition :=
  if includeQuarantined then [] else [.compare quarantinedColumn .eq (.ofText flagNo)]

/-- The largest limit that can be bound. -/
def maxLimit : UInt64 := 0x7fffffffffffffff

/-- The limit of a lookup, held between one and the largest. -/
def lookupLimit (limit : UInt64) : UInt64 :=
  if limit = 0 then 1 else if limit ≤ maxLimit then limit else maxLimit

/-- The offset that a token stands for. -/
def offsetOf : Option String → Except Error UInt64
  | none => .ok 0
  | some t =>
    match Token.decode? t with
    | some n => .ok n
    | none => .error (.invalidCursor t)

/-- The limit of a page: one row more than it shows.  An offset alone comes with the
largest limit. -/
def pageLimit (offset : UInt64) : Option UInt64 → Except Error (Option UInt64)
  | some n =>
    if n = 0 then .error (.queryValidation .pageSizeZero)
    else if maxLimit ≤ n then .error (.queryValidation .pageSizeTooLarge)
    else .ok (some (n + 1))
  | none => .ok (if 0 < offset then some maxLimit else none)

/-- A statement cut to a page. -/
def paginate (s : Select) (token : Option String) (pageSize : Option UInt64) :
    Except Error Plan := do
  let offset ← offsetOf token
  let limit ← pageLimit offset pageSize
  return ⟨{ s with limit := limit, offset := if 0 < offset then some offset else none },
    offset, pageSize, false⟩

/-- The first term on a field that the index does not have. -/
def strayTerm? (ix : IndexDefinition) (ts : List Term) : Option Term :=
  ts.find? fun t => t.field != idAttribute && (ix.column? t.field).isNone

/-- The first column of a unique index without exactly one term of equality. -/
def unboundColumn? (ix : IndexDefinition) (ts : List Term) : Option IndexColumn :=
  if ix.unique then
    ix.valueColumns.find? fun c =>
      (termsFor ts c.name).countP (·.operator == .eq) != 1
  else none

/-- Whether every declared column has one term, and that one gives it a value. -/
def bindsAll (ix : IndexDefinition) (ts : List Term) : Bool :=
  ix.columns.all fun c =>
    match termsFor ts c.name with
    | [t] => t.bindsValue
    | _ => false

/-- The direction of a column in an answer: its own when the query asks for that, otherwise the
opposite of its own. -/
def sortDirection (declared asked : Direction) : Direction :=
  if declared = asked then declared else declared.invert

/-- The order of an answer: the attributes as declared and the record number last. -/
def sortKeys (ix : IndexDefinition) (asked : Direction) : List SortKey :=
  ix.valueColumns.map (fun c => ⟨columnName c.name, sortDirection c.direction asked⟩) ++
    [⟨idColumn, asked⟩]

/-- The plan of a query on an index.  `limit` bounds the rows of a lookup. -/
def compile (t : Target) (q : Query) (limit : UInt64) : Except Error Plan := do
  if let some term := strayTerm? t.index q.terms then
    throw (.queryValidation (.notInIndex term.field t.typeName t.index.name))
  if let some c := unboundColumn? t.index q.terms then
    throw (.queryValidation (.needsOneEq t.typeName t.index.name c.name))
  let cs ← conditions t q
  let base : Select :=
    ⟨idColumn, t.names.table, quarantineFilter q.includeQuarantined ++ cs, [], none, none⟩
  -- without a token one row at most is expected, so neither order nor page size matters
  if t.index.unique && q.token.isNone && bindsAll t.index q.terms then
    return ⟨{ base with limit := some (lookupLimit limit) }, 0, none, true⟩
  paginate { base with order := sortKeys t.index q.direction } q.token q.pageSize

end Query

namespace Scan

/-- The table of records and its columns. -/
def recordTable : String := "_key_values"
def typeColumn : String := "_key_type"
def keyColumn : String := "_key_id"
def stateColumn : String := "_is_deleted"

/-- The plan that lists all records of a type by number. -/
def compile (typeId : UInt32) (direction : Direction) (token : Option String)
    (pageSize : Option UInt64) (includeQuarantined : Bool) : Except Error Plan :=
  let state : Condition :=
    if includeQuarantined then .compare stateColumn .ne (.ofText flagYes)
    else .compare stateColumn .eq (.ofText flagNo)
  Query.paginate
    ⟨keyColumn, recordTable, [.compare typeColumn .eq (.unsigned (some typeId)), state],
      [⟨keyColumn, direction⟩], none, none⟩ token pageSize

end Scan

end RecordStore
