import RecordStore.Key
import RecordStore.Schema.Basic
import RecordStore.Sql.Value
import RecordStore.Text.Blank
import RecordStore.Text.Escaped

/-!
How scalars become the values of index columns.  The transform of the attribute is applied first,
then that of the column, and the result is fitted to the type of the attribute.
-/
namespace RecordStore

/-- Why a scalar does not fit. -/
inductive Refusal
  | notInteger (shown : String)
  | outOfRange (n : Int) (type : AttributeType)
  | notBoolean (shown : String)
  | notSingle (shown : String)
  | undeclared (shown : String) (values : List String) (attr : String)
  | tooLong (attr : String)
  | unindexable (type : AttributeType)
  | invalidId (shown : String)
deriving DecidableEq, Repr

/-- The greatest number of characters of a small string. -/
def smallStringWidth : Nat := 255

def Refusal.message : Refusal → String
  | notInteger s => "'" ++ s ++ "' is not an integer"
  | outOfRange n t => Text.decimal n ++ " is out of range for " ++ t.label
  | notBoolean s => "'" ++ s ++ "' is not a boolean"
  | notSingle s => "'" ++ s ++ "' is not a single character"
  | undeclared s vs a => "'" ++ s ++ "' is not one of " ++ Text.escapedList vs ++ " for " ++ a
  | tooLong a => "longer than " ++ smallStringWidth.repr ++ " characters for " ++ a
  | unindexable t => "values of type " ++ t.label ++ " cannot be indexed"
  | invalidId s => "invalid id: '" ++ s ++ "'"

/-- The type of the column that holds values of an attribute type. -/
def AttributeType.columnType : AttributeType → Sql.ColumnType
  | boolean => .boolean
  | charOne => .character
  | enum | smallString => .characters smallStringWidth
  | longText | any | array | map => .text
  | i8 | i16 | i32 | i64 | u8 | u16 | u32 | u64 | utcDateSecs => .bigInt

/-- The null of a column type. -/
def Sql.ColumnType.null : Sql.ColumnType → Sql.Value
  | .boolean => .bool none
  | .bigInt => .bigInt none
  | .character | .characters _ | .text => .text none

/-- The integer that a scalar names.  A text may have blanks around its digits and a sign in front
of them, and its number must fit 128 bits. -/
def FieldValue.integer? : FieldValue → Option Int
  | .int n => some n.toInt
  | .uint n => some n.toNat
  | .text s =>
    (Text.integer? (Text.trimBlanks s.toList)).filter fun n =>
      -0x80000000000000000000000000000000 ≤ n && n < 0x80000000000000000000000000000000
  | .null | .bool _ => none

/-- The truth value that a scalar names. -/
def FieldValue.truth? : FieldValue → Option Bool
  | .bool b => some b
  | .text s => if s = "true" then some true else if s = "false" then some false else none
  | _ => none

/-- The value of the attribute's column type that a scalar stands for. -/
def coerce (a : Attribute) (v : FieldValue) : Except Refusal Sql.Value :=
  if v.isNull then .ok a.type.columnType.null
  else
    match a.type.integerRange? with
    | some (least, greatest) =>
      match v.integer? with
      | none => .error (.notInteger v.display)
      | some n =>
        if least ≤ n ∧ n ≤ greatest then .ok (.ofInt (Int64.ofInt n))
        else .error (.outOfRange n a.type)
    | none =>
      match a.type with
      | .boolean =>
        match v.truth? with
        | some b => .ok (.bool (some b))
        | none => .error (.notBoolean v.display)
      | .charOne =>
        if v.display.length = 1 then .ok (.ofText v.display) else .error (.notSingle v.display)
      | .enum =>
        let values := a.values.getD []
        if v.display ∈ values then .ok (.ofText v.display)
        else .error (.undeclared v.display values a.name)
      | .smallString =>
        if v.display.length ≤ smallStringWidth then .ok (.ofText v.display)
        else .error (.tooLong a.name)
      | .longText => .ok (.ofText v.display)
      | t => .error (.unindexable t)

/-- The value that an index column stores for a scalar. -/
def bindColumn (a : Attribute) (c : IndexColumn) (v : FieldValue) : Except Refusal Sql.Value :=
  coerce a (c.transform.apply (a.transform.apply v))

/-- A record number as the database stores it, if a signed word holds it. -/
def storedId? (id : UInt64) : Option Int64 :=
  if id.toNat < 0x8000000000000000 then some (Int64.ofInt id.toNat) else none

/-- The record number that a scalar names: a number, its digits, or the plain key of a record of the
given type. -/
def FieldValue.recordId? (typeName : String) : FieldValue → Option UInt64
  | .int n => if 0 ≤ n.toInt then some (UInt64.ofNat n.toInt.toNat) else none
  | .uint n => some n
  | .text s =>
    if ':' ∈ s.toList then
      (Key.parse? s).bind fun k => if k.typeName = typeName then some k.id else none
    else
      (Text.unsigned? s.toList).bind fun n =>
        if n < 0x10000000000000000 then some (UInt64.ofNat n) else none
  | .null | .bool _ => none

/-- The value that a scalar compared with the record number stands for. -/
def bindId (typeName : String) (v : FieldValue) : Except Refusal Sql.Value :=
  match (v.recordId? typeName).bind storedId? with
  | some n => .ok (.ofInt n)
  | none => .error (.invalidId v.display)

end RecordStore
