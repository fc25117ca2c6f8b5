import RecordStore.Field
import RecordStore.Text.Case

/-!
The vocabulary of schemas: attribute types, transforms, sort directions, attributes and index
definitions.  A schema lists the attributes of one record type and its indexes, both in order.
-/
namespace RecordStore

inductive AttributeType
  | boolean
  | charOne
  | enum
  | i8
  | i16
  | i32
  | i64
  | u8
  | u16
  | u32
  | u64
  | utcDateSecs
  | smallString
  | longText
  | any
  | array
  | map
deriving DecidableEq, Repr

namespace AttributeType

/-- Every type, in the order of declaration. -/
def all : List AttributeType :=
  [boolean, charOne, enum, i8, i16, i32, i64, u8, u16, u32, u64, utcDateSecs, smallString,
    longText, any, array, map]

/-- The name of a type in messages. -/
def label : AttributeType → String
  | boolean => "Boolean"
  | charOne => "CharOne"
  | enum => "Enum"
  | i8 => "I8"
  | i16 => "I16"
  | i32 => "I32"
  | i64 => "I64"
  | u8 => "U8"
  | u16 => "U16"
  | u32 => "U32"
  | u64 => "U64"
  | utcDateSecs => "UtcDateSecs"
  | smallString => "Utf8Smallstring"
  | longText => "Utf8Text"
  | any => "Any"
  | array => "Array"
  | map => "Map"

/-- Whether an index column can hold values of the type. -/
def indexable : AttributeType → Bool
  | any | array | map => false
  | _ => true

/-- The least and the greatest value of an integer type.  All are kept in signed words, so unsigned
words end where signed ones do. -/
def integerRange? : AttributeType → Option (Int × Int)
  | i8 => some (-0x80, 0x7f)
  | i16 => some (-0x8000, 0x7fff)
  | i32 => some (-0x80000000, 0x7fffffff)
  | i64 | utcDateSecs => some (-0x8000000000000000, 0x7fffffffffffffff)
  | u8 => some (0, 0xff)
  | u16 => some (0, 0xffff)
  | u32 => some (0, 0xffffffff)
  | u64 => some (0, 0x7fffffffffffffff)
  | _ => none

end AttributeType

/-- What is done to a text before it is stored in an index or compared with one. -/
inductive Transform
  | unchanged
  | uppercase
  | lowercase
deriving DecidableEq, Repr

namespace Transform

def applyText : Transform → String → String
  | unchanged, s => s
  | uppercase, s => Text.upper s
  | lowercase, s => Text.lower s

/-- Only texts are transformed. -/
def apply (t : Transform) : FieldValue → FieldValue
  | .text s => .text (t.applyText s)
  | v => v

end Transform

inductive Direction
  | ascending
  | descending
deriving DecidableEq, Repr

def Direction.invert : Direction → Direction
  | ascending => descending
  | descending => ascending

structure Attribute where
  name : String
  type : AttributeType
  /-- The values of an enumeration. -/
  values : Option (List String)
  nullable : Bool
  transform : Transform
deriving DecidableEq, Repr

/-- The name of the attribute that every record has and no schema declares. -/
def idAttribute : String := "id"

structure IndexColumn where
  name : String
  direction : Direction
  transform : Transform
deriving DecidableEq, Repr

namespace IndexColumn

def isId (c : IndexColumn) : Bool :=
  c.name == idAttribute

/-- The column of the record number. -/
def id : IndexColumn :=
  ⟨idAttribute, .ascending, .unchanged⟩

end IndexColumn

structure IndexDefinition where
  name : String
  columns : List IndexColumn
  unique : Bool
deriving DecidableEq, Repr

namespace IndexDefinition

def column? (ix : IndexDefinition) (name : String) : Option IndexColumn :=
  ix.columns.find? (·.name == name)

/-- The declared columns other than the record number, in order. -/
def valueColumns (ix : IndexDefinition) : List IndexColumn :=
  ix.columns.filter (! ·.isId)

end IndexDefinition

end RecordStore
