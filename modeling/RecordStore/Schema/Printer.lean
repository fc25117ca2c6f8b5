import RecordStore.Json.Printer
import RecordStore.Schema.Validation

/-!
The JSON text of a schema: compact, with the members in the order of declaration and every default
written out.  Only the values of an enumeration can be missing.
-/
namespace RecordStore

/-- The word for a type in schema texts. -/
def AttributeType.word : AttributeType → String
  | boolean => "BOOLEAN"
  | charOne => "CHAR_ONE"
  | enum => "ENUM"
  | i8 => "I8"
  | i16 => "I16"
  | i32 => "I32"
  | i64 => "I64"
  | u8 => "U8"
  | u16 => "U16"
  | u32 => "U32"
  | u64 => "U64"
  | utcDateSecs => "UTC_DATE_SECS"
  | smallString => "UTF8_SMALLSTRING"
  | longText => "UTF8_TEXT"
  | any => "ANY"
  | array => "ARRAY"
  | map => "MAP"

def Transform.word : Transform → String
  | unchanged => "NONE"
  | uppercase => "UPPERCASE"
  | lowercase => "LOWERCASE"

def Direction.word : Direction → String
  | ascending => "ASCENDING"
  | descending => "DESCENDING"

namespace Attribute

/-- An attribute as a JSON value.  Its members keep their order. -/
def toJson (a : Attribute) : Json :=
  .object <| [("name", .string a.name), ("type", .string a.type.word)] ++
    (match a.values with
      | some vs => [("values", .array (vs.map .string))]
      | none => []) ++
    [("nullable", .bool a.nullable), ("transform", .string a.transform.word)]

end Attribute

namespace IndexColumn

def toJson (c : IndexColumn) : Json :=
  .object [("name", .string c.name), ("sort_direction", .string c.direction.word),
    ("transform", .string c.transform.word)]

end IndexColumn

namespace IndexDefinition

def toJson (ix : IndexDefinition) : Json :=
  .object [("name", .string ix.name), ("attributes", .array (ix.columns.map (·.toJson))),
    ("unique", .bool ix.unique)]

end IndexDefinition

namespace Schema

def toJson (s : Schema) : Json :=
  .object [("attributes", .array (s.attributes.map (·.toJson))),
    ("indexes", .array (s.indexes.map (·.toJson)))]

/-- The text of a schema. -/
def text (s : Schema) : String :=
  s.toJson.text

end Schema

end RecordStore
