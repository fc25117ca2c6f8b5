import RecordStore.Binding
import RecordStore.Schema.Validation

/-!
Which records fit a schema.  Members that no attribute names are left alone.
-/
namespace RecordStore

/-- Why the member of an attribute does not fit. -/
inductive FieldFault
  | required
  | expected (type : AttributeType)
  | expectedScalar
  | refused (r : Refusal)
deriving DecidableEq, Repr

def FieldFault.message : FieldFault → String
  | required => "required"
  | expected t => "expected " ++ t.label
  | expectedScalar => "expected a scalar"
  | refused r => r.message

namespace Attribute

/-- The fault of a value that is not null.  A scalar is fitted after the transform of
the attribute. -/
def valueFault? (a : Attribute) (v : Json) : Option FieldFault :=
  match a.type, v with
  | .any, _ => none
  | .array, .array _ => none
  | .map, .object _ => none
  | .array, _ | .map, _ => some (.expected a.type)
  | _, v =>
    match FieldValue.ofJson? v with
    | none => some .expectedScalar
    | some scalar =>
      match coerce a (a.transform.apply scalar) with
      | .ok _ => none
      | .error r => some (.refused r)

/-- The fault of the member of a record, which may be missing or null if the attribute says so. -/
def fieldFault? (a : Attribute) : Option Json → Option FieldFault
  | none | some .null => if a.nullable then none else some .required
  | some v => a.valueFault? v

end Attribute

/-- The first attribute whose member does not fit, and the fault. -/
def Schema.recordFault? (s : Schema) (r : Record) : Option (String × FieldFault) :=
  s.attributes.findSome? fun a => (a.fieldFault? (Json.member? a.name r)).map (a.name, ·)

end RecordStore
