import RecordStore.Schema.Basic

/-!
Which lists of attributes and indexes make a schema.  The checks run in the order of declaration and
the first defect is reported.
-/
namespace RecordStore

namespace Schema

/-- What keeps declarations from being a schema. -/
inductive Defect
  | emptyAttributeName
  | reservedAttributeName
  | duplicateAttribute (name : String)
  | lostByTransform (attr value : String)
  | noEnumValues (attr : String)
  | strayValues (attr : String)
  | emptyIndexName
  | duplicateIndex (name : String)
  | noIndexColumns (index : String)
  | repeatedColumn (index column : String)
  | unknownAttribute (name : String)
  | unindexable (attr : String) (type : AttributeType)
  | lostByColumn (index attr value : String)
deriving DecidableEq, Repr

def Defect.message : Defect → String
  | emptyAttributeName => "attribute name must not be empty"
  | reservedAttributeName => "attribute name 'id' is reserved"
  | duplicateAttribute n => "duplicate attribute: " ++ n
  | lostByTransform a v => "transform of " ++ a ++ " turns '" ++ v ++ "' into an undeclared value"
  | noEnumValues a => "enum attribute " ++ a ++ " declares no values"
  | strayValues a => "only enum attributes take values: " ++ a
  | emptyIndexName => "index name must not be empty"
  | duplicateIndex n => "duplicate index: " ++ n
  | noIndexColumns ix => "index " ++ ix ++ " has no attributes"
  | repeatedColumn ix c => "index " ++ ix ++ " repeats attribute " ++ c
  | unknownAttribute n => "unknown attribute: " ++ n
  | unindexable a t => "attribute " ++ a ++ " of type " ++ t.label ++ " cannot be indexed"
  | lostByColumn ix a v =>
    "index " ++ ix ++ " turns " ++ a ++ " value '" ++ v ++ "' into an undeclared value"

end Schema

/-- The first value of an enumeration that leaves the declared values once the transform of the
attribute and then that of a column are applied. -/
def Attribute.lostValue? (a : Attribute) (column : Transform) : Option String :=
  match a.type, a.values with
  | .enum, some vs =>
    vs.find? fun v => !vs.contains (column.applyText (a.transform.applyText v))
  | _, _ => none

namespace Schema

/-- The defect of the values that an attribute declares. -/
def valuesDefect? (a : Attribute) : Option Defect :=
  match a.type, a.values with
  | .enum, some (_ :: _) => (a.lostValue? .unchanged).map (.lostByTransform a.name)
  | .enum, _ => some (.noEnumValues a.name)
  | _, some _ => some (.strayValues a.name)
  | _, none => none

/-- The first defect among attributes that follow those named in `seen`. -/
def attributesDefect? (seen : List String) : List Attribute → Option Defect
  | [] => none
  | a :: rest =>
    if a.name = "" then some .emptyAttributeName
    else if a.name = idAttribute then some .reservedAttributeName
    else if a.name ∈ seen then some (.duplicateAttribute a.name)
    else (valuesDefect? a).or (attributesDefect? (a.name :: seen) rest)

/-- The defect of one column of the index `index`. -/
def columnDefect? (attributes : List Attribute) (index : String) (c : IndexColumn) :
    Option Defect :=
  if c.isId then none
  else
    match attributes.find? (·.name == c.name) with
    | none => some (.unknownAttribute c.name)
    | some a =>
      if a.type.indexable then (a.lostValue? c.transform).map (.lostByColumn index a.name)
      else some (.unindexable a.name a.type)

/-- The first defect among columns that follow those named in `seen`. -/
def columnsDefect? (attributes : List Attribute) (index : String) (seen : List String) :
    List IndexColumn → Option Defect
  | [] => none
  | c :: rest =>
    if c.name ∈ seen then some (.repeatedColumn index c.name)
    else (columnDefect? attributes index c).or
      (columnsDefect? attributes index (c.name :: seen) rest)

/-- The first defect among indexes that follow those named in `seen`. -/
def indexesDefect? (attributes : List Attribute) (seen : List String) :
    List IndexDefinition → Option Defect
  | [] => none
  | ix :: rest =>
    if ix.name = "" then some .emptyIndexName
    else if ix.name ∈ seen then some (.duplicateIndex ix.name)
    else if ix.valueColumns = [] then some (.noIndexColumns ix.name)
    else (columnsDefect? attributes ix.name [] ix.columns).or
      (indexesDefect? attributes (ix.name :: seen) rest)

/-- The first defect of declarations. -/
def defect? (attributes : List Attribute) (indexes : List IndexDefinition) : Option Defect :=
  (attributesDefect? [] attributes).or (indexesDefect? attributes [] indexes)

end Schema

/-- The attributes and the indexes of a record type, free of defects. -/
structure Schema where
  attributes : List Attribute
  indexes : List IndexDefinition
  sound : Schema.defect? attributes indexes = none
deriving DecidableEq

namespace Schema

/-- The schema of these declarations, or their first defect. -/
def ofParts (attributes : List Attribute) (indexes : List IndexDefinition) :
    Except Defect Schema :=
  match h : defect? attributes indexes with
  | none => .ok ⟨attributes, indexes, h⟩
  | some d => .error d

def attribute? (s : Schema) (name : String) : Option Attribute :=
  s.attributes.find? (·.name == name)

def index? (s : Schema) (name : String) : Option IndexDefinition :=
  s.indexes.find? (·.name == name)

theorem ofParts_eq_error_iff {as : List Attribute} {ixs : List IndexDefinition} {d : Defect} :
    ofParts as ixs = .error d ↔ defect? as ixs = some d := by
  unfold ofParts
  split <;> simp_all

theorem isOk_ofParts_iff {as : List Attribute} {ixs : List IndexDefinition} :
    (∃ s, ofParts as ixs = .ok s) ↔ defect? as ixs = none := by
  unfold ofParts
  split <;> simp_all

theorem parts_of_ofParts {as : List Attribute} {ixs : List IndexDefinition} {s : Schema}
    (h : ofParts as ixs = .ok s) : s.attributes = as ∧ s.indexes = ixs := by
  rw [ofParts] at h
  split at h
  · obtain rfl := Except.ok.inj h
    exact ⟨rfl, rfl⟩
  · cases h

end Schema

end RecordStore
