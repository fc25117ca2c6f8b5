import RecordStore.Schema.Basic

/-!
Queries against one index: terms that a record has to satisfy, a direction, and the page wanted.
-/
namespace RecordStore

inductive Operator
  | eq
  | ne
  | gt
  | ge
  | lt
  | le
  | within
deriving DecidableEq, Repr

/-- The name of an operator in messages. -/
def Operator.label : Operator → String
  | eq => "Eq"
  | ne => "Ne"
  | gt => "Gt"
  | ge => "Ge"
  | lt => "Lt"
  | le => "Le"
  | within => "In"

inductive Operand
  | scalar (v : FieldValue)
  | list (vs : List FieldValue)
deriving DecidableEq, Repr

/-- One condition on the attribute named by `field`. -/
structure Term where
  field : String
  operator : Operator
  operand : Operand
deriving DecidableEq, Repr

namespace Term

/-- Whether the term asks for equality with a value that is not null. -/
def bindsValue (t : Term) : Bool :=
  match t.operator, t.operand with
  | .eq, .scalar v => !v.isNull
  | _, _ => false

end Term

structure Query where
  terms : List Term
  direction : Direction
  token : Option String
  pageSize : Option UInt64
  includeQuarantined : Bool
deriving DecidableEq, Repr

end RecordStore
