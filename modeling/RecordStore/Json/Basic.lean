import RecordStore.Number.Binary64

/-!
JSON values.  An integer that fits 64 bits, signed or unsigned, is exact; every other number is a
double.  Objects list their members; `Json.put` keeps them sorted by name with one member a name.
-/
namespace RecordStore

/-- An integer that a signed or an unsigned word of 64 bits can hold. -/
structure WordInt where
  val : Int
  lower : -0x8000000000000000 ≤ val
  upper : val < 0x10000000000000000
deriving DecidableEq, Repr

/-- The integer as a word-sized one, if it fits. -/
def WordInt.ofInt? (n : Int) : Option WordInt :=
  if h : -0x8000000000000000 ≤ n ∧ n < 0x10000000000000000 then some ⟨n, h.1, h.2⟩ else none

inductive Json
  | null
  | bool (b : Bool)
  | integer (n : WordInt)
  | real (x : Number.Binary64)
  | string (s : String)
  | array (items : List Json)
  | object (members : List (String × Json))
deriving Repr

/-- The members of a stored object. -/
abbrev Record := List (String × Json)

namespace Json

/-- Sets a member, keeping the list sorted by name.  A member of the same name is replaced. -/
def put (name : String) (v : Json) : Record → Record
  | [] => [(name, v)]
  | (k, w) :: ms =>
    if name < k then (name, v) :: (k, w) :: ms
    else if name = k then (name, v) :: ms
    else (k, w) :: put name v ms

/-- The member of a name. -/
def member? (name : String) (r : Record) : Option Json :=
  r.lookup name

/-- The members, when the value is an object. -/
def record? : Json → Option Record
  | .object ms => some ms
  | _ => none

end Json

end RecordStore
