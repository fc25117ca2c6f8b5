import RecordStore.Text.Decimal

/-!
Record identity.  A key is the name of a type and a number; its plain text is the two with a colon
between them.  Opaque texts, which start with `@`, are the business of the key codec.
-/
namespace RecordStore

structure Key where
  typeName : String
  id : UInt64
deriving DecidableEq, Repr

namespace Key

/-- Why a text, a type name or a number cannot serve as a key. -/
inductive Fault
  | notPlain (text : String)
  | notKey (text : String)
  | unencodableType (typeName : String)
  | badTypeName (typeName : String)
  | outOfRange (key : Key)
  | unstorableId (id : UInt64)
deriving DecidableEq, Repr

/-- The plain text of a key. -/
def text (k : Key) : String :=
  k.typeName ++ ":" ++ k.id.toNat.repr

def Fault.message : Fault → String
  | .notPlain t => "'" ++ t ++ "' is not a plain key"
  | .notKey t => "'" ++ t ++ "' is not a valid key"
  | .unencodableType t => "type name '" ++ t ++ "' cannot be encoded"
  | .badTypeName t => "invalid type name '" ++ t ++ "'"
  | .outOfRange k => k.text ++ " is out of range"
  | .unstorableId n => "id " ++ n.toNat.repr ++ " exceeds the storable range"

/-- The parts before and after the last separator. -/
def splitAtLast (sep : Char) (cs : List Char) : Option (List Char × List Char) :=
  match cs.reverse.dropWhile (· != sep) with
  | [] => none
  | _ :: front => some (front.reverse, (cs.reverse.takeWhile (· != sep)).reverse)

/-- The key whose plain text this is.  The number stands after the last colon; leading zeros are
allowed. -/
def parse? (text : String) : Option Key :=
  if text.toList.head? = some '@' then none
  else
    match splitAtLast ':' text.toList with
    | none => none
    | some (t, d) =>
      match Text.natural? d with
      | none => none
      | some n =>
        if t ≠ [] ∧ n < 0x10000000000000000 then some ⟨String.ofList t, UInt64.ofNat n⟩
        else none

/-- The key whose plain text this is, or the reason that it is none. -/
def parse (text : String) : Except Fault Key :=
  match parse? text with
  | some k => .ok k
  | none => .error (.notPlain text)

/-- Keys are ordered by type name and then by number. -/
def precedes (a b : Key) : Bool :=
  a.typeName < b.typeName || (a.typeName == b.typeName && a.id ≤ b.id)

/-- Keys in order, repeats kept. -/
def sort (ks : List Key) : List Key :=
  ks.mergeSort precedes

/-- Every key once, in order. -/
def distinct (ks : List Key) : List Key :=
  (sort ks).eraseDups

end Key

end RecordStore
