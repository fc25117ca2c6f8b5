import RecordStore.Json.Number

/-!
Reading JSON values from documents and texts.  Of members with one name the last counts.
-/
namespace RecordStore.Json

mutual

/-- The value of a document, unless a number in it is too large or a string is no text. -/
def ofDocument? : Document → Option Json
  | .null => some .null
  | .bool b => some (.bool b)
  | .number l => l.toJson?
  | .string s => s.map .string
  | .array ds => (ofItems? ds).map .array
  | .object ms => (ofMembers? ms []).map .object

/-- The values of the items. -/
def ofItems? : List Document → Option (List Json)
  | [] => some []
  | d :: ds =>
    match ofDocument? d, ofItems? ds with
    | some v, some vs => some (v :: vs)
    | _, _ => none

/-- The members read so far with the others put among them. -/
def ofMembers? : List (Option String × Document) → Record → Option Record
  | [], r => some r
  | (some k, d) :: ms, r =>
    match ofDocument? d with
    | some v => ofMembers? ms (put k v r)
    | none => none
  | (none, _) :: _, _ => none

end

/-- The number of levels a stored text may open. -/
def maxDepth : Nat := 127

/-- The value that a stored text is. -/
def parse? (text : String) : Option Json :=
  (Document.read? maxDepth text).bind ofDocument?

end RecordStore.Json
