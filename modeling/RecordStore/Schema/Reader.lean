import RecordStore.Error
import RecordStore.Json.Document
import RecordStore.Schema.Printer

/-!
Schemas read from JSON.  A structure is an object, whose unknown members are passed over and whose
known members stand there once, or an array of its members in order, of which those with a default
may be missing at the end.
-/
namespace RecordStore

namespace Document

/-- The member of an object by name; nothing when it stands there twice. -/
def soleMember? (name : String) (ms : List (Option String × Document)) :
    Option (Option Document) :=
  match ms.filter fun m => m.1 == some name with
  | [] => some none
  | [(_, d)] => some (some d)
  | _ => none

/-- The members of a structure, in the order of `names`.  The names of an object must be texts. -/
def fields? (names : List String) : Document → Option (List (Option Document))
  | .object ms => if ms.all (·.1.isSome) then names.mapM fun n => soleMember? n ms else none
  | .array ds =>
    if ds.length ≤ names.length then
      some (ds.map some ++ List.replicate (names.length - ds.length) none)
    else none
  | _ => none

def string? : Document → Option String
  | .string s => s
  | _ => none

def bool? : Document → Option Bool
  | .bool b => some b
  | _ => none

/-- The items of an array, each read. -/
def list? {α : Type} (read : Document → Option α) : Document → Option (List α)
  | .array ds => ds.mapM read
  | _ => none

/-- A member that must be there. -/
def required {α : Type} (read : Document → Option α) : Option Document → Option α
  | some d => read d
  | none => none

/-- A member with a default. -/
def withDefault {α : Type} (default : α) (read : Document → Option α) :
    Option Document → Option α
  | some d => read d
  | none => some default

/-- A member that may be missing or null. -/
def optional {α : Type} (read : Document → Option α) : Option Document → Option (Option α)
  | none | some .null => some none
  | some d => (read d).map some

/-- One of a list of values, by its word.  A word may also be the only member name of an object
whose member is null. -/
def choice? {α : Type} (all : List α) (word : α → String) : Document → Option α
  | .string (some s) => all.find? fun a => word a == s
  | .object [(some s, .null)] => all.find? fun a => word a == s
  | _ => none

end Document

open Document

def Transform.all : List Transform := [.unchanged, .uppercase, .lowercase]

def Direction.all : List Direction := [.ascending, .descending]

def Transform.ofDocument? (d : Document) : Option Transform :=
  choice? Transform.all Transform.word d

namespace Attribute

def ofDocument? (d : Document) : Option Attribute :=
  match d.fields? ["name", "type", "values", "nullable", "transform"] with
  | some [name, type, values, nullable, transform] => do
    return ⟨← required string? name,
      ← required (choice? AttributeType.all AttributeType.word) type,
      ← optional (list? string?) values, ← withDefault false bool? nullable,
      ← withDefault .unchanged Transform.ofDocument? transform⟩
  | _ => none

end Attribute

namespace IndexColumn

def ofDocument? (d : Document) : Option IndexColumn :=
  match d.fields? ["name", "sort_direction", "transform"] with
  | some [name, direction, transform] => do
    return ⟨← required string? name,
      ← withDefault .ascending (choice? Direction.all Direction.word) direction,
      ← withDefault .unchanged Transform.ofDocument? transform⟩
  | _ => none

end IndexColumn

namespace IndexDefinition

def ofDocument? (d : Document) : Option IndexDefinition :=
  match d.fields? ["name", "attributes", "unique"] with
  | some [name, columns, unique] => do
    return ⟨← required string? name, ← required (list? IndexColumn.ofDocument?) columns,
      ← withDefault false bool? unique⟩
  | _ => none

end IndexDefinition

namespace Schema

/-- The declarations that a document makes. -/
def partsOfDocument? (d : Document) : Option (List Attribute × List IndexDefinition) :=
  match d.fields? ["attributes", "indexes"] with
  | some [attributes, indexes] => do
    return (← required (list? Attribute.ofDocument?) attributes,
      ← withDefault [] (list? IndexDefinition.ofDocument?) indexes)
  | _ => none

/-- The schema that a document is. -/
def ofDocument (d : Document) : Except UnreadableText Schema :=
  match partsOfDocument? d with
  | none => .error .malformed
  | some (as, ixs) =>
    match ofParts as ixs with
    | .ok s => .ok s
    | .error e => .error (.defect e)

/-- The schema that a text is.  Members that are passed over may nest as deep as the text is long.
A defect is reported even if something follows the structure. -/
def parse (text : String) : Except UnreadableText Schema :=
  match Document.readSome text.length text with
  | none => .error .malformed
  | some (d, rest) =>
    match ofDocument d with
    | .error e => .error e
    | .ok s => if Document.skipSpace rest = [] then .ok s else .error .malformed

end Schema

end RecordStore
