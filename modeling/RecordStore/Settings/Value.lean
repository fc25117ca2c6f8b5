import RecordStore.Text.Case
import RecordStore.Yaml.Node

/-!
Settings before they have types: a tree of tables, lists and scalars.  A value is set at a path.  A
table is merged member by member into what is there, and anything else replaces it; on the way to
the place, what is no table or list becomes one.  Names that are merged take small letters; lists
are kept as they are.
-/
namespace RecordStore
open RecordStore.Number

inductive SettingValue
  | null
  | bool (b : Bool)
  | integer (n : Int64)
  | real (x : Double)
  | text (s : String)
  | list (vs : List SettingValue)
  | table (ms : List (String × SettingValue))
deriving Repr

/-- One step of a path: to a member of a table or to an element of a list. -/
inductive SettingStep
  | member (name : String)
  | element (i : Int)
deriving DecidableEq, Repr

namespace SettingValue

/-- The members of a table; anything else has none. -/
def members : SettingValue → List (String × SettingValue)
  | .table ms => ms
  | _ => []

/-- The elements of a list; anything else has none. -/
def elements : SettingValue → List SettingValue
  | .list vs => vs
  | _ => []

def member? (t : SettingValue) (name : String) : Option SettingValue :=
  t.members.lookup name

/-- The table with a member replaced or added at the end. -/
def put (t : SettingValue) (name : String) (v : SettingValue) : SettingValue :=
  .table <|
    if (t.member? name).isSome then t.members.map fun m => if m.1 == name then (name, v) else m
    else t.members ++ [(name, v)]

theorem member?_put_self (t : SettingValue) (name : String) (v : SettingValue) :
    (t.put name v).member? name = some v := by
  unfold put member?
  generalize t.members = ms
  simp only [members]
  split
  next h =>
    induction ms with
    | nil => cases h
    | cons m ms ih =>
      obtain ⟨n, u⟩ := m
      by_cases hn : name = n
      · simp [hn]
      · have hb : (name == n) = false := beq_false_of_ne hn
        rw [List.lookup_cons, hb] at h
        simpa [List.lookup_cons, hb, Ne.symm hn] using ih h
  next h =>
    induction ms with
    | nil => simp
    | cons m ms ih =>
      obtain ⟨n, u⟩ := m
      by_cases hn : name = n
      · exact absurd (by simp [hn]) h
      · have hb : (name == n) = false := beq_false_of_ne hn
        rw [List.lookup_cons, hb] at h
        simpa [List.lookup_cons, hb] using ih h

/-- The elements of a list with room for one more place, and that place.  A negative place is
counted from the end.  Nulls fill the list up, at the front if the place lies in front of it. -/
def roomFor (t : SettingValue) (i : Int) : List SettingValue × Nat :=
  let vs := t.elements
  let n := if 0 ≤ i then i else vs.length + i
  if 0 ≤ n then (vs ++ List.replicate (n.toNat + 1 - vs.length) null, n.toNat)
  else (List.replicate (-n).toNat null ++ vs, 0)

mutual

/-- What stands where a value is set and something else stood before. -/
def merge (old : Option SettingValue) : SettingValue → SettingValue
  | .table ms => mergeMembers (old.getD (.table [])) ms
  | v => v

/-- A table after members are set in it one after another.  Capital letters in names count as small
ones. -/
def mergeMembers (t : SettingValue) : List (String × SettingValue) → SettingValue
  | [] => t
  | (name, v) :: ms =>
    let name := Text.lower name
    mergeMembers (t.put name (merge (t.member? name) v)) ms

end

/-- The tree with a value set at the end of a path. -/
def set (t : SettingValue) (v : SettingValue) : List SettingStep → SettingValue
  | [] => merge (some t) v
  | [.member name] => t.put name (merge (t.member? name) v)
  | [.element i] =>
    let (vs, n) := t.roomFor i
    .list (vs.set n v)
  | .member name :: steps => t.put name (((t.member? name).getD .null).set v steps)
  | .element i :: steps =>
    let (vs, n) := t.roomFor i
    .list (vs.set n ((vs.getD n .null).set v steps))

mutual

/-- The settings that a value of a file is. -/
def ofNode : Yaml.Node → SettingValue
  | .null => .null
  | .bool b => .bool b
  | .integer n => .integer n
  | .real x => .real x
  | .text s => .text s
  | .sequence ns => .list (ofItems ns)
  | .mapping ms => .table (ofMembers [] ms)

def ofItems : List Yaml.Node → List SettingValue
  | [] => []
  | n :: ns => ofNode n :: ofItems ns

/-- The members of a mapping.  Of a text and an integer that are written alike the last counts. -/
def ofMembers (done : List (String × SettingValue)) :
    List (Yaml.Name × Yaml.Node) → List (String × SettingValue)
  | [] => done
  | (name, n) :: ms =>
    ofMembers ((SettingValue.table done).put name.toText (ofNode n)).members ms

end

end SettingValue

end RecordStore
