import RecordStore.Sql.Dialect
import RecordStore.Sql.Value

/-!
Statements as sequences of fragments.  Names and values stand apart from the fixed words, so the
text of a statement and the values bound to its place holders come from one sequence and cannot
disagree.
-/
namespace RecordStore.Sql

/-- A piece of a statement. -/
inductive Fragment
  /-- Fixed words and punctuation. -/
  | verbatim (text : String)
  /-- A name, its quote marks doubled. -/
  | name (n : String)
  /-- A name set between quote marks as it is. -/
  | bareName (n : String)
  /-- A place holder for a value. -/
  | value (v : Value)
deriving DecidableEq, Repr

/-- The text of fragments whose first place holder has the given number. -/
def renderFrom (d : Dialect) : Nat → List Fragment → String
  | _, [] => ""
  | n, .verbatim t :: fs => t ++ renderFrom d n fs
  | n, .name s :: fs => d.quote s ++ renderFrom d n fs
  | n, .bareName s :: fs => d.enclose s ++ renderFrom d n fs
  | n, .value _ :: fs => d.placeholder n ++ renderFrom d (n + 1) fs

/-- The text of a statement. -/
def render (d : Dialect) (fs : List Fragment) : String :=
  renderFrom d 1 fs

/-- The values bound to the place holders, in order. -/
def boundValues (fs : List Fragment) : List Value :=
  fs.filterMap fun
    | .value v => some v
    | _ => none

/-- Groups of fragments with a separator between them. -/
def separated (sep : String) (groups : List (List Fragment)) : List Fragment :=
  (groups.intersperse [.verbatim sep]).flatten

theorem boundValues_append (fs gs : List Fragment) :
    boundValues (fs ++ gs) = boundValues fs ++ boundValues gs := by
  simp [boundValues]

end RecordStore.Sql
