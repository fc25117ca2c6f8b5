import RecordStore.Number.Double

/-!
Values of a settings file: scalars, sequences and mappings.  A scalar without quote marks is a null,
a truth value, a number or else a text, by how it is written.
-/
namespace RecordStore.Yaml
open RecordStore.Number

/-- The name of a member of a mapping. -/
inductive Name
  | text (s : String)
  | integer (n : Int64)
deriving DecidableEq, Repr

/-- The name as a text. -/
def Name.toText : Name → String
  | .text s => s
  | .integer n => Text.decimal n.toInt

inductive Node
  | null
  | bool (b : Bool)
  | integer (n : Int64)
  | real (x : Double)
  | text (s : String)
  | sequence (ns : List Node)
  | mapping (ms : List (Name × Node))
deriving Repr

/-- The integer that a scalar is.  `0x` and `0o` mark the bases sixteen and eight, and a plus may
stand in front of the sign. -/
def integer? (cs : List Char) : Option Int64 :=
  let marked := match cs with
    | '0' :: 'x' :: cs => wordIn? 16 cs
    | '0' :: 'o' :: cs => wordIn? 8 cs
    | '+' :: cs => wordIn? 10 cs
    | _ => none
  marked <|> wordIn? 10 cs

/-- Spellings of numbers that are not finite which no settings can hold. -/
def dottedWords : List String :=
  [".inf", ".Inf", ".INF", "+.inf", "+.Inf", "+.INF", "-.inf", "-.Inf", "-.INF", ".nan", ".NAN"]

namespace Node

/-- The scalar of a text without quote marks. -/
def ofPlain? (s : String) : Option Node :=
  if s = "" ∨ s = "~" ∨ s = "null" then some .null
  else if s = "true" then some (.bool true)
  else if s = "false" then some (.bool false)
  else if dottedWords.contains s then none
  else
    match integer? s.toList with
    | some n => some (.integer n)
    | none =>
      match Double.ofText? s with
      | some x => some (.real x)
      | none => some (.text s)

/-- The scalar of a text without quote marks whose kind a word tells.  What does not read as that
kind is null, and other words make a text. -/
def ofKind? (kind s : String) : Option Node :=
  match kind with
  | "bool" => if s = "true" ∨ s = "false" then some (.bool (s = "true")) else some .null
  | "int" => some (((wordIn? 10 s.toList).map Node.integer).getD .null)
  | "float" =>
    if dottedWords.contains s then none else some (((Double.ofText? s).map Node.real).getD .null)
  | "null" => some .null
  | _ => some (.text s)

/-- The name that a scalar gives to a member of a mapping. -/
def name? : Node → Option Name
  | .text s => some (.text s)
  | .integer n => some (.integer n)
  | _ => none

end Node

end RecordStore.Yaml
