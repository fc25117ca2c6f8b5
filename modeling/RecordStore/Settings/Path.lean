import RecordStore.Settings.Value
import RecordStore.Text.Decimal

/-!
Paths to settings, written as names with dots between them and places of elements in brackets.
-/
namespace RecordStore

namespace SettingPath

/-- Whether a character can stand in a name of a path. -/
def isNameChar (c : Char) : Bool :=
  c.isAlphanum || c == '_' || c == '-' || c == ' '

/-- The place that a bracket holds, and what follows.  It is a signed word. -/
def element? (cs : List Char) : Option (Int × List Char) :=
  let space (c : Char) : Bool := c == ' ' || c == '\t'
  let cs := cs.dropWhile space
  let (negative, cs) := match cs with
    | '-' :: cs => (true, cs)
    | cs => (false, cs)
  (Text.natural? (cs.takeWhile Char.isDigit)).bind fun n =>
    (Number.signedWord? (if negative then -n else n)).bind fun i =>
      match (cs.dropWhile Char.isDigit).dropWhile space with
      | ']' :: rest => some (i.toInt, rest)
      | _ => none

/-- The steps of a path behind its first name. -/
def steps? : Nat → List Char → Option (List SettingStep)
  | _, [] => some []
  | fuel + 1, '.' :: cs =>
    let name := cs.takeWhile isNameChar
    if name = [] then none
    else
      (steps? fuel (cs.dropWhile isNameChar)).map fun ss => .member (String.ofList name) :: ss
  | fuel + 1, '[' :: cs =>
    (element? cs).bind fun (i, rest) => (steps? fuel rest).map fun ss => .element i :: ss
  | _, _ => none

/-- The steps of a path.  Capital letters count as small ones, and a text that is no path is a
single name. -/
def steps (path : String) : List SettingStep :=
  let path := Text.lower path
  let cs := path.toList
  let name := cs.takeWhile isNameChar
  let read := if name = [] then none
    else (steps? cs.length (cs.dropWhile isNameChar)).map fun ss =>
      .member (String.ofList name) :: ss
  read.getD [.member path]

end SettingPath

end RecordStore
