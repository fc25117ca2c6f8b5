import RecordStore.Json.Basic
import RecordStore.Number.Shortest
import RecordStore.Text.Decimal

/-!
The compact text of a JSON value.  Strings escape the quote mark, the backslash and the control
characters and nothing else.
-/
namespace RecordStore.Json
open RecordStore.Number RecordStore.Text

/-- One character of a string. -/
def escapedChar (c : Char) : List Char :=
  if c = '"' then ['\\', '"']
  else if c = '\\' then ['\\', '\\']
  else if c = '\x08' then ['\\', 'b']
  else if c = '\x0c' then ['\\', 'f']
  else if c = '\n' then ['\\', 'n']
  else if c = '\r' then ['\\', 'r']
  else if c = '\t' then ['\\', 't']
  else if c.toNat < 32 then
    ['\\', 'u', '0', '0', Nat.digitChar (c.toNat / 16), Nat.digitChar (c.toNat % 16)]
  else [c]

/-- A string between quote marks. -/
def quotedChars (s : String) : List Char :=
  '"' :: s.toList.flatMap escapedChar ++ ['"']

/-- A double with its fewest digits: positional from `1e-5` up to, and not including, `1e16`, with a
fraction always shown, and otherwise with a power of ten. -/
def realChars (x : Binary64) : List Char :=
  let sign := if x.negative then ['-'] else []
  if x.magnitude.isZero then sign ++ ['0', '.', '0']
  else
    let d := x.magnitude.shortest
    let point : Int := d.digits.length + d.exponent
    if 0 ≤ d.exponent ∧ point ≤ 16 then sign ++ d.positional ++ ['.', '0']
    else if -5 < point ∧ point ≤ 16 then sign ++ d.positional
    else sign ++ d.scientific

mutual

/-- The characters of a value. -/
def chars : Json → List Char
  | .null => ['n', 'u', 'l', 'l']
  | .bool true => ['t', 'r', 'u', 'e']
  | .bool false => ['f', 'a', 'l', 's', 'e']
  | .integer n => (decimal n.val).toList
  | .real x => realChars x
  | .string s => quotedChars s
  | .array vs => '[' :: itemChars vs
  | .object ms => '\x7b' :: memberChars ms

/-- The rest of an array, its closing bracket included. -/
def itemChars : List Json → List Char
  | [] => [']']
  | [v] => chars v ++ [']']
  | v :: vs => chars v ++ ',' :: itemChars vs

/-- The rest of an object, its closing brace included. -/
def memberChars : List (String × Json) → List Char
  | [] => ['\x7d']
  | [(k, v)] => quotedChars k ++ ':' :: (chars v ++ ['\x7d'])
  | (k, v) :: ms => quotedChars k ++ ':' :: (chars v ++ ',' :: memberChars ms)

end

/-- The text of a value. -/
def text (v : Json) : String :=
  String.ofList (chars v)

end RecordStore.Json
