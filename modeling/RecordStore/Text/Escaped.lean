import RecordStore.Text.EscapedTable
import RecordStore.Number.Radix

/-!
Text shown inside a message: between quote marks, with escapes for whatever a reader could not see.
-/
namespace RecordStore.Text

/-- Whether a character shows nothing of its own. -/
def isHidden (c : Char) : Bool :=
  let n := c.toNat
  if n < 128 then n < 32 || n == 127 else hiddenRanges.any fun r => r.1 ≤ n && n ≤ r.2

/-- One character inside the quote mark `q`: the mark and the backslash take a backslash, the
common controls have letters, other hidden characters show their number. -/
def escapedChar (q c : Char) : List Char :=
  if c = q then ['\\', c]
  else if c = '\\' then ['\\', '\\']
  else if c = '\n' then ['\\', 'n']
  else if c = '\r' then ['\\', 'r']
  else if c = '\t' then ['\\', 't']
  else if c = '\x00' then ['\\', '0']
  else if isHidden c then ['\\', 'u', '\x7b'] ++ Nat.toDigits 16 c.toNat ++ ['\x7d']
  else [c]

/-- A text between double quote marks. -/
def escaped (s : String) : String :=
  String.ofList ('"' :: s.toList.flatMap (escapedChar '"') ++ ['"'])

/-- A character between single quote marks. -/
def escapedSingle (c : Char) : String :=
  String.ofList ('\'' :: escapedChar '\'' c ++ ['\''])

/-- A list of texts between brackets. -/
def escapedList (xs : List String) : String :=
  "[" ++ ", ".intercalate (xs.map escaped) ++ "]"

end RecordStore.Text
