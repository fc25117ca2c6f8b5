import RecordStore.Number.Radix

/-!
Pagination tokens.  A token is the URL-safe base-64 text, without padding, of the eight octets of an
offset: eleven digits of six bits, of which the last two bits are spare and must be zero.  Offsets
from `2 ^ 63` on are written and not read.
-/
namespace RecordStore.Token
open RecordStore.Number

/-- The digit of a value below sixty-four. -/
def digit (d : Nat) : Char :=
  if d < 26 then Char.ofNat (65 + d)
  else if d < 52 then Char.ofNat (71 + d)
  else if d < 62 then Char.ofNat (d - 4)
  else if d = 62 then '-' else '_'

/-- The value of a digit. -/
def value? (c : Char) : Option Nat :=
  if 'A' ≤ c ∧ c ≤ 'Z' then some (c.toNat - 65)
  else if 'a' ≤ c ∧ c ≤ 'z' then some (c.toNat - 71)
  else if '0' ≤ c ∧ c ≤ '9' then some (c.toNat + 4)
  else if c = '-' then some 62
  else if c = '_' then some 63
  else none

/-- The token of an offset. -/
def encode (offset : UInt64) : String :=
  String.ofList ((digits 64 11 (4 * offset.toNat)).map digit)

/-- The offset of a token; nothing when the text is not the token of an offset below `2 ^ 63`. -/
def decode? (token : String) : Option UInt64 :=
  if token.toList.length = 11 then
    match token.toList.mapM value? with
    | none => none
    | some ds =>
      let n := ofDigits 64 ds
      if n % 4 = 0 ∧ n / 4 < 0x8000000000000000 then some (UInt64.ofNat (n / 4)) else none
  else none

end RecordStore.Token
