import RecordStore.Number.Radix

/-!
Hexadecimal text.  Numbers are written with lower-case digits in a fixed width; octets are read two
digits at a time, in either case, from the bytes of a text.
-/
namespace RecordStore.Text
open RecordStore.Number

/-- The digit of a value below sixteen, in lower case. -/
def hexDigit (d : Nat) : Char :=
  if d < 10 then Char.ofNat (48 + d) else Char.ofNat (87 + d)

/-- The value of a digit between `0` and `9` or `a` and `f`. -/
def lowerHexValue? (c : Char) : Option Nat :=
  if '0' ≤ c ∧ c ≤ '9' then some (c.toNat - 48)
  else if 'a' ≤ c ∧ c ≤ 'f' then some (c.toNat - 87)
  else none

/-- The last `width` hexadecimal digits of a number. -/
def lowerHex (width n : Nat) : List Char :=
  (digits 16 width n).map hexDigit

/-- The number named by exactly `width` lower-case digits. -/
def ofLowerHex? (width : Nat) (cs : List Char) : Option Nat :=
  if cs.length = width then (cs.mapM lowerHexValue?).map (ofDigits 16) else none

/-- Why a text is not the hexadecimal form of octets. -/
inductive HexFault
  | oddLength
  | badDigit (byte : UInt8) (position : Nat)
deriving DecidableEq, Repr

/-- The value of a byte that is a digit in either case. -/
def hexByteValue? (b : UInt8) : Option Nat :=
  if 48 ≤ b ∧ b ≤ 57 then some (b.toNat - 48)
  else if 97 ≤ b ∧ b ≤ 102 then some (b.toNat - 87)
  else if 65 ≤ b ∧ b ≤ 70 then some (b.toNat - 55)
  else none

private def octetsFrom (position : Nat) : List UInt8 → Except HexFault (List UInt8)
  | [] => .ok []
  | [_] => .error .oddLength
  | high :: low :: rest =>
    match hexByteValue? high, hexByteValue? low with
    | none, _ => .error (.badDigit high position)
    | _, none => .error (.badDigit low (position + 1))
    | some h, some l => (octetsFrom (position + 2) rest).map (UInt8.ofNat (16 * h + l) :: ·)

/-- The octets of a text of digit pairs.  The length is looked at before any digit. -/
def octets (bytes : List UInt8) : Except HexFault (List UInt8) :=
  if bytes.length % 2 = 1 then .error .oddLength else octetsFrom 0 bytes

theorem lowerHexValue?_hexDigit {d : Nat} (h : d < 16) : lowerHexValue? (hexDigit d) = some d := by
  have key : ∀ d ∈ List.range 16, lowerHexValue? (hexDigit d) = some d := by decide
  exact key d (List.mem_range.2 h)

theorem hexDigit_of_lowerHexValue? {c : Char} {d : Nat} (h : lowerHexValue? c = some d) :
    d < 16 ∧ hexDigit d = c := by
  unfold lowerHexValue? at h
  split at h
  · next hc =>
    obtain rfl := Option.some.inj h
    have h1 : 48 ≤ c.toNat := hc.1
    have h2 : c.toNat ≤ 57 := hc.2
    have he : 48 + (c.toNat - 48) = c.toNat := by omega
    refine ⟨by omega, ?_⟩
    rw [hexDigit, if_pos (by omega), he, Char.ofNat_toNat]
  · split at h
    · next hc =>
      obtain rfl := Option.some.inj h
      have h1 : 97 ≤ c.toNat := hc.1
      have h2 : c.toNat ≤ 102 := hc.2
      have he : 87 + (c.toNat - 87) = c.toNat := by omega
      refine ⟨by omega, ?_⟩
      rw [hexDigit, if_neg (by omega), he, Char.ofNat_toNat]
    · simp at h

end RecordStore.Text
