import RecordStore.Crypto.Des
import RecordStore.Crypto.Pbkdf2
import RecordStore.Error

/-!
Opaque key texts.  The number of a record is encrypted as one block under a key that is derived from
a password and the name of the type, and shown as `@type:` with sixteen hexadecimal digits.  Derived
keys are kept in a cache under the name of the type alone, so codecs that share a cache share its
keys.
-/
namespace RecordStore

/-- What a codec is made from. -/
structure CodecSettings where
  password : String
  salt : String
  /-- The initial vector as sixteen hexadecimal digits. -/
  iv : String
  iterations : UInt32
deriving DecidableEq, Repr

def CodecSettings.default : CodecSettings :=
  ⟨"changeme", "asalt", "0123456789ABCDEF", 1024⟩

/-- Derived keys by type name, the latest first. -/
abbrev KeyCache := List (String × Crypto.Des.TripleKey)

structure KeyCodec where
  password : String
  salt : String
  iv : BitVec 64
  iterations : UInt32
deriving DecidableEq, Repr

namespace KeyCodec
open Crypto Number

/-- The word that eight octets name. -/
def wordOfOctets (os : List UInt8) : BitVec 64 :=
  BitVec.ofNat 64 (ofDigits 256 (os.map UInt8.toNat))

/-- The codec of given settings. -/
def ofSettings (s : CodecSettings) : Except Error KeyCodec :=
  match Text.octets s.iv.toUTF8.data.toList with
  | .error f => .error (.settings (.badIv f))
  | .ok os =>
    if os.length ≠ 8 then .error (.settings .ivLength)
    else if s.iterations = 0 then .error (.settings .zeroIterations)
    else .ok ⟨s.password, s.salt, wordOfOctets os, s.iterations⟩

/-- The key that the codec derives for a type. -/
def derive (c : KeyCodec) (typeName : String) : Des.TripleKey :=
  let os := pbkdf2 (c.password ++ ":" ++ typeName).toUTF8.data.toList c.salt.toUTF8.data.toList
    c.iterations.toNat 24
  ⟨wordOfOctets (os.take 8), wordOfOctets ((os.drop 8).take 8), wordOfOctets (os.drop 16)⟩

/-- The key of a type from the cache, or derived and then kept there. -/
def keyFor (c : KeyCodec) (typeName : String) (cache : KeyCache) : Des.TripleKey × KeyCache :=
  match cache.lookup typeName with
  | some k => (k, cache)
  | none => (c.derive typeName, (typeName, c.derive typeName) :: cache)

theorem lookup_keyFor (c : KeyCodec) (typeName : String) (cache : KeyCache) :
    (c.keyFor typeName cache).2.lookup typeName = some (c.keyFor typeName cache).1 := by
  unfold keyFor
  split
  next k h => exact h
  next h => simp

theorem lookup_keyFor_of_ne {cache : KeyCache} {typeName other : String} (c : KeyCodec)
    (h : other ≠ typeName) : (c.keyFor typeName cache).2.lookup other = cache.lookup other := by
  unfold keyFor
  split
  · rfl
  · rw [List.lookup_cons, beq_false_of_ne h]

/-- A key in the cache never changes. -/
theorem lookup_keyFor_of_lookup {cache : KeyCache} {other : String} {k : Des.TripleKey}
    (c : KeyCodec) (typeName : String) (h : cache.lookup other = some k) :
    (c.keyFor typeName cache).2.lookup other = some k := by
  by_cases hother : other = typeName
  · subst hother
    rw [keyFor, h]
    exact h
  · rw [lookup_keyFor_of_ne c hother]
    exact h

/-- The block of a record number. -/
def encryptId (c : KeyCodec) (k : Des.TripleKey) (id : UInt64) : BitVec 64 :=
  Des.encrypt k (id.toBitVec ^^^ c.iv)

/-- The record number of a block. -/
def decryptId (c : KeyCodec) (k : Des.TripleKey) (block : BitVec 64) : UInt64 :=
  ⟨Des.decrypt k block ^^^ c.iv⟩

theorem decryptId_encryptId (c : KeyCodec) (k : Des.TripleKey) (id : UInt64) :
    c.decryptId k (c.encryptId k id) = id := by
  simp only [decryptId, encryptId, Des.decrypt_encrypt, BitVec.xor_assoc, BitVec.xor_self,
    BitVec.xor_zero]

theorem encryptId_decryptId (c : KeyCodec) (k : Des.TripleKey) (block : BitVec 64) :
    c.encryptId k (c.decryptId k block) = block := by
  simp only [decryptId, encryptId, BitVec.xor_assoc, BitVec.xor_self, BitVec.xor_zero,
    Des.encrypt_decrypt]

/-- Whether keys of a type can be encoded. -/
def encodable (typeName : String) : Bool :=
  typeName != "" && !typeName.toList.contains ':' && typeName.toList.head? != some '@'

/-- The number of hexadecimal digits of a block. -/
def blockDigits : Nat := 16

/-- The opaque text of a key, and the cache afterwards. -/
def encode (c : KeyCodec) (key : Key) (cache : KeyCache) : Except Key.Fault String × KeyCache :=
  if encodable key.typeName then
    let (k, cache) := c.keyFor key.typeName cache
    let hex := Text.lowerHex blockDigits (c.encryptId k key.id).toNat
    (.ok ("@" ++ key.typeName ++ ":" ++ String.ofList hex), cache)
  else (.error (.unencodableType key.typeName), cache)

/-- The type name and the block of the rest of an opaque text after its mark. -/
def opaqueParts? (body : List Char) : Option (String × BitVec 64) :=
  match body.dropWhile (· != ':') with
  | [] => none
  | _ :: hex =>
    let typeName := body.takeWhile (· != ':')
    if typeName = [] then none
    else (Text.ofLowerHex? blockDigits hex).map fun n => (String.ofList typeName, BitVec.ofNat 64 n)

/-- The key of a text, opaque or plain, and the cache afterwards. -/
def decode (c : KeyCodec) (text : String) (cache : KeyCache) : Except Key.Fault Key × KeyCache :=
  if !text.toList.contains ':' then (.error (.notKey text), cache)
  else
    match text.toList with
    | '@' :: body =>
      match opaqueParts? body with
      | none => (.error (.notKey text), cache)
      | some (typeName, block) =>
        -- only a text of the right form makes the codec derive a key
        let (k, cache) := c.keyFor typeName cache
        (.ok ⟨typeName, c.decryptId k block⟩, cache)
    | _ => (Key.parse text, cache)

end KeyCodec

end RecordStore
