import RecordStore.Crypto.Sha1

/-!
Keys derived from passwords: PBKDF2 over HMAC with SHA-1.
-/
namespace RecordStore.Crypto

/-- The number of octets in a block of the digest. -/
def blockLength : Nat := 64

/-- A key as one block: long keys are digested, short ones are filled up with zeros. -/
def hmacKey (key : List UInt8) : List UInt8 :=
  let k := if key.length > blockLength then Sha1.digest key else key
  k ++ List.replicate (blockLength - k.length) 0

/-- The keyed digest of a message; `key` is one block. -/
def hmacOfBlock (key message : List UInt8) : List UInt8 :=
  Sha1.digest (key.map (· ^^^ 0x5C) ++ Sha1.digest (key.map (· ^^^ 0x36) ++ message))

/-- The sum of `count` further digests, each of the one before it. -/
def chained (key : List UInt8) : Nat → List UInt8 → List UInt8 → List UInt8
  | 0, _, sum => sum
  | count + 1, last, sum =>
    let next := hmacOfBlock key last
    chained key count next (List.zipWith (· ^^^ ·) sum next)

/-- The block of the derived key with the given number, counted from one. -/
def derivedBlock (key salt : List UInt8) (iterations : Nat) (number : UInt32) : List UInt8 :=
  let first := hmacOfBlock key (salt ++ Sha1.octetsOfWord number)
  chained key (iterations - 1) first first

/-- The first `length` octets derived from a password, at most two blocks. -/
def pbkdf2 (password salt : List UInt8) (iterations length : Nat) : List UInt8 :=
  let key := hmacKey password
  (derivedBlock key salt iterations 1 ++ derivedBlock key salt iterations 2).take length

end RecordStore.Crypto
