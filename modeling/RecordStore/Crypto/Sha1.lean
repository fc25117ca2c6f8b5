/-!
The SHA-1 digest of a list of octets.
-/
namespace RecordStore.Crypto.Sha1

/-- The five words that are carried from block to block. -/
structure State where
  a : UInt32
  b : UInt32
  c : UInt32
  d : UInt32
  e : UInt32
deriving DecidableEq, Repr

def initial : State :=
  ⟨0x67452301, 0xEFCDAB89, 0x98BADCFE, 0x10325476, 0xC3D2E1F0⟩

def rotateLeft (x k : UInt32) : UInt32 :=
  x <<< k ||| x >>> (32 - k)

/-- The words of octets, most significant first.  A rest of fewer than four octets is dropped. -/
def wordsOf : List UInt8 → List UInt32
  | a :: b :: c :: d :: rest =>
    (a.toUInt32 <<< 24 ||| b.toUInt32 <<< 16 ||| c.toUInt32 <<< 8 ||| d.toUInt32) :: wordsOf rest
  | _ => []

def octetsOfWord (x : UInt32) : List UInt8 :=
  [(x >>> 24).toUInt8, (x >>> 16).toUInt8, (x >>> 8).toUInt8, x.toUInt8]

/-- The eighty words that a block of sixteen is spread to. -/
def schedule (block : Array UInt32) : Array UInt32 :=
  (List.range 64).foldl
    (fun w t =>
      w.push (rotateLeft
        (w.getD (t + 13) 0 ^^^ w.getD (t + 8) 0 ^^^ w.getD (t + 2) 0 ^^^ w.getD t 0) 1))
    block

/-- The mixing of one step and the constant of its quarter. -/
def step (s : State) (t : Nat) (w : UInt32) : State :=
  let (f, k) : UInt32 × UInt32 :=
    if t < 20 then ((s.b &&& s.c) ||| ((~~~s.b) &&& s.d), 0x5A827999)
    else if t < 40 then (s.b ^^^ s.c ^^^ s.d, 0x6ED9EBA1)
    else if t < 60 then ((s.b &&& s.c) ||| (s.b &&& s.d) ||| (s.c &&& s.d), 0x8F1BBCDC)
    else (s.b ^^^ s.c ^^^ s.d, 0xCA62C1D6)
  ⟨rotateLeft s.a 5 + f + s.e + k + w, s.a, rotateLeft s.b 30, s.c, s.d⟩

/-- The state after one block. -/
def compress (h : State) (block : Array UInt32) : State :=
  let w := schedule block
  let s := (List.range 80).foldl (fun s t => step s t (w.getD t 0)) h
  ⟨h.a + s.a, h.b + s.b, h.c + s.c, h.d + s.d, h.e + s.e⟩

/-- The octets filled up to whole blocks: a one bit, zeros, and the length in bits. -/
def padded (octets : List UInt8) : List UInt8 :=
  let n := octets.length
  let bits := UInt64.ofNat (8 * n)
  octets ++ (0x80 : UInt8) :: List.replicate ((119 - n % 64) % 64) (0 : UInt8) ++
    octetsOfWord (bits >>> 32).toUInt32 ++ octetsOfWord bits.toUInt32

/-- The digest, twenty octets long. -/
def digest (octets : List UInt8) : List UInt8 :=
  let words := wordsOf (padded octets)
  let s := (List.range (words.length / 16)).foldl
    (fun h i => compress h ((words.drop (16 * i)).take 16).toArray) initial
  octetsOfWord s.a ++ octetsOfWord s.b ++ octetsOfWord s.c ++ octetsOfWord s.d ++ octetsOfWord s.e

end RecordStore.Crypto.Sha1
