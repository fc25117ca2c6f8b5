/-!
The 64-bit XXH3 hash with seed zero.  Short inputs are mixed directly with words of a fixed secret;
inputs above 240 bytes are folded stripe by stripe into eight accumulators.
-/
namespace RecordStore.Hash.Xxh3

/-- The fixed secret of 192 bytes. -/
def secret : Array UInt8 := #[
  0xb8, 0xfe, 0x6c, 0x39, 0x23, 0xa4, 0x4b, 0xbe, 0x7c, 0x01, 0x81, 0x2c, 0xf7, 0x21, 0xad, 0x1c,
  0xde, 0xd4, 0x6d, 0xe9, 0x83, 0x90, 0x97, 0xdb, 0x72, 0x40, 0xa4, 0xa4, 0xb7, 0xb3, 0x67, 0x1f,
  0xcb, 0x79, 0xe6, 0x4e, 0xcc, 0xc0, 0xe5, 0x78, 0x82, 0x5a, 0xd0, 0x7d, 0xcc, 0xff, 0x72, 0x21,
  0xb8, 0x08, 0x46, 0x74, 0xf7, 0x43, 0x24, 0x8e, 0xe0, 0x35, 0x90, 0xe6, 0x81, 0x3a, 0x26, 0x4c,
  0x3c, 0x28, 0x52, 0xbb, 0x91, 0xc3, 0x00, 0xcb, 0x88, 0xd0, 0x65, 0x8b, 0x1b, 0x53, 0x2e, 0xa3,
  0x71, 0x64, 0x48, 0x97, 0xa2, 0x0d, 0xf9, 0x4e, 0x38, 0x19, 0xef, 0x46, 0xa9, 0xde, 0xac, 0xd8,
  0xa8, 0xfa, 0x76, 0x3f, 0xe3, 0x9c, 0x34, 0x3f, 0xf9, 0xdc, 0xbb, 0xc7, 0xc7, 0x0b, 0x4f, 0x1d,
  0x8a, 0x51, 0xe0, 0x4b, 0xcd, 0xb4, 0x59, 0x31, 0xc8, 0x9f, 0x7e, 0xc9, 0xd9, 0x78, 0x73, 0x64,
  0xea, 0xc5, 0xac, 0x83, 0x34, 0xd3, 0xeb, 0xc3, 0xc5, 0x81, 0xa0, 0xff, 0xfa, 0x13, 0x63, 0xeb,
  0x17, 0x0d, 0xdd, 0x51, 0xb7, 0xf0, 0xda, 0x49, 0xd3, 0x16, 0x55, 0x26, 0x29, 0xd4, 0x68, 0x9e,
  0x2b, 0x16, 0xbe, 0x58, 0x7d, 0x47, 0xa1, 0xfc, 0x8f, 0xf8, 0xb8, 0xd1, 0x7a, 0xd0, 0x31, 0xce,
  0x45, 0xcb, 0x3a, 0x8f, 0x95, 0x16, 0x04, 0x28, 0xaf, 0xd7, 0xfb, 0xca, 0xbb, 0x4b, 0x40, 0x7e
]

/-- The byte at a position, zero past the end. -/
def byteAt (bytes : Array UInt8) (i : Nat) : UInt64 :=
  (bytes.getD i 0).toUInt64

/-- Four bytes, least significant first. -/
def word32 (bytes : Array UInt8) (i : Nat) : UInt64 :=
  byteAt bytes i ||| byteAt bytes (i + 1) <<< 8 ||| byteAt bytes (i + 2) <<< 16 |||
    byteAt bytes (i + 3) <<< 24

/-- Eight bytes, least significant first. -/
def word64 (bytes : Array UInt8) (i : Nat) : UInt64 :=
  word32 bytes i ||| word32 bytes (i + 4) <<< 32

/-- The two halves of a 128-bit product, one mixed into the other. -/
def foldedProduct (a b : UInt64) : UInt64 :=
  let p := a.toNat * b.toNat
  UInt64.ofNat p ^^^ UInt64.ofNat (p >>> 64)

def rotateLeft (x : UInt64) (k : UInt64) : UInt64 :=
  x <<< k ||| x >>> (64 - k)

/-- The bytes of a word in the opposite order. -/
def reverseBytes (x : UInt64) : UInt64 :=
  (List.range 8).foldl (fun y i => y <<< 8 ||| (x >>> (8 * UInt64.ofNat i)) &&& 0xFF) 0

def prime32a : UInt64 := 0x9E3779B1
def prime32b : UInt64 := 0x85EBCA77
def prime32c : UInt64 := 0xC2B2AE3D
def prime64a : UInt64 := 0x9E3779B185EBCA87
def prime64b : UInt64 := 0xC2B2AE3D27D4EB4F
def prime64c : UInt64 := 0x165667B19E3779F9
def prime64d : UInt64 := 0x85EBCA77C2B2AE63
def prime64e : UInt64 := 0x27D4EB2F165667C5

/-- Final mixing of inputs up to three bytes and of the empty input. -/
def finishShort (x : UInt64) : UInt64 :=
  let x := (x ^^^ x >>> 33) * prime64b
  let x := (x ^^^ x >>> 29) * prime64c
  x ^^^ x >>> 32

/-- Final mixing of longer inputs. -/
def finish (x : UInt64) : UInt64 :=
  let x := (x ^^^ x >>> 37) * 0x165667919E3779F9
  x ^^^ x >>> 32

/-- Inputs of one to three bytes. -/
def upTo3 (bytes : Array UInt8) : UInt64 :=
  let n := bytes.size
  -- the first, the middle and the last byte coincide in the shortest inputs
  let combined := byteAt bytes 0 <<< 16 ||| byteAt bytes (n / 2) <<< 24 ||| byteAt bytes (n - 1) |||
    UInt64.ofNat n <<< 8
  finishShort (combined ^^^ (word32 secret 0 ^^^ word32 secret 4))

/-- Inputs of four to eight bytes. -/
def upTo8 (bytes : Array UInt8) : UInt64 :=
  let n := bytes.size
  let keyed := (word32 bytes (n - 4) + word32 bytes 0 <<< 32) ^^^
    (word64 secret 8 ^^^ word64 secret 16)
  let x := (keyed ^^^ rotateLeft keyed 49 ^^^ rotateLeft keyed 24) * 0x9FB21C651E98DF25
  let x := (x ^^^ (x >>> 35 + UInt64.ofNat n)) * 0x9FB21C651E98DF25
  x ^^^ x >>> 28

/-- Inputs of nine to sixteen bytes. -/
def upTo16 (bytes : Array UInt8) : UInt64 :=
  let n := bytes.size
  let low := word64 bytes 0 ^^^ (word64 secret 24 ^^^ word64 secret 32)
  let high := word64 bytes (n - 8) ^^^ (word64 secret 40 ^^^ word64 secret 48)
  finish (UInt64.ofNat n + reverseBytes low + high + foldedProduct low high)

/-- Sixteen bytes mixed with sixteen bytes of the secret. -/
def mix16 (bytes : Array UInt8) (i s : Nat) : UInt64 :=
  foldedProduct (word64 bytes i ^^^ word64 secret s)
    (word64 bytes (i + 8) ^^^ word64 secret (s + 8))

/-- Inputs of 17 to 128 bytes: blocks are taken from both ends towards the middle. -/
def upTo128 (bytes : Array UInt8) : UInt64 :=
  let n := bytes.size
  let pairs := (n - 1) / 32 + 1
  finish <| (List.range pairs).foldl
    (fun acc i => acc + mix16 bytes (16 * i) (32 * i) +
      mix16 bytes (n - 16 * (i + 1)) (32 * i + 16))
    (UInt64.ofNat n * prime64a)

/-- Inputs of 129 to 240 bytes. -/
def upTo240 (bytes : Array UInt8) : UInt64 :=
  let n := bytes.size
  let first := (List.range 8).foldl (fun acc i => acc + mix16 bytes (16 * i) (16 * i))
    (UInt64.ofNat n * prime64a)
  let rest := (List.range (n / 16 - 8)).foldl
    (fun acc i => acc + mix16 bytes (16 * (i + 8)) (16 * i + 3)) (finish first)
  finish (rest + mix16 bytes (n - 16) 119)

/-- The eight accumulators before any input. -/
def initialLanes : List UInt64 :=
  [prime32c, prime64a, prime64b, prime64c, prime64d, prime32b, prime64e, prime32a]

/-- One stripe of 64 bytes at `i` against the secret at `s`. -/
def accumulate (bytes : Array UInt8) (i s : Nat) (lanes : List UInt64) : List UInt64 :=
  lanes.mapIdx fun k (lane : UInt64) =>
    let keyed : UInt64 := word64 bytes (i + 8 * k) ^^^ word64 secret (s + 8 * k)
    let partner : UInt64 := word64 bytes (i + 8 * (if k % 2 = 0 then k + 1 else k - 1))
    lane + partner + (keyed &&& (0xFFFFFFFF : UInt64)) * (keyed >>> (32 : UInt64))

/-- The mixing between two blocks of sixteen stripes. -/
def scramble (lanes : List UInt64) : List UInt64 :=
  lanes.mapIdx fun k (lane : UInt64) =>
    (lane ^^^ lane >>> 47 ^^^ word64 secret (128 + 8 * k)) * prime32a

/-- The accumulators merged into one word. -/
def mergeLanes (lanes : List UInt64) (s : Nat) (start : UInt64) : UInt64 :=
  finish <| (List.range 4).foldl
    (fun acc i => acc + foldedProduct (lanes.getD (2 * i) 0 ^^^ word64 secret (s + 16 * i))
      (lanes.getD (2 * i + 1) 0 ^^^ word64 secret (s + 16 * i + 8))) start

/-- Inputs above 240 bytes: whole blocks of 1024 bytes, the stripes of the last block, and one
stripe that ends with the input. -/
def long (bytes : Array UInt8) : UInt64 :=
  let n := bytes.size
  let blocks := (n - 1) / 1024
  let stripes (count start : Nat) (lanes : List UInt64) : List UInt64 :=
    (List.range count).foldl (fun ls i => accumulate bytes (start + 64 * i) (8 * i) ls) lanes
  let whole := (List.range blocks).foldl
    (fun ls b => scramble (stripes 16 (1024 * b) ls)) initialLanes
  let tail := stripes ((n - 1 - 1024 * blocks) / 64) (1024 * blocks) whole
  let last := accumulate bytes (n - 64) 121 tail
  mergeLanes last 11 (UInt64.ofNat n * prime64a)

/-- The hash of a sequence of bytes. -/
def hash64 (bytes : Array UInt8) : UInt64 :=
  let n := bytes.size
  if n = 0 then finishShort (word64 secret 56 ^^^ word64 secret 64)
  else if n ≤ 3 then upTo3 bytes
  else if n ≤ 8 then upTo8 bytes
  else if n ≤ 16 then upTo16 bytes
  else if n ≤ 128 then upTo128 bytes
  else if n ≤ 240 then upTo240 bytes
  else long bytes

end RecordStore.Hash.Xxh3
