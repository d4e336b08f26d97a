import PipelineCache.Bytes

/-! The 64-bit XXH3 hash with seed zero. Short inputs are mixed directly with words of a fixed
secret, by one rule for each class of lengths; inputs above 240 bytes run through eight lanes, in
stripes of 64 bytes and blocks of sixteen stripes. -/

namespace PipelineCache.Xxh3

def secret : Array UInt8 := #[
  0xb8, 0xfe, 0x6c, 0x39, 0x23, 0xa4, 0x4b, 0xbe, 0x7c, 0x01, 0x81, 0x2c, 0xf7, 0x21, 0xad, 0x1c,
  0xde, 0xd4, 0x6d, 0xe9, 0x83, 0x90, 0x97, 0xdb, 0x72, 0x40, 0xa4, 0xa4, 0xb7, 0xb3, 0x67, 0x1f,
  0xcb, 0x79, 0xe6, 0x4e, 0xcc, 0xc0, 0xe5, 0x78, 0x82, 0x5a, 0xd0, 0x7d, 0xcc, 0xff, 0x72, 0x21,
  0xb8, 0x08, 0x46, 0x74, 0xf7, 0x43, 0x24, 0x8e, 0xe0, 0x35, 0x90, 0xe6, 0x81, 0x3a, 0x26, 0x4c,
  0x3c, 0x28, 0x52, 0xbb, 0x91, 0xc3, 0x00, 0xcb, 0x88, 0xd0, 0x65, 0x8b, 0x1b, 0x53, 0x2e, 0xa3,
  0x71, 0x64, 0x48, 0x97, 0xa2, 0x0d, 0xf9, 0x4e, 0x38, 0x19, 0xef, 0x46, 0xa9, 0xde, 0xac, 0xd8,
  0xa8, 0xfa, 0x76, 0x3f, 0xe3, 0x9c, 0x34, 0x3f, 0xf9, 0xdc, 0xbb, 0xc7, 0xc7, 0x0b, 0x4f, 0x1d,
  0x8a, 0x51, 0xe0, 0x4b, 0xcd, 0xb4, 0x59, 0x31, 0xc8, 0x9f, 0x7e, 0xc9, 0xd9, 0x78, 0x73, 0x64,
  0xea, 0xc5, 0xac, 0x83, 0x34, 0xd3, 0xeb, 0xc3, 0xc5, 0x81, 0xa0, 0xff, 0xfa, 0x13, 0x63, 0xeb,
  0x17, 0x0d, 0xdd, 0x51, 0xb7, 0xf0, 0xda, 0x49, 0xd3, 0x16, 0x55, 0x26, 0x29, 0xd4, 0x68, 0x9e,
  0x2b, 0x16, 0xbe, 0x58, 0x7d, 0x47, 0xa1, 0xfc, 0x8f, 0xf8, 0xb8, 0xd1, 0x7a, 0xd0, 0x31, 0xce,
  0x45, 0xcb, 0x3a, 0x8f, 0x95, 0x16, 0x04, 0x28, 0xaf, 0xd7, 0xfb, 0xca, 0xbb, 0x4b, 0x40, 0x7e]

def prime32₁ : UInt64 := 0x9E3779B1
def prime32₂ : UInt64 := 0x85EBCA77
def prime32₃ : UInt64 := 0xC2B2AE3D
def prime64₁ : UInt64 := 0x9E3779B185EBCA87
def prime64₂ : UInt64 := 0xC2B2AE3D27D4EB4F
def prime64₃ : UInt64 := 0x165667B19E3779F9
def prime64₄ : UInt64 := 0x85EBCA77C2B2AE63
def prime64₅ : UInt64 := 0x27D4EB2F165667C5

/-- The byte at a position, zero beyond the end. -/
def byteAt (data : Array UInt8) (index : Nat) : UInt64 := (data.getD index 0).toUInt64

/-- Four bytes from a position on, least significant first. -/
def word32 (data : Array UInt8) (start : Nat) : UInt64 :=
  byteAt data start ||| (byteAt data (start + 1) <<< 8)
    ||| (byteAt data (start + 2) <<< 16) ||| (byteAt data (start + 3) <<< 24)

/-- Eight bytes from a position on, least significant first. -/
def word64 (data : Array UInt8) (start : Nat) : UInt64 :=
  word32 data start ||| (word32 data (start + 4) <<< 32)

def rotateLeft (word count : UInt64) : UInt64 := (word <<< count) ||| (word >>> (64 - count))

def swapBytes (word : UInt64) : UInt64 :=
  UInt64.ofNat (Bytes.toNat (Bytes.ofNat 8 word.toNat).reverse)

/-- The two halves of the 128-bit product, combined by exclusive or. -/
def foldedProduct (x y : UInt64) : UInt64 :=
  let product := x.toNat * y.toNat
  UInt64.ofNat product ^^^ UInt64.ofNat (product >>> 64)

def avalanche (word : UInt64) : UInt64 :=
  let word := word ^^^ (word >>> 37)
  let word := word * 0x165667919E3779F9
  word ^^^ (word >>> 32)

def avalancheShort (word : UInt64) : UInt64 :=
  let word := (word ^^^ (word >>> 33)) * prime64₂
  let word := (word ^^^ (word >>> 29)) * prime64₃
  word ^^^ (word >>> 32)

def hashUpTo3 (data : Array UInt8) : UInt64 :=
  let size := data.size
  let combined := (byteAt data 0 <<< 16) ||| (byteAt data (size / 2) <<< 24)
    ||| byteAt data (size - 1) ||| (UInt64.ofNat size <<< 8)
  avalancheShort (combined ^^^ (word32 secret 0 ^^^ word32 secret 4))

def hashUpTo8 (data : Array UInt8) : UInt64 :=
  let size := data.size
  let combined := word32 data (size - 4) + (word32 data 0 <<< 32)
  let keyed := combined ^^^ (word64 secret 8 ^^^ word64 secret 16)
  let word := keyed ^^^ rotateLeft keyed 49 ^^^ rotateLeft keyed 24
  let word := word * 0x9FB21C651E98DF25
  let word := word ^^^ ((word >>> 35) + UInt64.ofNat size)
  let word := word * 0x9FB21C651E98DF25
  word ^^^ (word >>> 28)

def hashUpTo16 (data : Array UInt8) : UInt64 :=
  let size := data.size
  let low := word64 data 0 ^^^ (word64 secret 24 ^^^ word64 secret 32)
  let high := word64 data (size - 8) ^^^ (word64 secret 40 ^^^ word64 secret 48)
  avalanche (UInt64.ofNat size + swapBytes low + high + foldedProduct low high)

/-- Sixteen bytes of the input against sixteen bytes of the secret. -/
def mix (data : Array UInt8) (start keyStart : Nat) : UInt64 :=
  foldedProduct (word64 data start ^^^ word64 secret keyStart)
    (word64 data (start + 8) ^^^ word64 secret (keyStart + 8))

def total (words : List UInt64) : UInt64 := words.foldl (· + ·) 0

/-- Pairs of sixteen-byte pieces from both ends, as many as cover the input. -/
def hashUpTo128 (data : Array UInt8) : UInt64 :=
  let size := data.size
  let pairs := (size - 1) / 32 + 1
  avalanche (UInt64.ofNat size * prime64₁ + total ((List.range pairs).map fun index =>
    mix data (16 * index) (32 * index) + mix data (size - 16 * (index + 1)) (32 * index + 16)))

def hashUpTo240 (data : Array UInt8) : UInt64 :=
  let size := data.size
  let early := total ((List.range 8).map fun index => mix data (16 * index) (16 * index))
  let later := total ((List.range (size / 16 - 8)).map fun index =>
    mix data (16 * (index + 8)) (16 * index + 3))
  avalanche (avalanche (UInt64.ofNat size * prime64₁ + early) + later
    + mix data (size - 16) (136 - 17))

abbrev Lanes := Vector UInt64 8

def Lanes.initial : Lanes :=
  #v[prime32₃, prime64₁, prime64₂, prime64₃, prime64₄, prime32₂, prime64₅, prime32₁]

/-- Eight words of the input: each is added to the neighbouring lane, and the product of the halves
of the keyed word to its own. -/
def Lanes.accumulate (data : Array UInt8) (start keyStart : Nat) (lanes : Lanes) : Lanes :=
  Vector.ofFn fun lane =>
    let keyed := word64 data (start + 8 * lane) ^^^ word64 secret (keyStart + 8 * lane)
    let neighbour := if lane.val % 2 = 0 then lane.val + 1 else lane.val - 1
    lanes[lane] + word64 data (start + 8 * neighbour)
      + keyed.toUInt32.toUInt64 * (keyed >>> 32)

def Lanes.scramble (lanes : Lanes) : Lanes :=
  Vector.ofFn fun lane =>
    let word := lanes[lane]
    ((word ^^^ (word >>> 47)) ^^^ word64 secret (128 + 8 * lane)) * prime32₁

/-- The first `count` stripes from a position on. -/
def Lanes.stripes (data : Array UInt8) (start count : Nat) (lanes : Lanes) : Lanes :=
  (List.range count).foldl
    (fun lanes stripe => lanes.accumulate data (start + 64 * stripe) (8 * stripe)) lanes

def Lanes.blocks (data : Array UInt8) (count : Nat) (lanes : Lanes) : Lanes :=
  (List.range count).foldl
    (fun lanes block => (lanes.stripes data (1024 * block) 16).scramble) lanes

def Lanes.merge (lanes : Lanes) (start : UInt64) : UInt64 :=
  avalanche (start + total ((List.range 4).map fun index =>
    foldedProduct (lanes.toArray.getD (2 * index) 0 ^^^ word64 secret (11 + 16 * index))
      (lanes.toArray.getD (2 * index + 1) 0 ^^^ word64 secret (19 + 16 * index))))

def hashLong (data : Array UInt8) : UInt64 :=
  let size := data.size
  let blocks := (size - 1) / 1024
  let stripes := (size - 1 - 1024 * blocks) / 64
  let lanes := (Lanes.initial.blocks data blocks).stripes data (1024 * blocks) stripes
  let lanes := lanes.accumulate data (size - 64) (192 - 64 - 7)
  lanes.merge (UInt64.ofNat size * prime64₁)

def hash (bytes : Bytes) : UInt64 :=
  let data := bytes.toArray
  if data.size = 0 then avalancheShort (word64 secret 56 ^^^ word64 secret 64)
  else if data.size ≤ 3 then hashUpTo3 data
  else if data.size ≤ 8 then hashUpTo8 data
  else if data.size ≤ 16 then hashUpTo16 data
  else if data.size ≤ 128 then hashUpTo128 data
  else if data.size ≤ 240 then hashUpTo240 data
  else hashLong data

end PipelineCache.Xxh3
