import PipelineCache.Bytes

/-! SHA-256. A message is padded to whole blocks of 64 bytes; every block stirs the eight words of
the chaining value through 64 rounds, whose message words are grown from the block in a sliding
window of sixteen. -/

namespace PipelineCache.Sha256

/-- The first 32 bits of the fractional parts of the cube roots of the first 64 primes. -/
def roundConstants : List UInt32 := [
  0x428a2f98, 0x71374491, 0xb5c0fbcf, 0xe9b5dba5, 0x3956c25b, 0x59f111f1, 0x923f82a4, 0xab1c5ed5,
  0xd807aa98, 0x12835b01, 0x243185be, 0x550c7dc3, 0x72be5d74, 0x80deb1fe, 0x9bdc06a7, 0xc19bf174,
  0xe49b69c1, 0xefbe4786, 0x0fc19dc6, 0x240ca1cc, 0x2de92c6f, 0x4a7484aa, 0x5cb0a9dc, 0x76f988da,
  0x983e5152, 0xa831c66d, 0xb00327c8, 0xbf597fc7, 0xc6e00bf3, 0xd5a79147, 0x06ca6351, 0x14292967,
  0x27b70a85, 0x2e1b2138, 0x4d2c6dfc, 0x53380d13, 0x650a7354, 0x766a0abb, 0x81c2c92e, 0x92722c85,
  0xa2bfe8a1, 0xa81a664b, 0xc24b8b70, 0xc76c51a3, 0xd192e819, 0xd6990624, 0xf40e3585, 0x106aa070,
  0x19a4c116, 0x1e376c08, 0x2748774c, 0x34b0bcb5, 0x391c0cb3, 0x4ed8aa4a, 0x5b9cca4f, 0x682e6ff3,
  0x748f82ee, 0x78a5636f, 0x84c87814, 0x8cc70208, 0x90befffa, 0xa4506ceb, 0xbef9a3f7, 0xc67178f2]

/-- The eight words of the chaining value, also the working variables of the rounds. -/
structure Words where
  a : UInt32
  b : UInt32
  c : UInt32
  d : UInt32
  e : UInt32
  f : UInt32
  g : UInt32
  h : UInt32

/-- The first 32 bits of the fractional parts of the square roots of the first eight primes. -/
def Words.initial : Words :=
  ⟨0x6a09e667, 0xbb67ae85, 0x3c6ef372, 0xa54ff53a, 0x510e527f, 0x9b05688c, 0x1f83d9ab, 0x5be0cd19⟩

def rotateRight (word : UInt32) (count : UInt32) : UInt32 :=
  (word >>> count) ||| (word <<< (32 - count))

/-- The word that follows sixteen message words. -/
def nextWord (window : List UInt32) : UInt32 :=
  let early := window.getD 1 0
  let late := window.getD 14 0
  window.getD 0 0 + (rotateRight early 7 ^^^ rotateRight early 18 ^^^ (early >>> 3))
    + window.getD 9 0 + (rotateRight late 17 ^^^ rotateRight late 19 ^^^ (late >>> 10))

def Words.round (words : Words) (constant message : UInt32) : Words :=
  let ⟨a, b, c, d, e, f, g, h⟩ := words
  let stirred := h + (rotateRight e 6 ^^^ rotateRight e 11 ^^^ rotateRight e 25)
    + ((e &&& f) ^^^ (~~~e &&& g)) + constant + message
  let mixed := (rotateRight a 2 ^^^ rotateRight a 13 ^^^ rotateRight a 22)
    + ((a &&& b) ^^^ (a &&& c) ^^^ (b &&& c))
  ⟨stirred + mixed, a, b, c, d + stirred, e, f, g⟩

/-- One round for each constant; the head of the window is the message word of the round. -/
def rounds : List UInt32 → List UInt32 → Words → Words
  | [], _, words => words
  | constant :: constants, window, words =>
      rounds constants (window.tail ++ [nextWord window])
        (words.round constant (window.headD 0))

/-- The words of a block, most significant byte first. -/
def blockWords : Bytes → List UInt32
  | a :: b :: c :: d :: rest =>
      ((a.toUInt32 <<< 24) ||| (b.toUInt32 <<< 16) ||| (c.toUInt32 <<< 8) ||| d.toUInt32)
        :: blockWords rest
  | _ => []

def Words.add (x y : Words) : Words :=
  ⟨x.a + y.a, x.b + y.b, x.c + y.c, x.d + y.d, x.e + y.e, x.f + y.f, x.g + y.g, x.h + y.h⟩

def Words.absorb (words : Words) (block : Bytes) : Words :=
  words.add (rounds roundConstants (blockWords block) words)

/-- A one bit, zeros, and the length in bits as eight bytes complete the last block. -/
def padding (length : Nat) : Bytes :=
  0x80 :: Bytes.zeros ((119 - length % 64) % 64) ++ (Bytes.ofNat 8 (8 * length)).reverse

def absorbBlocks : Nat → Bytes → Words → Words
  | 0, _, words => words
  | count + 1, bytes, words =>
      absorbBlocks count (bytes.drop 64) (words.absorb (bytes.take 64))

def Words.toBytes (words : Words) : Bytes :=
  [words.a, words.b, words.c, words.d, words.e, words.f, words.g, words.h].flatMap fun word =>
    (Bytes.ofNat 4 word.toNat).reverse

theorem Words.length_toBytes (words : Words) : words.toBytes.length = 32 := by
  simp [Words.toBytes]

def digest (message : Bytes) : Bytes :=
  let padded := message ++ padding message.length
  (absorbBlocks (padded.length / 64) padded .initial).toBytes

@[simp] theorem length_digest (message : Bytes) : (digest message).length = 32 :=
  Words.length_toBytes _

end PipelineCache.Sha256
